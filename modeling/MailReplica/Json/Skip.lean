import MailReplica.Json.Reader

/-! # Skipping JSON values

A member that a record does not know is skipped, whatever its value.  Skipping is laxer than
reading: it takes numbers of any magnitude and numbered characters that make no text.
-/

namespace MailReplica.Json

/-- Skips a number that starts with a sign or a digit. -/
def skipNumeral : Reader Unit := do
  let demand (found : List Char) : Reader Unit :=
    if found.isEmpty then throw .malformed else pure ()
  let _ ← accept '-'
  let whole ← digits
  demand whole
  if whole.head? == some '0' && 1 < whole.length then throw .malformed
  if ← accept '.' then
    demand (← digits)
  let scaled ← do
    if ← accept 'e' then pure true else accept 'E'
  if scaled then
    unless ← accept '-' do
      let _ ← accept '+'
    demand (← digits)

/-- Skips one character of a string; the result tells whether the string goes on. -/
def skipChar : List Char → Except Problem (Bool × List Char)
  | [] | ['\\'] => .error .ended
  | '"' :: rest => .ok (false, rest)
  | '\\' :: 'u' :: rest => (unit rest).map fun (_, rest) => (true, rest)
  | '\\' :: letter :: rest =>
    if (escaped? letter).isSome then .ok (true, rest) else .error .malformed
  | c :: rest => if c.toNat < 0x20 then .error .malformed else .ok (true, rest)

/-- Skips a string after its opening quotation mark. -/
def skipStringBody : Nat → Reader Unit
  | 0 => throw .ended
  | fuel + 1 => do
    let (goesOn, rest) ← skipChar (← get)
    set rest
    if goesOn then skipStringBody fuel

/-- Skips a string with its quotation marks. -/
def skipString : Reader Unit := do
  advance
  skipStringBody ((← get).length + 1)

/-- Skips a value that holds no other values, by its first character. -/
def skipScalar (first : Char) : Reader Unit := do
  if first = 'n' then letters ['n', 'u', 'l', 'l']
  else if first = 't' then letters ['t', 'r', 'u', 'e']
  else if first = 'f' then letters ['f', 'a', 'l', 's', 'e']
  else if first = '-' ∨ isDigit first then skipNumeral
  else if first = '"' then skipString
  else throw .malformed

/-- A value that other values stand in. -/
inductive Enclosing where
  | list
  | object

/-- The character that ends a value that other values stand in. -/
def Enclosing.close : Enclosing → Char
  | list => ']'
  | object => '}'

/-- Reads the name of a member and its colon; nothing in a list. -/
def Enclosing.skipName : Enclosing → Reader Unit
  | list => pure ()
  | object => do
    value fun first => if first = '"' then skipString else throw .malformed
    colon

/-- Skips values within `around`, innermost first, until all of them are closed.  `after` tells
that a value has just been skipped. -/
def skipWithin : Nat → Bool → List Enclosing → Reader Unit
  | 0, _, _ => throw .ended
  | _ + 1, true, [] => pure ()
  | fuel + 1, true, inner :: around => do
    let next ← value pure
    advance
    if next = inner.close then skipWithin fuel true around
    else if next = ',' then
      inner.skipName
      skipWithin fuel false (inner :: around)
    else throw .malformed
  | fuel + 1, false, around => do
    let first ← value pure
    let opened : Option Enclosing :=
      if first = '[' then some .list else if first = '{' then some .object else none
    match opened with
    | none =>
      skipScalar first
      skipWithin fuel true around
    | some inner =>
      advance
      if (← value pure) = inner.close then
        advance
        skipWithin fuel true around
      else
        inner.skipName
        skipWithin fuel false (inner :: around)

/-- Skips a value of any kind.  Each step takes a character, except the last one. -/
def skip : Reader Unit := do
  skipWithin ((← get).length + 2) false []

/-- Skips the colon and the value of a member. -/
def skipMember : Reader Unit := do
  colon
  skip

end MailReplica.Json
