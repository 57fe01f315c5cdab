/-! # Reading JSON

Readers for values whose kind is known beforehand.  A reader takes as much text as its value needs.
Where it fails it tells whether the text ended too early, is no JSON, or is JSON of another kind;
the first of these problems that reading from left to right meets is the one reported.
-/

namespace MailReplica.Json

/-- Why a text does not hold the value that was asked for. -/
inductive Problem where
  /-- The text ends too early. -/
  | ended
  /-- The text is no JSON. -/
  | malformed
  /-- The text is JSON, but of another kind. -/
  | mismatched
  deriving DecidableEq

/-- Reads a value from the start of a text. -/
abbrev Reader := StateT (List Char) (Except Problem)

variable {α σ : Type}

/-! ## Characters -/

def isGap (c : Char) : Bool :=
  c == ' ' || c == '\n' || c == '\t' || c == '\r'

/-- Skips blanks and tells which character follows them. -/
def peek : Reader (Option Char) := do
  modify (·.dropWhile isGap)
  return (← get).head?

def advance : Reader Unit :=
  modify (·.drop 1)

/-- Drops the next character if it is `c`. -/
def accept (c : Char) : Reader Bool := do
  match ← get with
  | next :: rest =>
    if next = c then
      set rest
      return true
    else return false
  | [] => return false

def letters : List Char → Reader Unit
  | [] => pure ()
  | c :: others => do
    match ← get with
    | [] => throw .ended
    | next :: rest =>
      if next = c then
        set rest
        letters others
      else throw .malformed

/-! ## Numbers -/

def isDigit (c : Char) : Bool :=
  '0' ≤ c && c ≤ '9'

/-- Reads digits as far as they go. -/
def digits : Reader (List Char) := do
  let chars ← get
  set (chars.dropWhile isDigit)
  return chars.takeWhile isDigit

def digits1 : Reader (List Char) := do
  match ← digits with
  | [] => if (← get).isEmpty then throw .ended else throw .malformed
  | first :: others => return first :: others

def digitsValue (digits : List Char) : Nat :=
  digits.foldl (fun value digit => value * 10 + (digit.toNat - '0'.toNat)) 0

/-- The first magnitude that rounds to no number of double precision. -/
def magnitudeLimit : Nat := Nat.pow 2 1024 - Nat.pow 2 970

/-- Whether `digits` times ten to the power `exponent` reaches the magnitude limit.  The number of
digits decides alone unless the magnitude has 309 of them. -/
def isTooLarge (digits : List Char) (exponent : Int) : Bool :=
  let significant := digits.dropWhile (· == '0')
  let places := significant.length + exponent
  if significant.isEmpty || places < 309 then false
  else if 309 < places then true
  else
    magnitudeLimit * Nat.pow 10 (-exponent).toNat ≤
      digitsValue significant * Nat.pow 10 exponent.toNat

/-- Reads the exponent of a number after its letter. -/
def exponent : Reader Int := do
  let negative ← accept '-'
  unless negative do
    let _ ← accept '+'
  let value := digitsValue (← digits1)
  return if negative then -value else value

/-- Reads a number that starts with a sign or a digit.  The result is its value if it is written
as an integer; a minus sign before 0 is taken for a number that is none. -/
def numeral : Reader (Option Int) := do
  let negative ← accept '-'
  let whole ← digits1
  if whole.head? == some '0' && 1 < whole.length then throw .malformed
  let pointed ← accept '.'
  let places ← if pointed then digits1 else pure []
  let scaled ← do
    if ← accept 'e' then pure true else accept 'E'
  let power ← if scaled then exponent else pure 0
  if isTooLarge (whole ++ places) (power - places.length) then throw .malformed
  let value := digitsValue whole
  if pointed || scaled || (negative && value == 0) then return none
  return some (if negative then -value else value)

/-! ## Strings -/

def hexValue? (c : Char) : Option Nat :=
  if isDigit c then some (c.toNat - '0'.toNat)
  else if 'a' ≤ c ∧ c ≤ 'f' then some (c.toNat - 'a'.toNat + 10)
  else if 'A' ≤ c ∧ c ≤ 'F' then some (c.toNat - 'A'.toNat + 10)
  else none

/-- The number that four hexadecimal digits stand for. -/
def unitValue? (a b c d : Char) : Option Nat := do
  return (((← hexValue? a) * 16 + (← hexValue? b)) * 16 + (← hexValue? c)) * 16 + (← hexValue? d)

/-- Reads the four digits of a numbered character.  The text has ended only if it holds less than
four octets more. -/
def unit : List Char → Except Problem (Nat × List Char)
  | a :: b :: c :: d :: rest =>
    match unitValue? a b c d with
    | some value => .ok (value, rest)
    | none => .error .malformed
  | chars => .error (if 4 ≤ (chars.map Char.utf8Size).foldl (· + ·) 0 then .malformed else .ended)

/-- Reads the second half of a pair of numbered surrogates, whose first half is `high`. -/
def lowSurrogate (high : Nat) : List Char → Except Problem (Char × List Char)
  | [] | ['\\'] => .error .ended
  | '\\' :: 'u' :: rest => do
    let (low, rest) ← unit rest
    if 0xDC00 ≤ low ∧ low ≤ 0xDFFF then
      return (Char.ofNat (0x10000 + (high - 0xD800) * 0x400 + (low - 0xDC00)), rest)
    else throw .malformed
  | _ => .error .malformed

/-- Reads a numbered character after its letter; surrogates have to come in pairs. -/
def numberedChar (chars : List Char) : Except Problem (Char × List Char) := do
  let (value, rest) ← unit chars
  if 0xDC00 ≤ value ∧ value ≤ 0xDFFF then throw .malformed
  else if 0xD800 ≤ value ∧ value ≤ 0xDBFF then lowSurrogate value rest
  else return (Char.ofNat value, rest)

/-- The character that a letter after a backslash stands for. -/
def escaped? : Char → Option Char
  | '"' => some '"'
  | '\\' => some '\\'
  | '/' => some '/'
  | 'b' => some '\x08'
  | 'f' => some '\x0c'
  | 'n' => some '\n'
  | 'r' => some '\r'
  | 't' => some '\t'
  | _ => none

/-- Reads one character of a string, or its closing quotation mark. -/
def stringChar : List Char → Except Problem (Option Char × List Char)
  | [] | ['\\'] => .error .ended
  | '"' :: rest => .ok (none, rest)
  | '\\' :: 'u' :: rest => (numberedChar rest).map fun (c, rest) => (some c, rest)
  | '\\' :: letter :: rest =>
    match escaped? letter with
    | some c => .ok (some c, rest)
    | none => .error .malformed
  | c :: rest => if c.toNat < 0x20 then .error .malformed else .ok (some c, rest)

/-- Reads a string after its opening quotation mark; `read` holds what has been read of it, latest
first. -/
def stringBody : Nat → List Char → Reader String
  | 0, _ => throw .ended
  | fuel + 1, read => do
    match ← stringChar (← get) with
    | (none, rest) =>
      set rest
      return String.ofList read.reverse
    | (some c, rest) =>
      set rest
      stringBody fuel (c :: read)

/-- Reads the rest of a string after its opening quotation mark. -/
def string : Reader String := do
  stringBody ((← get).length + 1) []

/-! ## Values of another kind -/

/-- Fails on a value that is not of the kind asked for.  The value is read first unless it holds
other values, so that a text that is no JSON is reported as such. -/
def mismatch (first : Char) : Reader α := do
  if first = 'n' then letters ['n', 'u', 'l', 'l']
  else if first = 't' then letters ['t', 'r', 'u', 'e']
  else if first = 'f' then letters ['f', 'a', 'l', 's', 'e']
  else if first = '-' ∨ isDigit first then
    let _ ← numeral
  else if first = '"' then
    advance
    let _ ← string
  else if first ≠ '[' ∧ first ≠ '{' then throw .malformed
  throw .mismatched

/-- Reads a value by its first character, which is neither a blank nor missing. -/
def value (read : Char → Reader α) : Reader α := do
  match ← peek with
  | none => throw .ended
  | some first => read first

/-! ## Simple values -/

def text : Reader String :=
  value fun first => do
    if first = '"' then
      advance
      string
    else mismatch first

def truth : Reader Bool :=
  value fun first => do
    if first = 't' then
      letters ['t', 'r', 'u', 'e']
      return true
    else if first = 'f' then
      letters ['f', 'a', 'l', 's', 'e']
      return false
    else mismatch first

def natural (size : Nat) : Reader Nat :=
  value fun first => do
    if first = '-' ∨ isDigit first then
      match ← numeral with
      | some number =>
        if 0 ≤ number ∧ number < size then return number.toNat else throw .mismatched
      | none => throw .mismatched
    else mismatch first

def absence : Reader Unit :=
  value fun first => do
    if first = 'n' then letters ['n', 'u', 'l', 'l'] else mismatch first

/-- Reads a value or the mark of absence. -/
def optional (read : Reader α) : Reader (Option α) := do
  if (← peek) = some 'n' then
    letters ['n', 'u', 'l', 'l']
    return none
  else some <$> read

/-! ## Lists -/

/-- Reads the next element of a list, if there is one.  `first` tells that no element has been
read. -/
def nextElement (first : Bool) (element : Reader α) : Reader (Option α) :=
  value fun next => do
    if next = ']' then return none
    else if first then some <$> element
    else if next = ',' then
      advance
      value fun after => do
        if after = ']' then throw .malformed else some <$> element
    else throw .malformed

/-- Reads the closing bracket of a list. -/
def closeList : Reader Unit :=
  value fun next => do
    if next = ']' then advance else throw .malformed

/-- Reads elements while there are any, at most `fuel` of them; `read` holds those that have been
read, latest first. -/
def elements (element : Reader α) : Nat → List α → Reader (List α)
  | 0, _ => throw .ended
  | fuel + 1, read => do
    match ← nextElement read.isEmpty element with
    | none => return read.reverse
    | some value => elements element fuel (value :: read)

def list (element : Reader α) : Reader (List α) :=
  value fun first => do
    if first = '[' then
      advance
      let values ← elements element ((← get).length + 1) []
      closeList
      return values
    else mismatch first

/-! ## Records -/

/-- Reads the colon between a member's name and its value. -/
def colon : Reader Unit :=
  value fun next => do
    if next = ':' then advance else throw .malformed

/-- Reads the name of the next member, if there is one.  `first` tells that no member has been
read. -/
def nextName (first : Bool) : Reader (Option String) :=
  value fun next => do
    if next = '}' then return none
    else if first then
      if next = '"' then some <$> text else throw .malformed
    else if next = ',' then
      advance
      value fun after => do
        if after = '"' then some <$> text else throw .malformed
    else throw .malformed

/-- Reads the closing brace of a record. -/
def closeRecord : Reader Unit :=
  value fun next => do
    if next = '}' then advance else throw .malformed

/-- Reads members while there are any, at most `fuel` of them.  `member` reads the colon and the
value of the member with the given name into what has been read. -/
def members (member : σ → String → Reader σ) : Nat → Bool → σ → Reader σ
  | 0, _, _ => throw .ended
  | fuel + 1, first, read => do
    match ← nextName first with
    | none => return read
    | some name => members member fuel false (← member read name)

/-- Reads the value of a member that may come once. -/
def once (seen : Option α) (read : Reader α) : Reader (Option α) := do
  if seen.isSome then throw .mismatched
  colon
  some <$> read

/-- The value of a member that has to come. -/
def required (seen : Option α) : Reader α :=
  match seen with
  | some value => pure value
  | none => throw .mismatched

/-- Reads a record.  Its values stand either in an object, by name and in any order, or in a list,
in the order of the fields. -/
def record (member : σ → String → Reader σ) (start : σ) (finish : σ → Reader α)
    (inOrder : Reader α) : Reader α :=
  value fun first => do
    if first = '[' then
      advance
      let result ← inOrder
      closeList
      return result
    else if first = '{' then
      advance
      let result ← finish (← members member ((← get).length + 1) true start)
      closeRecord
      return result
    else mismatch first

/-! ## Choices -/

/-- Reads one of several named values.  A value that holds nothing stands as its name or, like a
value that holds something, as an object with one member. -/
def choice (plain : String → Option α) (holding : String → Option (Reader α)) : Reader α :=
  value fun first => do
    if first = '"' then
      match plain (← text) with
      | some value => return value
      | none => throw .mismatched
    else if first = '{' then
      advance
      let name ← text
      let content ←
        match plain name, holding name with
        | some value, _ => pure (do absence; pure value)
        | none, some content => pure content
        | none, none => throw .mismatched
      colon
      let value ← content
      closeRecord
      return value
    else throw .malformed

def readText (read : Reader α) (text : String) : Except Problem α := do
  let (value, rest) ← read.run text.toList
  if (rest.dropWhile isGap).isEmpty then return value else throw .malformed

end MailReplica.Json
