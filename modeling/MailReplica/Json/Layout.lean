/-! # Writing JSON

A layout is the text of a value in either style: on one line without blanks, or over lines that are
indented by two spaces for each level.  An empty list takes one line in both.
-/

namespace MailReplica.Json

inductive Style where
  | compact
  /-- Over lines, where the value stands this deep. -/
  | indented (depth : Nat)
  deriving DecidableEq

namespace Style

def inner : Style → Style
  | compact => compact
  | indented depth => indented (depth + 1)

/-- What stands before a value on a line of its own. -/
def lineBreak : Style → List Char
  | compact => []
  | indented depth => '\n' :: List.replicate (2 * depth) ' '

/-- What stands between the name and the value of a member. -/
def colon : Style → List Char
  | compact => [':']
  | indented _ => [':', ' ']

end Style

/-- The text of a value in each style. -/
abbrev Layout := Style → List Char

/-- The lower case hexadecimal digit for a value below 16. -/
def hexDigit (value : Nat) : Char :=
  if value < 10 then Char.ofNat ('0'.toNat + value) else Char.ofNat ('a'.toNat + (value - 10))

/-- A character as it stands in a string. -/
def escape (c : Char) : List Char :=
  match c with
  | '"' => ['\\', '"']
  | '\\' => ['\\', '\\']
  | '\x08' => ['\\', 'b']
  | '\x0c' => ['\\', 'f']
  | '\n' => ['\\', 'n']
  | '\r' => ['\\', 'r']
  | '\t' => ['\\', 't']
  | _ =>
    if c.toNat < 0x20 then
      ['\\', 'u', '0', '0', hexDigit (c.toNat / 16), hexDigit (c.toNat % 16)]
    else [c]

def quoted (text : String) : List Char :=
  '"' :: (text.toList.flatMap escape ++ ['"'])

namespace Layout

def text (value : String) : Layout :=
  fun _ => quoted value

def natural (value : Nat) : Layout :=
  fun _ => (Nat.repr value).toList

def truth (value : Bool) : Layout :=
  fun _ => if value then ['t', 'r', 'u', 'e'] else ['f', 'a', 'l', 's', 'e']

def absence : Layout :=
  fun _ => ['n', 'u', 'l', 'l']

/-- A value, or the mark of absence. -/
def optional {α : Type} (layout : α → Layout) : Option α → Layout
  | some value => layout value
  | none => absence

/-- The parts of a list or an object, each on a line of its own, between brackets. -/
def bracketed (opening closing : Char) (parts : List Layout) : Layout :=
  fun style =>
    match parts with
    | [] => [opening, closing]
    | first :: others =>
      opening :: (style.inner.lineBreak ++ first style.inner ++
        others.flatMap (fun part => ',' :: (style.inner.lineBreak ++ part style.inner)) ++
        style.lineBreak ++ [closing])

def list (values : List Layout) : Layout :=
  bracketed '[' ']' values

def member (name : String) (value : Layout) : Layout :=
  fun style => quoted name ++ style.colon ++ value style

def record (members : List (String × Layout)) : Layout :=
  bracketed '{' '}' (members.map fun (name, value) => member name value)

def oneLine (layout : Layout) : String :=
  String.ofList (layout .compact)

def overLines (layout : Layout) : String :=
  String.ofList (layout (.indented 0))

end Layout

end MailReplica.Json
