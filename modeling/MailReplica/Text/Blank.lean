/-! # Blank characters and letter case

The characters with the Unicode property `White_Space`, trimming by them, and comparison that
ignores the case of ASCII letters.  Trimming takes blanks off the ends only.
-/

namespace MailReplica.Text

/-- The 25 characters with the Unicode property `White_Space`. -/
def isBlank (c : Char) : Bool :=
  let code := c.toNat
  (0x09 ≤ code && code ≤ 0x0D) || code == 0x20 || code == 0x85 || code == 0xA0 ||
    code == 0x1680 || (0x2000 ≤ code && code ≤ 0x200A) || code == 0x2028 || code == 0x2029 ||
    code == 0x202F || code == 0x205F || code == 0x3000

/-- `chars` without the blanks at its start. -/
def trimStartChars (chars : List Char) : List Char :=
  chars.dropWhile isBlank

/-- `chars` without the blanks at its end. -/
def trimEndChars (chars : List Char) : List Char :=
  (trimStartChars chars.reverse).reverse

/-- `chars` without the blanks at either end. -/
def trimChars (chars : List Char) : List Char :=
  trimEndChars (trimStartChars chars)

/-- `text` without the blanks at either end. -/
def trim (text : String) : String :=
  String.ofList (trimChars text.toList)

/-- `text` without the blanks at its end. -/
def trimEnd (text : String) : String :=
  String.ofList (trimEndChars text.toList)

/-- `text` with its ASCII capital letters in lower case and all else as it is. -/
def foldCase (text : String) : String :=
  String.ofList (text.toList.map Char.toLower)

/-- Whether two texts differ at most in the case of ASCII letters. -/
def sameButCase (left right : String) : Bool :=
  foldCase left == foldCase right

/-- Whether `part` is a run of consecutive elements of `whole`. -/
def occursIn (part whole : List Char) : Bool :=
  part.isPrefixOf whole ||
    match whole with
    | [] => false
    | _ :: rest => occursIn part rest

end MailReplica.Text
