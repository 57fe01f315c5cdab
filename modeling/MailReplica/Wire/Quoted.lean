/-! # Quoted strings in commands

An argument of a command stands between quotation marks.  A backslash goes before each quotation
mark and backslash in it.  Reading takes the marks, the backslashes and the ban on line ends from
RFC 3501, but lets every other character stand, also NUL and those beyond ASCII, which RFC 3501 keeps
out.  Writing looks out for none of them.
-/

namespace MailReplica.Wire.Quoted

/-- A character as it stands between quotation marks. -/
def escape (c : Char) : List Char :=
  if c = '"' ∨ c = '\\' then ['\\', c] else [c]

def write (text : String) : String :=
  String.ofList ('"' :: (text.toList.flatMap escape ++ ['"']))

/-- Reads up to the closing quotation mark; the result is the content and what follows. -/
def readBody : List Char → Option (List Char × List Char)
  | [] => none
  | '"' :: rest => some ([], rest)
  | '\\' :: '"' :: rest => (readBody rest).map fun (content, rest) => ('"' :: content, rest)
  | '\\' :: '\\' :: rest => (readBody rest).map fun (content, rest) => ('\\' :: content, rest)
  | c :: rest =>
    if c = '\\' ∨ c = '\r' ∨ c = '\n' then none
    else (readBody rest).map fun (content, rest) => (c :: content, rest)

/-- Reads a quoted string of any characters but line ends; the result is the content and what
follows. -/
def read? : List Char → Option (List Char × List Char)
  | '"' :: rest => readBody rest
  | _ => none

end MailReplica.Wire.Quoted
