/-! # Grids of characters

A character set of two octets to a character lays its characters out in a grid.  A grid is read as
one sequence, row after row, and a character is named by its place in it.
-/

namespace MailReplica.Header

/-- A sequence of characters in lines of one width.  U+FFFD, or the end of a line before the width,
stands for no character. -/
structure CodeGrid where
  lines : Array String

namespace CodeGrid

/-- The number of places of a line. -/
def width : Nat := 80

def char? (grid : CodeGrid) (place : Nat) : Option Char := do
  let line ← grid.lines[place / width]?
  let char ← line.toList[place % width]?
  if char == '\uFFFD' then none else some char

end CodeGrid

end MailReplica.Header
