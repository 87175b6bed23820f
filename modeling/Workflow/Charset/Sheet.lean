/-!
# Sheets of characters

Codes of two bytes lay their characters out on sheets: the first byte chooses a row and the second
one a column.  A sheet is kept as runs of neighbouring columns; a column without a character holds
the replacement mark.
-/

namespace Workflow.Charset

/-- Characters in neighbouring columns of a row. -/
structure Run where
  /-- The row. -/
  row : Nat
  /-- The first column. -/
  first : Nat
  /-- The characters. -/
  text : String

/-- A sheet. -/
abbrev Sheet := List Run

/-- What stands in a column without a character. -/
def blank : Char := '\ufffd'

/-- The character of a run in a column. -/
def Run.char? (r : Run) (column : Nat) : Option Char :=
  if r.first ≤ column then (r.text.toList[column - r.first]?).filter (· != blank) else none

/-- The character of a sheet in a row and column. -/
def Sheet.char? (sheet : Sheet) (row column : Nat) : Option Char :=
  sheet.findSome? fun r => if r.row == row then r.char? column else none

/-- The character in a row and column of the first sheet that has one there. -/
def charIn? (sheets : List Sheet) (row column : Nat) : Option Char :=
  sheets.findSome? (·.char? row column)

end Workflow.Charset
