import FinancialPdfReader.Python.Text

namespace FinancialPdfReader

open Py

/-- What a line between header and rows is made of. -/
def isSeparatorChar (c : Char) : Bool := c = '-' || c = ':' || c = ' ' || c = '\t'

/-- The cells of one line, `none` for a line that is no row. -/
def parseMarkdownLine (line : List Char) : Option (List String) :=
  let line := stripBy isSpace line
  if line.isEmpty || !line.contains '|' then none
  else
    let cells := ((stripBy (· == '|') line).splitOn '|').map (stripBy isSpace)
    if cells.all (·.all isSeparatorChar) then none else some (cells.map String.ofList)

def parseMarkdownRows (markdown : String) : List (List String) :=
  (splitLines markdown.toList).filterMap parseMarkdownLine

end FinancialPdfReader
