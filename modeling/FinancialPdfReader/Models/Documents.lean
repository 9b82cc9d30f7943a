import FinancialPdfReader.Python.Field

namespace FinancialPdfReader

open Py

inductive Status where
  | uploaded | ingesting | completed | failed
  deriving DecidableEq, Repr

inductive Quality where
  | high | medium | low | failed
  deriving DecidableEq, Repr

instance : Choices Status where
  all := [.uploaded,.ingesting,.completed,.failed]
  text
    | .uploaded => "uploaded"
    | .ingesting => "ingesting"
    | .completed => "completed"
    | .failed => "failed"
  mem_all a := by cases a <;> decide
  text_injective a b := by cases a <;> cases b <;> decide

/-- A table as it is taken from a page; a cell may be missing. -/
abbrev RawTable := List (List (Option String))

/-- What the PDF library finds on a page, or the text of the exception it raises. -/
structure PdfPage where
  extractText : Except String (Option String)
  extractTables : Except String (List RawTable)

/-- A file that cannot be opened is the text of the exception. -/
abbrev PdfFile := Except String (List PdfPage)

/-- One uploaded report. -/
structure PDFDocument where
  documentId : String
  stockId : String
  period : String
  filePath : String
  totalPages : Nat
  status : Status
  ingestedAt : Option Nat
  deriving DecidableEq

/-- A piece of the text of one page. -/
structure PDFChunk where
  chunkId : String
  documentId : String
  stockId : String
  period : String
  page : Nat
  sectionName : String
  text : String
  charCount : Nat
  deriving DecidableEq

/-- A table of one page, kept as markdown. -/
structure PDFTable where
  tableId : String
  documentId : String
  stockId : String
  period : String
  page : Nat
  sectionName : String
  tableIndex : Nat
  tableMarkdown : String
  rowCount : Nat
  colCount : Nat
  extractionQuality : Quality
  requiresHumanReview : Bool
  deriving DecidableEq

end FinancialPdfReader
