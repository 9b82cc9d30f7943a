import FinancialPdfReader.Models.Database
import FinancialPdfReader.Python.Dict

namespace FinancialPdfReader

open Py

/-- `_SECTION_QUOTA`: how many chunks of a section may be sent at most. -/
def sectionQuotas : List (String × Nat) := [
  ("營收",12), ("毛利率",10), ("營業利益",10), ("淨利",8), ("EPS",8), ("管理層展望",10),
  ("客戶需求",8), ("產業展望",6), ("風險因素",8), ("現金流",8), ("負債",6), ("存貨",5),
  ("應收帳款",5), ("資本支出",5), ("匯率影響",4), ("產能",5), ("稼動率",4), ("重大會計估計",4),
  ("會計政策變更",3), ("董事會說明",3), ("unknown",8)]

/-- A section that is not listed has the quota of the unknown one. -/
def sectionQuota (sectionName : String) : Nat := (sectionQuotas.lookup sectionName).getD 8

/-- The rest of the budget, one chunk to each section that has room, in the order given. -/
def topUp : List (String × Nat) → Nat → Dict String Nat → Dict String Nat
  | [], _, allocation => allocation
  | (sectionName,desired) :: order, remaining, allocation =>
      if remaining = 0 then allocation
      else
        let allocated := (allocation.get? sectionName).getD 0
        if allocated < desired then
          topUp order (remaining - 1) (allocation.set sectionName (allocated + 1))
        else topUp order remaining allocation

/-- What every section would take, if need be scaled down to the budget. -/
def allocateSectionBudget {α : Type} (bySection : Dict String (List α)) (budget : Nat) :
    Dict String Nat :=
  let desired := bySection.mapValues (fun s chunks => min chunks.length (sectionQuota s))
  let totalDesired := desired.values.sum
  if totalDesired ≤ budget then desired
  else
    let allocation := desired.mapValues (fun _ d => d * budget / totalDesired)
    -- `sorted(..., reverse=True)` keeps the order of equal counts
    let order := desired.entries.insertionSort (fun a b => b.2 ≤ a.2)
    topUp order (budget - allocation.values.sum) allocation

def retrieveChunksSectionAware (db : Database) (documentId : String) (budget : Nat) :
    List PDFChunk :=
  let bySection := Dict.group
    (fun c => if c.sectionName = "" then "unknown" else c.sectionName)
    (db.chunksByPage documentId)
  let allocation := allocateSectionBudget bySection budget
  let selected := bySection.entries.flatMap
    (fun e => e.2.take ((allocation.get? e.1).getD 0))
  selected.insertionSort (fun a b => a.page ≤ b.page)

/-- Only chunks of the document itself are retrieved, whatever the budget. -/
theorem mem_of_retrieved {db : Database} {documentId : String} {budget : Nat} {c : PDFChunk}
    (h : c ∈ retrieveChunksSectionAware db documentId budget) :
    c ∈ db.pdfChunks ∧ c.documentId = documentId := by
  have hselected := (List.mem_insertionSort _).mp h
  obtain ⟨e,he,hc⟩ := List.mem_flatMap.mp hselected
  have hsection : c ∈ e.2 := List.mem_of_mem_take hc
  rw [Dict.entry_group he] at hsection
  have hdocument : c ∈ db.chunksByPage documentId := (List.mem_filter.mp hsection).1
  exact Database.mem_chunksByPage.mp hdocument

end FinancialPdfReader
