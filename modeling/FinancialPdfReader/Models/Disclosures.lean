import FinancialPdfReader.Python.Field

namespace FinancialPdfReader

open Py

/-- `STATUS_CHOICES` -/
inductive CoverageStatus where
  | found | foundIncomplete | notFound | ambiguous | notApplicable
  deriving DecidableEq, Repr

instance : Choices CoverageStatus where
  all := [.found,.foundIncomplete,.notFound,.ambiguous,.notApplicable]
  text
    | .found => "found"
    | .foundIncomplete => "found_incomplete"
    | .notFound => "not_found"
    | .ambiguous => "ambiguous"
    | .notApplicable => "not_applicable"
  mem_all a := by cases a <;> decide
  text_injective a b := by cases a <;> cases b <;> decide

/-- `DISCLOSURE_REGISTRY`: key and label of every disclosure that is checked. -/
def disclosureRegistry : List (String × String) := [
  ("related_party_transactions","關係人交易"), ("commitments_and_contingencies","承諾事項與或有負債"),
  ("subsequent_events","後續事項"), ("business_combination","企業合併"),
  ("major_customers","主要客戶集中度"), ("segment_information","部門資訊"),
  ("financial_risk_fx","外幣匯率風險"), ("financial_risk_credit","信用風險"),
  ("financial_risk_liquidity","流動性風險"), ("key_accounting_estimates","關鍵會計估計"),
  ("inventory_valuation","存貨評價"), ("income_tax","所得稅"),
  ("convertible_bonds","可轉換公司債"), ("dividends","股利分配")]

/-- An item as it is built: what the reply gives stays as it is until the report is saved. -/
structure CoverageDraft where
  key : String
  labelZh : String
  status : Json
  evidencePages : Json
  note : Json

structure DisclosureCoverageItem where
  key : String
  labelZh : String
  status : CoverageStatus
  evidencePages : List String
  note : String
  deriving DecidableEq

/-- The saved audit of one document. -/
structure DisclosureCoverageReport where
  coverageId : String
  documentId : String
  stockId : String
  period : String
  items : List DisclosureCoverageItem
  foundCount : Nat
  foundIncompleteCount : Nat
  notFoundCount : Nat
  notApplicableCount : Nat
  totalCount : Nat
  createdAt : Nat
  deriving DecidableEq

/-- What saving a report asks of each of its items. -/
def CoverageDraft.validate (d : CoverageDraft) : Except PyError DisclosureCoverageItem := do
  let status ← validChoice "status" d.status
  let evidencePages ← validStrings "evidence_pages" d.evidencePages
  let note ← validString "note" d.note
  pure ⟨d.key,d.labelZh,status,evidencePages,note⟩

theorem CoverageDraft.validate_eq_ok {d : CoverageDraft} {i : DisclosureCoverageItem} :
    d.validate = .ok i ↔ d = ⟨i.key,i.labelZh,.str (Choices.text i.status),
      .arr (i.evidencePages.map .str),.str i.note⟩ := by
  constructor
  · intro h
    obtain ⟨status,hstatus,h⟩ := bind_eq_ok.mp h
    obtain ⟨pages,hpages,h⟩ := bind_eq_ok.mp h
    obtain ⟨note,hnote,h⟩ := bind_eq_ok.mp h
    obtain rfl := Except.ok.inj h
    obtain ⟨key,labelZh,_,_,_⟩ := d
    rw [validChoice_eq_ok] at hstatus
    rw [validStrings_eq_ok] at hpages
    rw [validString_eq_ok] at hnote
    simp only at hstatus hpages hnote
    rw [hstatus, hpages, hnote]
  · intro h
    rw [h]
    exact bind_eq_ok.mpr ⟨_,validChoice_eq_ok.mpr rfl,bind_eq_ok.mpr
      ⟨_,validStrings_eq_ok.mpr rfl,bind_eq_ok.mpr ⟨_,validString_eq_ok.mpr rfl,rfl⟩⟩⟩

theorem CoverageDraft.raises_validate (d : CoverageDraft) :
    Raises (fun e => ∃ field, e = .validationError field) d.validate := by
  have hfield : ∀ (field : String) (e : PyError), e = .validationError field →
      ∃ field, e = .validationError field := fun field e he => ⟨field,he⟩
  refine ((raises_validChoice _ _).imp (hfield _)).bind (fun status => ?_)
  refine ((raises_validStrings _ _).imp (hfield _)).bind (fun pages => ?_)
  exact ((raises_validString _ _).imp (hfield _)).bind (fun note => raises_ok _)

end FinancialPdfReader
