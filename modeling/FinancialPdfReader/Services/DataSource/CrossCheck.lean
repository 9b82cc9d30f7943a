import FinancialPdfReader.Services.DataSource

namespace FinancialPdfReader

open Py

inductive Verdict where
  | consistent | needsReview | notComparable
  deriving DecidableEq, Repr

def Verdict.text : Verdict → String
  | .consistent => "consistent"
  | .needsReview => "needs_review"
  | .notComparable => "not_comparable"

/-- The answer of a cross-check; an answer without a comparison has no values to show. -/
structure CrossCheck where
  verdict : Verdict
  reason : String
  pdfValue : Option String
  externalValue : Option String
  externalDate : Option Json
  isAuxiliary : Bool
  dataSource : String
  warning : Option String

def metricMap : List (String × List String) := [
  ("revenue",["營業收入","Revenue","revenue"]),
  ("gross_profit",["毛利","GrossProfit","gross_profit"]),
  ("net_income",["本期淨利","NetIncome","net_income"]),
  ("eps",["每股盈餘","EPS","eps"])]

def metricKeywords (metric : String) : List String := (metricMap.lookup metric).getD [metric]

/-- Whether a row is taken for the metric, by its `origin_name` or its `type`. -/
def matchesMetric (metric : String) (rec : ExternalDataRecord) : Bool :=
  let origin := lower (rec.payloadGet "origin_name" (.str "")).toStr
  let typeName := lower (rec.payloadGet "type" (.str "")).toStr
  (metricKeywords metric).any (fun k => isIn (lower k) origin || isIn (lower k) typeName)

/-- `matches[0]` -/
def extRecord (records : List ExternalDataRecord) (metric : String) :
    Option ExternalDataRecord :=
  (records.filter (matchesMetric metric)).head?

def externalValue (rec : ExternalDataRecord) : String :=
  (rec.payloadGet "value" (.str "")).toStr

/-- The two numbers, if both texts are numerals. -/
def comparedNumbers (pdfValue extValue : String) : Option (PyFloat × PyFloat) := do
  let pdfNum ← Json.floatOfText (without '元' (without '億' (without ',' pdfValue)))
  let extNum ← if extValue = "" then none else Json.floatOfText (without ',' extValue)
  pure (pdfNum,extNum)

/-- The difference in percent of the external number, or of one where that is smaller. It is taken
of the exact values of the two floats: where it comes close to 5 (3.15 against 3) the float of the
source, rounded at each operation, may lie on the other side. -/
def diffPct (pdfNum extNum : PyFloat) : PyFloat :=
  (((pdfNum.sub extNum).abs).divPos (extNum.abs.maxNat 1)).mulNat 100

def compareValues (pdfValue extValue : String) : Verdict × String :=
  match comparedNumbers pdfValue extValue with
  | some (pdfNum,extNum) =>
      let pct := diffPct pdfNum extNum
      if pct.ltNat 5 then
        (.consistent,"PDF 數字與外部資料差異 " ++ pct.fixed1 ++ "%，在合理範圍內")
      else
        (.needsReview,"PDF 數字與外部資料差異 " ++ pct.fixed1 ++ "%，建議人工確認單位或計算基礎")
  | none => (.needsReview,"無法解析數字格式，請人工確認")

/-- The answer where there is nothing to compare with. -/
def notComparable (reason : String) : CrossCheck :=
  { verdict := .notComparable
    reason
    pdfValue := none
    externalValue := none
    externalDate := none
    isAuxiliary := true
    dataSource := "FinMind/TaiwanStockFinancialStatements"
    warning := none }

/-- `crosscheck_with_pdf` for the records that its query finds; the period is not looked at. -/
def crosscheckWithPdf (records : List ExternalDataRecord) (_period metric pdfValue : String) :
    CrossCheck :=
  if records.isEmpty then notComparable "尚未抓取外部財務資料，請先呼叫 /fetch-financials"
  else match extRecord records metric with
    | none => notComparable ("外部資料中找不到對應科目：" ++ metric)
    | some rec =>
        let (verdict,reason) := compareValues pdfValue (externalValue rec)
        { verdict
          reason
          pdfValue := some pdfValue
          externalValue := some (externalValue rec)
          externalDate := some (rec.payloadGet "date" (.str ""))
          isAuxiliary := true
          dataSource := rec.dataSource
          warning := some "外部資料為輔助參考，PDF 原文為主要依據" }

section Answer

variable {store : ExternalData} {records : List ExternalDataRecord}
  {stockId period metric pdfValue : String}

theorem extRecord_eq_find? : extRecord records metric = records.find? (matchesMetric metric) :=
  List.head?_filter

theorem compareValues_comparable (pdfValue extValue : String) :
    (compareValues pdfValue extValue).1 ≠ .notComparable := by
  unfold compareValues
  cases comparedNumbers pdfValue extValue with
  | none => simp
  | some numbers =>
    dsimp only
    split_ifs
    · simp
    · simp

theorem crosscheck_of_extRecord {rec : ExternalDataRecord}
    (hrec : extRecord records metric = some rec) :
    (crosscheckWithPdf records period metric pdfValue).verdict ≠ .notComparable ∧
      (crosscheckWithPdf records period metric pdfValue).externalValue =
        some (externalValue rec) := by
  have hne : records.isEmpty = false := by
    cases records with
    | nil => exact absurd hrec (by simp [extRecord])
    | cons first rest => rfl
  unfold crosscheckWithPdf
  simp only [hne, hrec, Bool.false_eq_true, if_false, and_true]
  exact compareValues_comparable pdfValue (externalValue rec)

/-- There is a comparison exactly when one of the records found is taken for the metric. -/
theorem crosscheck_comparable_iff :
    (crosscheckWithPdf records period metric pdfValue).verdict ≠ .notComparable ↔
      ∃ rec, extRecord records metric = some rec := by
  constructor
  · intro hcompares
    cases hrec : extRecord records metric with
    | some rec => exact ⟨rec,rfl⟩
    | none =>
      unfold crosscheckWithPdf at hcompares
      rw [hrec] at hcompares
      simp [notComparable, apply_ite CrossCheck.verdict] at hcompares
  · intro hex
    obtain ⟨rec,hrec⟩ := hex
    exact (crosscheck_of_extRecord hrec).1

end Answer

section Reference

variable (store : ExternalData) (stockId period metric pdfValue : String)

/-- Whenever the answer compares, it does so with a record of what was asked for. -/
def ReferenceFits (records : List ExternalDataRecord) : Prop :=
  let answer := crosscheckWithPdf records period metric pdfValue
  answer.verdict = .consistent ∨ answer.verdict = .needsReview →
    ∃ rec, extRecord records metric = some rec ∧
      answer.externalValue = some (externalValue rec) ∧ rec ∈ store ∧
      rec.stockId = stockId ∧ matchesMetric metric rec = true ∧ rec.period = period

variable {store stockId period metric pdfValue}

theorem referenceFits_iff {records : List ExternalDataRecord}
    (hrecords : store.LatestStatements stockId records) :
    ReferenceFits store stockId period metric pdfValue records ↔
      ∀ rec ∈ records.find? (matchesMetric metric), rec.period = period := by
  have hcompares : (crosscheckWithPdf records period metric pdfValue).verdict = .consistent ∨
      (crosscheckWithPdf records period metric pdfValue).verdict = .needsReview ↔
      (crosscheckWithPdf records period metric pdfValue).verdict ≠ .notComparable := by
    cases (crosscheckWithPdf records period metric pdfValue).verdict <;> decide
  rw [ReferenceFits, hcompares, crosscheck_comparable_iff, ← extRecord_eq_find?]
  constructor
  · intro hfits rec hrec
    obtain ⟨other,hother,-,-,-,-,hperiod⟩ := hfits ⟨rec,hrec⟩
    rw [Option.mem_def.mp hrec] at hother
    rw [Option.some.inj hother]
    exact hperiod
  · intro hperiods hcompared
    obtain ⟨rec,hrec⟩ := hcompared
    have hvalue : (crosscheckWithPdf records period metric pdfValue).externalValue =
        some (externalValue rec) := (crosscheck_of_extRecord hrec).2
    have hfind : records.find? (matchesMetric metric) = some rec :=
      extRecord_eq_find?.symm.trans hrec
    have hmem := hrecords.subset (List.mem_of_find?_eq_some hfind)
    obtain ⟨hstored,hstock,-⟩ := ExternalData.mem_statements.mp hmem
    exact ⟨rec,hrec,hvalue,hstored,hstock,List.find?_some hfind,hperiods rec hrec⟩

end Reference

/-- The answer is about the period asked for exactly when the newest matching row among those
that the query finds is. -/
theorem crosscheck_reference_iff (store : ExternalData) (stockId period metric pdfValue : String) :
    (∀ records, store.LatestStatements stockId records →
      ReferenceFits store stockId period metric pdfValue records) ↔
    ∀ rec ∈ store.statements stockId, matchesMetric metric rec = true →
      (∀ other ∈ store.statements stockId, matchesMetric metric other = true →
        other.fetchedAt ≤ rec.fetchedAt) →
      newer (·.fetchedAt) (store.statements stockId) rec < 20 → rec.period = period := by
  rw [← first_in_newest_iff]
  constructor
  · intro hall records hrecords
    exact (referenceFits_iff hrecords).mp (hall records hrecords)
  · intro hall records hrecords
    exact (referenceFits_iff hrecords).mpr (hall records hrecords)

/-- An answer with one row for each item, as the service gives it. -/
def statementApi (items : List (String × Int)) : FinMind := fun _ _ _ _ =>
  .ok (.obj [("data",.arr (items.map (fun item =>
    .obj [("type",.str item.1),("value",.int item.2)])))])

def stampsFrom (start : Nat) (i : Nat) : Stamp := ⟨toString (start + i),start + i⟩

/-- The first quarter is fetched, and after it the quarter before. -/
def twoQuarters : ExternalData := runFetches
  [.financialStatement (statementApi [("Revenue",1000)]) (stampsFrom 0) "2330" "2026Q1",
    .financialStatement (statementApi [("Revenue",800)]) (stampsFrom 1) "2330" "2025Q4"] []

theorem crosscheck_other_period :
    twoQuarters.LatestStatements "2330" (twoQuarters.findLatest "2330") ∧
      ¬ReferenceFits twoQuarters "2330" "2026Q1" "revenue" "1000"
        (twoQuarters.findLatest "2330") := by
  refine ⟨twoQuarters.latestStatements_findLatest "2330",?_⟩
  rw [referenceFits_iff (twoQuarters.latestStatements_findLatest "2330")]
  intro hperiods
  have hfirst : ((twoQuarters.findLatest "2330").find? (matchesMetric "revenue")).all
      (fun rec => rec.period = "2026Q1") = false := by decide +kernel
  cases hfind : (twoQuarters.findLatest "2330").find? (matchesMetric "revenue") with
  | none =>
    rw [hfind] at hfirst
    exact absurd hfirst (by simp)
  | some rec =>
    rw [hfind] at hfirst hperiods
    simp [hperiods rec rfl] at hfirst

/-- A stored row that matches stays visible exactly as long as fewer than 20 other rows are as
new as the newest row that matches. -/
theorem crosscheck_after_fetches_iff (api : FinMind) (stamps : Nat → Stamp)
    (stockId period metric pdfValue : String) (store new : ExternalData) (later : List Fetch)
    {row : ExternalDataRecord}
    (hfetch : (fetchFinancialStatement api stamps stockId period store).1 = store ++ new)
    (hrow : row ∈ new) (hmatch : matchesMetric metric row = true) :
    (∀ records, (runFetches later (store ++ new)).LatestStatements stockId records →
      (crosscheckWithPdf records period metric pdfValue).verdict ≠ .notComparable) ↔
    ∀ rec ∈ (runFetches later (store ++ new)).statements stockId,
      matchesMetric metric rec = true →
      (∀ other ∈ (runFetches later (store ++ new)).statements stockId,
        matchesMetric metric other = true → other.fetchedAt ≤ rec.fetchedAt) →
      crowd (·.fetchedAt) (matchesMetric metric)
        ((runFetches later (store ++ new)).statements stockId) rec < 20 := by
  have hstored : row ∈ (runFetches later (store ++ new)).statements stockId := by
    obtain ⟨rows,hrows,hmade⟩ := fetchFinancialStatement_store api stamps stockId period store
    obtain rfl := List.append_cancel_left (hrows.symm.trans hfetch)
    obtain ⟨others,hothers⟩ := runFetches_store later (store ++ rows)
    obtain ⟨hstock,-,htype⟩ := hmade row hrow
    rw [ExternalData.mem_statements, hothers]
    exact ⟨by simp [hrow],hstock,htype⟩
  rw [← exists_in_newest_iff_latest ⟨row,hstored,hmatch⟩]
  constructor
  · intro hall records hrecords
    obtain ⟨rec,hrec⟩ := crosscheck_comparable_iff.mp (hall records hrecords)
    rw [extRecord_eq_find?] at hrec
    exact ⟨rec,List.mem_of_find?_eq_some hrec,List.find?_some hrec⟩
  · intro hall records hrecords
    obtain ⟨rec,hrec,hp⟩ := hall records hrecords
    apply crosscheck_comparable_iff.mpr
    rw [extRecord_eq_find?, ← Option.isSome_iff_exists, List.find?_isSome]
    exact ⟨rec,hrec,hp⟩

theorem crosscheck_after_fetches_iff_twoQuarters :
    (∀ records, twoQuarters.LatestStatements "2330" records →
      (crosscheckWithPdf records "2026Q1" "revenue" "1000").verdict ≠ .notComparable) ↔
    ∀ rec ∈ twoQuarters.statements "2330", matchesMetric "revenue" rec = true →
      (∀ other ∈ twoQuarters.statements "2330",
        matchesMetric "revenue" other = true → other.fetchedAt ≤ rec.fetchedAt) →
      crowd (·.fetchedAt) (matchesMetric "revenue") (twoQuarters.statements "2330") rec < 20 :=
  crosscheck_after_fetches_iff (statementApi [("Revenue",1000)]) (stampsFrom 0) "2330" "2026Q1"
    "revenue" "1000" []
    (fetchFinancialStatement (statementApi [("Revenue",1000)]) (stampsFrom 0) "2330" "2026Q1" []).1
    [.financialStatement (statementApi [("Revenue",800)]) (stampsFrom 1) "2330" "2025Q4"]
    rfl (List.head_mem (by decide +kernel)) (by decide +kernel)

/-- One statement whose first row is the revenue and that has twenty other rows. -/
def longStatement : ExternalData := runFetches
  [.financialStatement
    (statementApi (("Revenue",1000) :: (List.range 20).map (fun i => ("Item" ++ toString i,0))))
    (stampsFrom 0) "2330" "2026Q1"] []

theorem crosscheck_crowded_out :
    longStatement.LatestStatements "2330" (longStatement.findLatest "2330") ∧
      (∃ row ∈ longStatement, matchesMetric "revenue" row = true ∧ row.period = "2026Q1") ∧
      (crosscheckWithPdf (longStatement.findLatest "2330") "2026Q1" "revenue" "1000").verdict =
        .notComparable :=
  ⟨longStatement.latestStatements_findLatest "2330",by decide +kernel,by decide +kernel⟩

end FinancialPdfReader
