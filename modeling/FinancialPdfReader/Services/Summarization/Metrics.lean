import Mathlib.Data.List.Find
import FinancialPdfReader.Models.Reports
import FinancialPdfReader.Python.Search
import FinancialPdfReader.Services.DashboardContract.Constants

namespace FinancialPdfReader

open Py

/-- `_METRIC_REGISTRY`, in its order. -/
def metricRegistry : List (Metric × List String) := [
  (.revenue,["營收","收入","revenue"]),
  (.grossMargin,["毛利率","gross margin"]),
  (.operatingIncome,["營業利益","operating income","營業淨利"]),
  (.eps,["eps","每股盈餘","每股"]),
  (.cash,["現金","cash"]),
  (.debt,["負債","借款","debt"]),
  (.fx,["匯率","匯兌","fx"]),
  (.customerConcentration,["客戶集中","單一客戶","concentration"])]

/-- The first metric with a keyword in the text. -/
def matchMetric (claimText : String) : Option Metric :=
  let lowered := lower claimText
  (metricRegistry.find? (fun e => e.2.any (fun kw => isIn (lower kw) lowered))).map Prod.fst

/-- `\d+(?:\.\d+)?` with the value that `float` gives it. -/
def spanNumber (cs : List Char) : Option (ℚ × List Char) :=
  match spanDigits cs with
  | ([],_) => none
  | (whole,'.' :: rest) => match spanDigits rest with
    | ([],_) => some (digitsValue whole,'.' :: rest)
    | (fraction,rest') =>
        some (digitsValue whole + digitsValue fraction / 10^fraction.length,rest')
  | (whole,rest) => some (digitsValue whole,rest)

def hasUnit (cs : List Char) : Bool :=
  match cs.dropWhile isSpace with
  | 'p' :: 'p' :: _ => true
  | '%' :: _ => true
  | _ => false

/-- `([+-]?\d+(?:\.\d+)?)\s*(pp|%)` at the front of the text. No shorter match of a part can make
the rest match, so each part takes all that it can. -/
def matchDelta (cs : List Char) : Option ℚ :=
  let (negative,cs) := match cs with
    | '+' :: rest => (false,rest)
    | '-' :: rest => (true,rest)
    | _ => (false,cs)
  match spanNumber cs with
  | none => none
  | some (value,rest) => if hasUnit rest then some (if negative then -value else value) else none

/-- `re.search`: the leftmost match. -/
def searchDelta : List Char → Option ℚ
  | [] => none
  | c :: cs => match matchDelta (c :: cs) with
    | some value => some value
    | none => searchDelta cs

/-- The numeral is read as it is written, as an exact rational, where the source has a float. -/
def extractDelta (claimText : String) : Option ℚ :=
  match searchDelta (lower claimText).toList with
  | none => none
  | some value =>
      if anyIn ["下降","減少"] claimText || anyIn ["drop","down"] (lower claimText) then
        some (-|value|)
      else if anyIn ["增加","成長"] claimText || isIn "up" (lower claimText) then some |value|
      else some value

def directionFromText (claimText : String) (delta : Option ℚ) : Trend :=
  match delta with
  | some delta => if delta > 0 then .up else if delta < 0 then .down else .flat
  | none =>
      if anyIn ["下降","減少","衰退","drop","down"] (lower claimText) then .down
      else if anyIn ["增加","成長","提升","up","increase"] (lower claimText) then .up
      else .flat

/-- `_IMPACT_RANK` and `_IMPACT_LABEL`. -/
inductive Impact where
  | low | medium | high
  deriving DecidableEq, Repr

def Impact.text : Impact → String
  | .low => "low"
  | .medium => "medium"
  | .high => "high"

def Impact.rank : Impact → Nat
  | .low => 0
  | .medium => 1
  | .high => 2

def Impact.ofRank : Nat → Impact
  | 0 => .low
  | 1 => .medium
  | _ => .high

def metricBaseImpact : Metric → Impact
  | .grossMargin => .high
  | .operatingIncome => .high
  | .eps => .high
  | .revenue => .medium
  | .cash => .medium
  | .debt => .medium
  | .fx => .low
  | .customerConcentration => .low

def downEscalateMetrics : List Metric := [.revenue,.cash]

/-- Base importance, moved by the size of the change and by its direction. -/
def calcImpact (metric : Metric) (deltaPct : Option ℚ) (direction : Trend) : Impact :=
  let rank := (metricBaseImpact metric).rank
  let rank := match deltaPct with
    | none => rank
    | some delta =>
        if 15 ≤ |delta| then min (rank + 1) 2 else if |delta| < 2 then rank - 1 else rank
  let rank := match deltaPct with
    | none => rank
    | some delta =>
        if direction = .down && downEscalateMetrics.contains metric && 10 ≤ |delta| then
          min (rank + 1) 2
        else rank
  Impact.ofRank rank

example : extractDelta "毛利率由 35.5 下降 7.25 pp" = some (-29/4) := by decide +kernel

/-- A change that is read decides the direction by its sign. -/
theorem directionFromText_some (claimText : String) (delta : ℚ) :
    (directionFromText claimText (some delta) = .up ↔ 0 < delta) ∧
      (directionFromText claimText (some delta) = .down ↔ delta < 0) := by
  simp only [directionFromText, gt_iff_lt]
  by_cases hpos : 0 < delta
  · have hneg : ¬ delta < 0 := not_lt.mpr hpos.le
    simp [hpos, hneg]
  · by_cases hneg : delta < 0 <;> simp [hpos, hneg]

/-- The keywords of a metric. -/
def keywords (metric : Metric) : List String := (metricRegistry.lookup metric).getD []

/-- A text speaks of a metric, in whatever case. -/
def mentions (metric : Metric) (claimText : String) : Bool :=
  (keywords metric).any (fun kw => isIn (lower kw) (lower claimText))

/-- The metrics that are looked for before one. -/
def registeredBefore (metric : Metric) : List Metric :=
  (metricRegistry.map Prod.fst).takeWhile (fun m => m ≠ metric)

/-- A text is taken to be about the first metric of the registry that it speaks of. -/
def FirstMentioned (metric : Metric) (claimText : String) : Prop :=
  mentions metric claimText = true ∧
    ∀ earlier ∈ registeredBefore metric, mentions earlier claimText = false

theorem matchMetric_eq_find? (claimText : String) :
    matchMetric claimText = (metricRegistry.map Prod.fst).find? (mentions · claimText) := by
  have hkeywords : ∀ e ∈ metricRegistry, e.2 = keywords e.1 := by decide
  have hfound : metricRegistry.find?
      (fun e => e.2.any (fun kw => isIn (lower kw) (lower claimText))) =
      metricRegistry.find? ((mentions · claimText) ∘ Prod.fst) := by
    apply List.find?_congr
    intro e he
    rw [Function.comp_apply, mentions, ← hkeywords e he]
  rw [matchMetric, hfound, List.find?_map]

theorem matchMetric_eq_some_iff {claimText : String} {metric : Metric} :
    matchMetric claimText = some metric ↔ FirstMentioned metric claimText := by
  have hnodup : (metricRegistry.map Prod.fst).Nodup := by decide
  have hmem : metric ∈ metricRegistry.map Prod.fst := by cases metric <;> decide
  rw [matchMetric_eq_find?, find?_eq_some_iff_takeWhile hnodup]
  simp [FirstMentioned, registeredBefore, hmem]

end FinancialPdfReader
