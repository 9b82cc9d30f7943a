import FinancialPdfReader.Services.Summarization.MetricSources

namespace FinancialPdfReader

open Py

/-- What JavaScript takes for true; `none` stands for `undefined`. -/
def jsTruthy : Option Json → Bool
  | none => false
  | some .null => false
  | some (.bool b) => b
  | some (.int n) => n != 0
  | some (.float x) => x != .finite 0 && x != .nan
  | some (.str s) => s != ""
  | some (.arr _) => true
  | some (.obj _) => true

/-- `x || y` -/
def jsOr (x : Option Json) (y : Json) : Json := if jsTruthy x then x.getD y else y

/-- The page only runs over arrays: a dashboard that was built holds no other list. -/
def elements : Json → List Json
  | .arr xs => xs
  | _ => []

/-- `x.key || []` -/
def listUnder (key : String) (x : Json) : List Json := elements (jsOr (x.field? key) (.arr []))

/-- `x.key === 'text'` -/
def hasText (key text : String) (x : Json) : Bool := x.field? key == some (.str text)

/-- `adjustments.length > 0 && adjustments.every(c => c.recurring === false)` -/
def allAdjNonRecurring (adjustments : List Json) : Bool :=
  !adjustments.isEmpty && adjustments.all (fun c => c.field? "recurring" == some (.bool false))

/-- `whatChanged.find(m => m.metric_id === metric)?.direction === 'down'` -/
def pointsDown (metric : String) (whatChanged : List Json) : Bool :=
  (whatChanged.find? (hasText "metric_id" metric)).any (hasText "direction" "down")

/-- What the page draws its conclusion from. -/
structure NarrativeSignals where
  hasMarginRisk : Bool
  hasConcentrationRisk : Bool
  allAdjNonRecurring : Bool
  cashOk : Bool
  revDown : Bool
  margDown : Bool
  highRiskCount : Nat
  adjustmentCount : Nat

def narrativeSignals (adjustments highRisk whatChanged : List Json) : NarrativeSignals where
  hasMarginRisk := highRisk.any (fun r => hasText "label" "Margin pressure" r &&
    hasText "trend" "up" r)
  hasConcentrationRisk := highRisk.any (hasText "label" "Customer concentration")
  allAdjNonRecurring := allAdjNonRecurring adjustments
  cashOk := !highRisk.any (hasText "label" "Liquidity pressure")
  revDown := pointsDown "revenue" whatChanged
  margDown := pointsDown "gross_margin" whatChanged
  highRiskCount := highRisk.length
  adjustmentCount := adjustments.length

inductive NarrativeType where
  | structural | transient | stable
  deriving DecidableEq, Repr

def NarrativeSignals.type (s : NarrativeSignals) : NarrativeType :=
  if (s.hasMarginRisk && s.margDown) || (2 ≤ s.highRiskCount && !s.allAdjNonRecurring) then
    .structural
  else if (s.revDown || s.margDown) && (s.allAdjNonRecurring || 0 < s.adjustmentCount) &&
      s.cashOk then .transient
  else .stable

/-- `cond ? text : null`, as a list that is kept or dropped. -/
def reasonIf (cond : Bool) (text : String) : List String := if cond then [text] else []

/-- The reasons that hold, by the branch taken. -/
def NarrativeSignals.found (s : NarrativeSignals) : List String :=
  match s.type with
  | .structural => reasonIf s.hasMarginRisk "毛利率出現持續性下滑趨勢" ++
      reasonIf s.hasConcentrationRisk "客戶集中度風險未獲充分揭露" ++
      reasonIf (s.margDown && !s.allAdjNonRecurring) "毛利下滑非一次性因素可解釋"
  | .transient => reasonIf s.revDown "營收下滑可追溯至具體遞延事件" ++
      reasonIf s.allAdjNonRecurring "毛利影響項目屬非常態一次性費用" ++
      reasonIf s.cashOk "現金流動性維持穩健"
  | .stable => reasonIf (!s.revDown) "營收維持穩定或正向成長" ++
      reasonIf (!s.margDown) "毛利率無明顯惡化" ++ reasonIf s.cashOk "流動性風險無虞"

def NarrativeSignals.reasons (s : NarrativeSignals) : List String :=
  if s.found.isEmpty then ["財務指標未見重大異常"] else s.found

def NarrativeType.sublabel : NarrativeType → String
  | .structural => "結構性壓力跡象"
  | .transient => "短期營運波動"
  | .stable => "整體穩健"

def NarrativeType.colorCls : NarrativeType → String
  | .structural => "narr-risk"
  | .transient => "narr-watch"
  | .stable => "narr-ok"

def NarrativeType.icon : NarrativeType → String
  | .structural => "🔴"
  | .transient => "🟡"
  | .stable => "🟢"

/-- In percent. -/
def NarrativeType.confidence : NarrativeType → Nat
  | .structural => 68
  | .transient => 76
  | .stable => 85

def NarrativeType.watchPoints : NarrativeType → List String
  | .structural => ["下季毛利率是否回升","客戶集中度具體比率揭露","是否有結構性訂單流失"]
  | .transient => ["下季訂單入帳時間確認","一次性費用是否重複發生","毛利率是否恢復基準"]
  | .stable => ["持續監控毛利率變化","留意客戶集中度揭露完整性"]

/-- The identifiers of the first row with a text under a key, if there is one. -/
def idsOfFirst (key text : String) (rows : List Json) : List Json :=
  (rows.find? (hasText key text)).elim [] (listUnder "evidence_claim_ids")

def drivingIds (type : NarrativeType) (adjustments riskRows whatChanged : List Json) :
    List Json :=
  match type with
  | .structural => idsOfFirst "metric_id" "gross_margin" whatChanged ++
      idsOfFirst "label" "Margin pressure" riskRows
  | .transient => idsOfFirst "metric_id" "revenue" whatChanged ++
      adjustments.flatMap (listUnder "evidence_claim_ids")
  | .stable => idsOfFirst "metric_id" "revenue" whatChanged ++
      idsOfFirst "risk_id" "liquidity" riskRows

def conflictSignals (type : NarrativeType) (adjustments highRisk : List Json) : List String :=
  match type with
  | .structural => reasonIf (!adjustments.isEmpty)
      (toString adjustments.length ++ " 項非常態調整存在（可能為一次性壓力）")
  | .transient => reasonIf (highRisk.any (hasText "label" "Margin pressure"))
      "毛利率指標仍有壓力訊號，請確認是否一次性"
  | .stable => reasonIf (!highRisk.isEmpty)
      (toString highRisk.length ++ " 項高風險訊號存在但未達結構壓力門檻")

/-- The card at the head of the page, before it is laid out; the conflicts are only shown along
with claims. -/
structure NarrativeCard where
  type : NarrativeType
  icon : String
  colorCls : String
  label : String := "系統主結論"
  sublabel : String
  confidence : Nat
  reasons : List String
  watchPoints : List String
  drivingClaims : List Json
  conflictSignals : List String

def computeNarrative (data : Json) (highRisk riskRows cleanClaims whatChanged : List Json) :
    NarrativeCard :=
  let dashboard := jsOr (data.field? "dashboard") (.obj [])
  let adjustments := listUnder "adjustments" dashboard
  let signals := narrativeSignals adjustments highRisk whatChanged
  let ids := (drivingIds signals.type adjustments riskRows whatChanged).eraseDups
  { type := signals.type
    icon := signals.type.icon
    colorCls := signals.type.colorCls
    sublabel := signals.type.sublabel
    confidence := signals.type.confidence
    reasons := signals.reasons
    watchPoints := signals.type.watchPoints
    drivingClaims := (ids.filterMap (fun id =>
      cleanClaims.find? (fun c => c.field? "claim_id" == some id))).take 3
    conflictSignals := conflictSignals signals.type adjustments highRisk }

/-- The card of a response, as `renderResults` asks for it. -/
def renderedNarrative (data : Json) : NarrativeCard :=
  let cleanClaims := (listUnder "claims" data).filter
    (fun c => !jsTruthy (c.field? "contaminated"))
  let dashboard := jsOr (data.field? "dashboard") (.obj [])
  let riskRows := listUnder "risk_surface" dashboard
  let highRisk := riskRows.filter (hasText "severity" "high")
  computeNarrative data highRisk riskRows cleanClaims (listUnder "what_changed" dashboard)

/-- The lists that the page takes from a dashboard that was built. -/
theorem listUnder_payload (p : DashboardPayload) :
    listUnder "adjustments" p.toJson = p.adjustments.map Adjustment.toJson ∧
    listUnder "risk_surface" p.toJson = p.riskSurface.map RiskRow.toJson ∧
    listUnder "what_changed" p.toJson = p.whatChanged.map ChangedRow.toJson := ⟨rfl,rfl,rfl⟩

/-- No adjustment record says whether its item recurs, so the page never sees that all do not. -/
theorem allAdjNonRecurring_records (records : List Adjustment) :
    allAdjNonRecurring (records.map Adjustment.toJson) = false := by
  cases records with
  | nil => rfl
  | cons a as => rfl

theorem hasText_iff {key text : String} {x : Json} :
    hasText key text x = true ↔ x.field? key = some (.str text) := beq_iff_eq

theorem hasText_choice {α : Type} [Choices α] {key : String} {x : Json} {a b : α}
    (h : x.field? key = some (.str (Choices.text a))) :
    hasText key (Choices.text b) x = true ↔ a = b := by
  rw [hasText_iff, h, Option.some_inj, Choices.str_text_eq_iff]

theorem hasText_metric (m : Metric) (row : ChangedRow) :
    hasText "metric_id" (Choices.text m) row.toJson = true ↔ row.node.metric = m :=
  hasText_choice rfl

theorem hasText_down (row : ChangedRow) :
    hasText "direction" "down" row.toJson = true ↔ row.node.direction = .down :=
  hasText_choice (b := Trend.down) rfl

theorem hasText_high (r : RiskRow) :
    hasText "severity" "high" r.toJson = true ↔ r.severity = .high :=
  hasText_choice (b := Severity.high) rfl

/-- The claim that decides a metric says that it fell. -/
def Falls (cleanClaims : List (AIClaim String)) (metric : Metric) : Prop :=
  ∃ c, Decides cleanClaims metric c ∧ directionFromText c.claim (extractDelta c.claim) = .down

/-- The claim that decides the gross margin says that it fell by 10 points or more. -/
def SteepFall (cleanClaims : List (AIClaim String)) : Prop :=
  ∃ c, Decides cleanClaims .grossMargin c ∧ ∃ delta ∈ extractDelta c.claim, delta ≤ -10

theorem SteepFall.falls {cleanClaims : List (AIClaim String)} (h : SteepFall cleanClaims) :
    Falls cleanClaims .grossMargin := by
  obtain ⟨c,hc,delta,hdelta,hle⟩ := h
  refine ⟨c,hc,?_⟩
  rw [Option.mem_def.mp hdelta]
  exact (directionFromText_some c.claim delta).2.mpr (by linarith)

end FinancialPdfReader
