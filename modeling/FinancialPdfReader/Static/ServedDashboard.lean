import FinancialPdfReader.Static.Markup

namespace FinancialPdfReader

open Py

/-- A change is a number, or there is none. -/
def IsChange : Option Json → Prop
  | none => True
  | some .null => True
  | some (.int _) => True
  | some (.float (.finite _)) => True
  | _ => False

/-- A row is an object, which may cite claims. -/
def IsRow (row : Json) : Prop :=
  (∃ fields, row = .obj fields) ∧ (row.field? "evidence_claim_ids" = none ∨
    ∃ ids, row.field? "evidence_claim_ids" = some (jsonIds ids))

/-- A dashboard with lists of rows, as the page runs over them; whether it meets the contract is
left open. -/
structure ServedDashboard where
  json : Json
  object : ∃ fields, json = .obj fields
  rows : ∀ key ∈ ["what_changed","risk_surface","adjustments"], json.field? key = none ∨
    ∃ rows, json.field? key = some (.arr rows) ∧ ∀ row ∈ rows, IsRow row
  changes : ∀ row ∈ listUnder "what_changed" json, IsChange (row.field? "delta_pct")

/-- How the banner writes the change of a row, if there is one. -/
def changeText (row : Json) : Option String :=
  match row.field? "delta_pct" with
  | none => none
  | some .null => none
  | some delta => some (jsText delta)

namespace ServedDashboard

def empty : ServedDashboard where
  json := .obj []
  object := ⟨[],rfl⟩
  rows := fun _ _ => Or.inl rfl
  changes := by
    intro row hrow
    contradiction

def ofPayload (p : DashboardPayload) : ServedDashboard where
  json := p.toJson
  object := ⟨_,rfl⟩
  rows := by
    intro key hkey
    simp only [List.mem_cons, List.not_mem_nil, or_false] at hkey
    rcases hkey with rfl | rfl | rfl
    · refine Or.inr ⟨p.whatChanged.map ChangedRow.toJson,rfl,?_⟩
      intro row hrow
      obtain ⟨w,-,rfl⟩ := List.mem_map.mp hrow
      exact ⟨⟨_,rfl⟩,Or.inr ⟨_,rfl⟩⟩
    · refine Or.inr ⟨p.riskSurface.map RiskRow.toJson,rfl,?_⟩
      intro row hrow
      obtain ⟨r,-,rfl⟩ := List.mem_map.mp hrow
      exact ⟨⟨_,rfl⟩,Or.inr ⟨_,rfl⟩⟩
    · refine Or.inr ⟨p.adjustments.map Adjustment.toJson,rfl,?_⟩
      intro row hrow
      obtain ⟨a,-,rfl⟩ := List.mem_map.mp hrow
      exact ⟨⟨_,rfl⟩,Or.inr ⟨_,rfl⟩⟩
  changes := by
    intro row hrow
    rw [(listUnder_payload p).2.2] at hrow
    obtain ⟨w,-,rfl⟩ := List.mem_map.mp hrow
    have hchange : w.toJson.field? "delta_pct" = some (jsonDelta w.node.deltaPct) := rfl
    rw [hchange]
    cases w.node.deltaPct <;> trivial

variable (d : ServedDashboard)

def riskRows : List Json := listUnder "risk_surface" d.json

def highRisk : List Json := d.riskRows.filter (hasText "severity" "high")

def whatChanged : List Json := listUnder "what_changed" d.json

def adjustments : List Json := listUnder "adjustments" d.json

def signals : NarrativeSignals := narrativeSignals d.adjustments d.highRisk d.whatChanged

/-- The claims that stand under the conclusion. -/
def evidence (cleanClaims : List Json) : List Json :=
  ((drivingIds d.signals.type d.adjustments d.riskRows d.whatChanged).eraseDups.filterMap
    (fun id => cleanClaims.find? (fun c => c.field? "claim_id" == some id))).take 3

/-- Whether the first row of the revenue points down, and how its change is written. -/
def revenueShown : Option (Bool × Option String) :=
  (d.whatChanged.find? (hasText "metric_id" "revenue")).map
    (fun row => (hasText "direction" "down" row,changeText row))

end ServedDashboard

namespace NarrativeSignals

/-- Falling margins under a risk of their own, or several high risks that are not explained. -/
def underPressure (s : NarrativeSignals) : Bool :=
  (s.hasMarginRisk && s.margDown) || (2 ≤ s.highRiskCount && !s.allAdjNonRecurring)

/-- Revenue or margins fall, beside adjustments and without a risk to the cash. -/
def fluctuates (s : NarrativeSignals) : Bool :=
  (s.revDown || s.margDown) && (s.allAdjNonRecurring || 0 < s.adjustmentCount) && s.cashOk

end NarrativeSignals

/-- Both are under pressure, or neither is and they fluctuate alike. -/
def SameConclusion (s t : NarrativeSignals) : Prop :=
  s.underPressure = t.underPressure ∧
    (s.underPressure = false → s.fluctuates = t.fluctuates)

theorem type_eq_iff {s t : NarrativeSignals} : s.type = t.type ↔ SameConclusion s t := by
  have htype : ∀ u : NarrativeSignals, u.type = if u.underPressure then .structural
      else if u.fluctuates then .transient else .stable := fun _ => rfl
  rw [htype s, htype t, SameConclusion]
  cases s.underPressure <;> cases t.underPressure <;> cases s.fluctuates <;>
    cases t.fluctuates <;> decide

/-- The reasons of a type of conclusion hold of both or of neither. -/
def SameReasons (s t : NarrativeSignals) : Prop :=
  match s.type with
  | .structural => s.hasMarginRisk = t.hasMarginRisk ∧
      s.hasConcentrationRisk = t.hasConcentrationRisk ∧
      (s.margDown && !s.allAdjNonRecurring) = (t.margDown && !t.allAdjNonRecurring)
  | .transient => s.revDown = t.revDown ∧ s.allAdjNonRecurring = t.allAdjNonRecurring
  | .stable => s.revDown = t.revDown ∧ s.margDown = t.margDown ∧ s.cashOk = t.cashOk

/-- What speaks against a type of conclusion is as much in both. -/
def SameConflict (type : NarrativeType) (d e : ServedDashboard) : Prop :=
  match type with
  | .structural => d.adjustments.length = e.adjustments.length
  | .transient => d.highRisk.any (hasText "label" "Margin pressure") =
      e.highRisk.any (hasText "label" "Margin pressure")
  | .stable => d.highRisk.length = e.highRisk.length

/-- Two dashboards lead to the same conclusion, for the same reasons and on evidence that reads
the same, and to the same signals for revenue and risks. -/
structure SameShown (cleanClaims : List Json) (d e : ServedDashboard) : Prop where
  conclusion : SameConclusion d.signals e.signals
  reasons : SameReasons d.signals e.signals
  cited : (d.evidence cleanClaims).length = (e.evidence cleanClaims).length
  evidence : d.evidence cleanClaims ≠ [] →
    String.join ((d.evidence cleanClaims).map evidenceItem) =
      String.join ((e.evidence cleanClaims).map evidenceItem) ∧
    SameConflict d.signals.type d e
  revenue : d.revenueShown = e.revenueShown
  anyRisk : 0 < d.highRisk.length ↔ 0 < e.highRisk.length
  manyRisks : 2 < d.highRisk.length ↔ 2 < e.highRisk.length

section Reasons

/-- Three reasons as far as they hold, or what is said where none does. -/
def pickReasons (a b c : Bool) (first second third otherwise : String) : List String :=
  let found := reasonIf a first ++ reasonIf b second ++ reasonIf c third
  if found.isEmpty then [otherwise] else found

private theorem mem_pickReasons {a b c : Bool} {first second third otherwise : String}
    (hnodup : [first,second,third,otherwise].Nodup) :
    (first ∈ pickReasons a b c first second third otherwise ↔ a = true) ∧
      (second ∈ pickReasons a b c first second third otherwise ↔ b = true) ∧
      (third ∈ pickReasons a b c first second third otherwise ↔ c = true) := by
  simp only [List.nodup_cons, List.mem_cons, List.not_mem_nil, or_false, not_or] at hnodup
  cases a <;> cases b <;> cases c <;> simp [pickReasons, reasonIf] <;> grind

theorem pickReasons_subset (a b c : Bool) (first second third otherwise : String) :
    pickReasons a b c first second third otherwise ⊆ [first,second,third,otherwise] := by
  cases a <;> cases b <;> cases c <;> simp [pickReasons, reasonIf]

/-- Distinct reasons show which of them hold. -/
theorem pickReasons_inj {a b c a' b' c' : Bool} {first second third otherwise : String}
    (hnodup : [first,second,third,otherwise].Nodup) :
    pickReasons a b c first second third otherwise =
        pickReasons a' b' c' first second third otherwise ↔
      a = a' ∧ b = b' ∧ c = c' := by
  constructor
  · intro h
    have hleft := mem_pickReasons (a := a) (b := b) (c := c) hnodup
    have hright := mem_pickReasons (a := a') (b := b') (c := c') hnodup
    rw [h] at hleft
    exact ⟨Bool.eq_iff_iff.mpr (hleft.1.symm.trans hright.1),
      Bool.eq_iff_iff.mpr (hleft.2.1.symm.trans hright.2.1),
      Bool.eq_iff_iff.mpr (hleft.2.2.symm.trans hright.2.2)⟩
  · intro hparts
    obtain ⟨rfl,rfl,rfl⟩ := hparts
    rfl

theorem cashOk_of_transient {s : NarrativeSignals} (h : s.type = .transient) :
    s.cashOk = true := by
  unfold NarrativeSignals.type at h
  split_ifs at h with hstructural htransient
  exact (Bool.and_eq_true _ _ ▸ htransient).2

theorem reasons_eq_pickReasons (s : NarrativeSignals) : s.reasons = match s.type with
    | .structural => pickReasons s.hasMarginRisk s.hasConcentrationRisk
        (s.margDown && !s.allAdjNonRecurring) "毛利率出現持續性下滑趨勢" "客戶集中度風險未獲充分揭露"
        "毛利下滑非一次性因素可解釋" "財務指標未見重大異常"
    | .transient => pickReasons s.revDown s.allAdjNonRecurring s.cashOk
        "營收下滑可追溯至具體遞延事件" "毛利影響項目屬非常態一次性費用" "現金流動性維持穩健"
        "財務指標未見重大異常"
    | .stable => pickReasons (!s.revDown) (!s.margDown) s.cashOk "營收維持穩定或正向成長"
        "毛利率無明顯惡化" "流動性風險無虞" "財務指標未見重大異常" := by
  rw [NarrativeSignals.reasons, NarrativeSignals.found]
  cases s.type <;> rfl

/-- No reason looks like markup. -/
theorem reasons_plain (s : NarrativeSignals) : ∀ r ∈ s.reasons, '<' ∉ r.toList := by
  have hplain : ∀ texts : List String, (∀ t ∈ texts, '<' ∉ t.toList) →
      ∀ r, r ∈ texts → '<' ∉ r.toList := fun texts h r hr => h r hr
  intro r hr
  rw [reasons_eq_pickReasons] at hr
  cases htype : s.type with
  | structural =>
    rw [htype] at hr
    exact hplain _ (by decide) r (pickReasons_subset _ _ _ _ _ _ _ hr)
  | transient =>
    rw [htype] at hr
    exact hplain _ (by decide) r (pickReasons_subset _ _ _ _ _ _ _ hr)
  | stable =>
    rw [htype] at hr
    exact hplain _ (by decide) r (pickReasons_subset _ _ _ _ _ _ _ hr)

theorem reasons_eq_iff {s t : NarrativeSignals} (htype : s.type = t.type) :
    s.reasons = t.reasons ↔ SameReasons s t := by
  rw [reasons_eq_pickReasons s, reasons_eq_pickReasons t, SameReasons, ← htype]
  cases hs : s.type with
  | structural => exact pickReasons_inj (by decide)
  | transient =>
    have hcash : s.cashOk = t.cashOk :=
      (cashOk_of_transient hs).trans (cashOk_of_transient (htype.symm.trans hs)).symm
    refine (pickReasons_inj (by decide)).trans ?_
    simp [hcash]
  | stable =>
    refine (pickReasons_inj (by decide)).trans ?_
    simp

end Reasons

section Conflicts

/-- A conflict that is counted is told by the count. -/
private theorem countConflict_inj (xs ys : List Json) (text : String) :
    reasonIf (!xs.isEmpty) (toString xs.length ++ text) =
      reasonIf (!ys.isEmpty) (toString ys.length ++ text) ↔ xs.length = ys.length := by
  cases xs with
  | nil => cases ys <;> simp [reasonIf]
  | cons x xs =>
    cases ys with
    | nil => simp [reasonIf]
    | cons y ys =>
      simp only [List.isEmpty_cons, Bool.not_false, reasonIf, if_true, List.cons.injEq, and_true,
        String.append_left_inj]
      exact ⟨toString_nat_inj,fun h => by rw [h]⟩

theorem conflictSignals_eq_iff (type : NarrativeType) (d e : ServedDashboard) :
    conflictSignals type d.adjustments d.highRisk = conflictSignals type e.adjustments e.highRisk ↔
      SameConflict type d e := by
  cases type with
  | structural => exact countConflict_inj _ _ _
  | stable => exact countConflict_inj _ _ _
  | transient =>
    change reasonIf _ _ = reasonIf _ _ ↔ _ = _
    cases d.highRisk.any (hasText "label" "Margin pressure") <;>
      cases e.highRisk.any (hasText "label" "Margin pressure") <;> decide

/-- One line at most, without markup. -/
theorem conflictSignals_plain (type : NarrativeType) (adjustments highRisk : List Json) :
    (conflictSignals type adjustments highRisk).length ≤ 1 ∧
      ∀ text ∈ conflictSignals type adjustments highRisk, '>' ∉ text.toList := by
  have hline : ∀ (cond : Bool) (text : String), '>' ∉ text.toList →
      (reasonIf cond text).length ≤ 1 ∧ ∀ line ∈ reasonIf cond text, '>' ∉ line.toList := by
    intro cond text htext
    cases cond <;> simp [reasonIf, htext]
  have hcount : ∀ (n : Nat) (text : String), '>' ∉ text.toList →
      '>' ∉ (toString n ++ text).toList := by
    intro n text htext
    rw [String.toList_append, List.mem_append, not_or]
    exact ⟨fun h => absurd (toString_nat_digits h) (by decide),htext⟩
  cases type with
  | structural => exact hline _ _ (hcount _ _ (by decide))
  | transient => exact hline _ _ (by decide)
  | stable => exact hline _ _ (hcount _ _ (by decide))

end Conflicts

section Signals

/-- The signal that stands for what the revenue shows. -/
def revenueSignal : Option (Bool × Option String) → Signal
  | none => ⟨"—","無資料","db-ok"⟩
  | some (true,none) => ⟨"↓","下降","db-warn"⟩
  | some (true,some change) => ⟨"↓",change ++ "%","db-warn"⟩
  | some (false,none) => ⟨"↑","成長","db-ok"⟩
  | some (false,some change) => ⟨"↑","+" ++ change ++ "%","db-ok"⟩

theorem revenueSignal_injective : Function.Injective revenueSignal := by
  have hpercent : ∀ a b : String, b.toList.getLast? ≠ some '%' → a ++ "%" ≠ b := by
    intro a b hb heq
    apply hb
    rw [← heq, String.toList_append]
    simp
  have hdown : ∀ change : String, change ++ "%" ≠ "下降" :=
    fun change => hpercent change _ (by decide)
  have hup : ∀ change : String, "+" ++ change ++ "%" ≠ "成長" :=
    fun change => hpercent _ _ (by decide)
  intro x y h
  rcases x with _ | ⟨_ | _,_ | change⟩ <;> rcases y with _ | ⟨_ | _,_ | change'⟩ <;>
    simp_all [revenueSignal, (hdown _).symm, (hup _).symm]

theorem revSignal_eq (page : ResultsPage) : page.revSignal = revenueSignal
    ((page.whatChanged.find? (hasText "metric_id" "revenue")).map
      (fun row => (hasText "direction" "down" row,changeText row))) := by
  unfold ResultsPage.revSignal
  cases page.whatChanged.find? (hasText "metric_id" "revenue") with
  | none => rfl
  | some row =>
    simp only [Option.map_some, changeText]
    cases hasText "direction" "down" row <;> cases row.field? "delta_pct" with
    | none => rfl
    | some change => cases change <;> rfl

theorem changeText_plain {row : Json} (hrow : IsChange (row.field? "delta_pct")) {change : String}
    (h : changeText row = some change) : '>' ∉ change.toList := by
  intro hmem
  have hnumber : ofNumber '>' = true := by
    unfold changeText at h
    cases hfield : row.field? "delta_pct" with
    | none => simp [hfield] at h
    | some delta =>
      rw [hfield] at h hrow
      cases delta with
      | int n =>
        obtain rfl := Option.some.inj h
        exact toString_int_chars hmem
      | float x =>
        cases x with
        | finite q =>
          have htext : change = if q.den = 1 then toString q.num else (PyFloat.finite q).repr :=
            (Option.some.inj h).symm
          rw [htext] at hmem
          split at hmem
          · exact toString_int_chars hmem
          · exact repr_finite_chars hmem
        | inf negative => exact hrow.elim
        | nan => exact hrow.elim
      | null => contradiction
      | bool b => exact hrow.elim
      | str s => exact hrow.elim
      | arr xs => exact hrow.elim
      | obj fields => exact hrow.elim
  exact absurd hnumber (by decide)

theorem covSignal_eq_iff (p q : ResultsPage) : p.covSignal = q.covSignal ↔
    (0 < p.highRisk.length ↔ 0 < q.highRisk.length) ∧
      (2 < p.highRisk.length ↔ 2 < q.highRisk.length) := by
  unfold ResultsPage.covSignal
  split_ifs <;> simp <;> omega

theorem covSignal_plain (page : ResultsPage) : page.covSignal.Plain := by
  unfold ResultsPage.covSignal
  split_ifs
  · exact ⟨by decide,by decide,by decide⟩
  · exact ⟨by decide,by decide,by decide⟩
  · exact ⟨by decide,by decide,by decide⟩

theorem revSignal_plain {page : ResultsPage}
    (hrows : ∀ row ∈ page.whatChanged, IsChange (row.field? "delta_pct")) :
    page.revSignal.Plain := by
  rw [revSignal_eq]
  cases hfind : page.whatChanged.find? (hasText "metric_id" "revenue") with
  | none => exact ⟨by decide,by decide,by decide⟩
  | some row =>
    have hrow := hrows row (List.mem_of_find?_eq_some hfind)
    rw [Option.map_some]
    cases hchange : changeText row with
    | none =>
      cases hasText "direction" "down" row with
      | true => exact ⟨by decide,by decide,by decide⟩
      | false => exact ⟨by decide,by decide,by decide⟩
    | some change =>
      have hplain := changeText_plain hrow hchange
      have hpercent : '>' ∉ (change ++ "%").toList := by
        rw [String.toList_append, List.mem_append, not_or]
        exact ⟨hplain,by decide⟩
      have hplus : '>' ∉ ("+" ++ change ++ "%").toList := by
        rw [String.append_assoc, String.toList_append, List.mem_append, not_or]
        exact ⟨by decide,hpercent⟩
      have hicon : ∀ icon ∈ ["↓","↑"], '>' ∉ icon.toList := by decide
      have hcls : ∀ cls ∈ ["db-warn","db-ok"], ' ' ∉ cls.toList := by decide
      cases hasText "direction" "down" row with
      | true => exact ⟨hicon "↓" (by simp),hpercent,hcls "db-warn" (by simp)⟩
      | false => exact ⟨hicon "↑" (by simp),hplus,hcls "db-ok" (by simp)⟩

end Signals

end FinancialPdfReader
