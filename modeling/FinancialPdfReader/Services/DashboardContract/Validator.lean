import FinancialPdfReader.Services.DashboardContract.Constants

namespace FinancialPdfReader

open Py

/-- `if not ok: errors.append(error)` -/
def flagUnless (ok : Bool) (error : String) : List String := if ok then [] else [error]

def validateMetric (m : Json) : Except PyError (List String) := do
  let hasId ← m.contains "metric_id"
  let hasType ← m.contains "metric_type"
  let direction ← m.get "direction" .null
  let known ← direction.inSet trendEnum
  let ids ← m.get "evidence_claim_ids" .null
  let metricId ← m.get "metric_id" .null
  pure (flagUnless hasId "metric_missing_metric_id" ++
    flagUnless hasType "metric_missing_metric_type" ++
    flagUnless known ("metric_invalid_direction:" ++ metricId.toStr) ++
    flagUnless ids.truthy ("metric_missing_evidence:" ++ metricId.toStr))

def validateEdge (e : Json) : Except PyError (List String) := do
  let relation ← e.get "relation" .null
  let known ← relation.inSet relationEnum
  let ids ← e.get "evidence_claim_ids" .null
  let source ← e.get "source_metric" .null
  let target ← e.get "target_metric" .null
  let arrow := source.toStr ++ "->" ++ target.toStr
  pure (flagUnless known ("edge_invalid_relation:" ++ arrow) ++
    flagUnless ids.truthy ("edge_missing_evidence:" ++ arrow))

def validateRisk (r : Json) : Except PyError (List String) := do
  let severity ← r.get "severity" .null
  let knownSeverity ← severity.inSet severityEnum
  let trend ← r.get "trend" .null
  let knownTrend ← trend.inSet trendEnum
  let hasReason ← r.contains "severity_reason"
  let riskId ← r.get "risk_id" .null
  pure (flagUnless knownSeverity ("risk_invalid_severity:" ++ riskId.toStr) ++
    flagUnless knownTrend ("risk_invalid_trend:" ++ riskId.toStr) ++
    flagUnless hasReason ("risk_missing_reason:" ++ riskId.toStr))

/-- `for x in payload.get(key, []): ...`, with the errors of each turn. -/
def validateEach (check : Json → Except PyError (List String)) (payload : Json) (key : String) :
    Except PyError (List String) := do
  let listed ← payload.get key (.arr [])
  let xs ← listed.iter
  let errors ← xs.mapM check
  pure errors.flatten

def validateDashboardContractV1 (payload : Json) : Except PyError (List String) := do
  let version ← payload.get "contract_version" .null
  let metricErrors ← validateEach validateMetric payload "metrics"
  let edgeErrors ← validateEach validateEdge payload "causal_edges"
  let riskErrors ← validateEach validateRisk payload "risk_surface"
  pure (flagUnless (version.isStr dashboardContractVersion) "contract_version_mismatch" ++
    metricErrors ++ edgeErrors ++ riskErrors)

/-- What the validator asks of a metric. -/
structure CheckedMetric (m : Json) : Prop where
  isObj : ∃ fields, m = .obj fields
  metricId : (m.field? "metric_id").isSome = true
  metricType : (m.field? "metric_type").isSome = true
  direction : ∃ t ∈ trendEnum, m.field? "direction" = some (.str t)
  evidence : (m.getD "evidence_claim_ids" .null).truthy = true

structure CheckedEdge (e : Json) : Prop where
  isObj : ∃ fields, e = .obj fields
  relation : ∃ t ∈ relationEnum, e.field? "relation" = some (.str t)
  evidence : (e.getD "evidence_claim_ids" .null).truthy = true

structure CheckedRisk (r : Json) : Prop where
  isObj : ∃ fields, r = .obj fields
  severity : ∃ t ∈ severityEnum, r.field? "severity" = some (.str t)
  trend : ∃ t ∈ trendEnum, r.field? "trend" = some (.str t)
  severityReason : (r.field? "severity_reason").isSome = true

/-- Everything that the loop over `key` runs through is as it should be. -/
def CheckedEach (ok : Json → Prop) (payload : Json) (key : String) : Prop :=
  ∃ xs, (payload.getD key (.arr [])).iter = .ok xs ∧ ∀ x ∈ xs, ok x

/-- What the validator asks of a payload. -/
structure CheckedRules (payload : Json) : Prop where
  isObj : ∃ fields, payload = .obj fields
  version : payload.field? "contract_version" = some (.str dashboardContractVersion)
  metrics : CheckedEach CheckedMetric payload "metrics"
  causalEdges : CheckedEach CheckedEdge payload "causal_edges"
  riskSurface : CheckedEach CheckedRisk payload "risk_surface"

@[simp] theorem flagUnless_eq_nil_iff (ok : Bool) (error : String) :
    flagUnless ok error = [] ↔ ok = true := by
  cases ok <;> simp [flagUnless]

private theorem contains_obj (fields : List (String × Json)) (key : String) :
    (Json.obj fields).contains key = .ok ((Json.obj fields).field? key).isSome := by
  change Except.ok (fields.any (fun e => e.1 == key)) = .ok (fields.lookup key).isSome
  congr 1
  induction fields with
  | nil => rfl
  | cons e es ih =>
    obtain ⟨k,v⟩ := e
    rw [List.any_cons, List.lookup_cons, ih]
    by_cases hk : key = k
    · simp [hk]
    · have hne : (key == k) = false := by simpa using hk
      have hne' : (k == key) = false := by simpa using Ne.symm hk
      simp [hne, hne']

/-- Membership in a set of names: of those that raise, none is in the set. -/
private theorem inSet_eq_ok_true_iff (names : List String) (x : Json) :
    x.inSet names = .ok true ↔ ∃ t ∈ names, x = .str t := by
  cases x <;> simp [Json.inSet]

private theorem getD_null_eq_str_iff (x : Json) (key t : String) :
    x.getD key .null = .str t ↔ x.field? key = some (.str t) := by
  rw [Json.getD]
  cases x.field? key <;> simp

private theorem inSet_getD_iff (names : List String) (x : Json) (key : String) :
    (x.getD key .null).inSet names = .ok true ↔ ∃ t ∈ names, x.field? key = some (.str t) := by
  rw [inSet_eq_ok_true_iff]
  constructor
  · intro hparts
    obtain ⟨t,ht,hx⟩ := hparts
    exact ⟨t,ht,(getD_null_eq_str_iff x key t).mp hx⟩
  · intro hparts
    obtain ⟨t,ht,hx⟩ := hparts
    exact ⟨t,ht,(getD_null_eq_str_iff x key t).mpr hx⟩

theorem validateMetric_eq_ok_nil_iff (m : Json) : validateMetric m = .ok [] ↔ CheckedMetric m := by
  constructor
  · intro h
    obtain ⟨hasId,hid,h⟩ := bind_eq_ok.mp h
    obtain ⟨hasType,htype,h⟩ := bind_eq_ok.mp h
    obtain ⟨direction,hdirection,h⟩ := bind_eq_ok.mp h
    obtain ⟨known,hknown,h⟩ := bind_eq_ok.mp h
    obtain ⟨ids,hids,h⟩ := bind_eq_ok.mp h
    obtain ⟨metricId,-,h⟩ := bind_eq_ok.mp h
    simp only [pure_eq_ok, Except.ok.injEq, List.append_eq_nil_iff, flagUnless_eq_nil_iff] at h
    obtain ⟨⟨⟨rfl,rfl⟩,rfl⟩,hevidence⟩ := h
    obtain ⟨⟨fields,rfl⟩,rfl⟩ := Json.get_eq_ok.mp hdirection
    rw [contains_obj, Except.ok.injEq] at hid htype
    exact ⟨⟨fields,rfl⟩,hid,htype,(inSet_getD_iff _ _ _).mp hknown,
      (Json.get_eq_ok.mp hids).2 ▸ hevidence⟩
  · intro hparts
    obtain ⟨⟨fields,rfl⟩,hid,htype,hdirection,hevidence⟩ := hparts
    have hobj : ∃ fields', Json.obj fields = .obj fields' := ⟨fields,rfl⟩
    rw [validateMetric, contains_obj, contains_obj, hid, htype]
    simp only [ok_bind, Json.get_eq_getD hobj, (inSet_getD_iff _ _ _).mpr hdirection, hevidence]
    rfl

theorem validateEdge_eq_ok_nil_iff (e : Json) : validateEdge e = .ok [] ↔ CheckedEdge e := by
  constructor
  · intro h
    obtain ⟨relation,hrelation,h⟩ := bind_eq_ok.mp h
    obtain ⟨known,hknown,h⟩ := bind_eq_ok.mp h
    obtain ⟨ids,hids,h⟩ := bind_eq_ok.mp h
    obtain ⟨source,-,h⟩ := bind_eq_ok.mp h
    obtain ⟨target,-,h⟩ := bind_eq_ok.mp h
    simp only [pure_eq_ok, Except.ok.injEq, List.append_eq_nil_iff, flagUnless_eq_nil_iff] at h
    obtain ⟨rfl,hevidence⟩ := h
    obtain ⟨hobj,rfl⟩ := Json.get_eq_ok.mp hrelation
    exact ⟨hobj,(inSet_getD_iff _ _ _).mp hknown,(Json.get_eq_ok.mp hids).2 ▸ hevidence⟩
  · intro hparts
    obtain ⟨hobj,hrelation,hevidence⟩ := hparts
    simp only [validateEdge, ok_bind, Json.get_eq_getD hobj,
      (inSet_getD_iff _ _ _).mpr hrelation, hevidence]
    rfl

theorem validateRisk_eq_ok_nil_iff (r : Json) : validateRisk r = .ok [] ↔ CheckedRisk r := by
  constructor
  · intro h
    obtain ⟨severity,hseverity,h⟩ := bind_eq_ok.mp h
    obtain ⟨knownSeverity,hknownSeverity,h⟩ := bind_eq_ok.mp h
    obtain ⟨trend,htrend,h⟩ := bind_eq_ok.mp h
    obtain ⟨knownTrend,hknownTrend,h⟩ := bind_eq_ok.mp h
    obtain ⟨hasReason,hreason,h⟩ := bind_eq_ok.mp h
    obtain ⟨riskId,-,h⟩ := bind_eq_ok.mp h
    simp only [pure_eq_ok, Except.ok.injEq, List.append_eq_nil_iff, flagUnless_eq_nil_iff] at h
    obtain ⟨⟨rfl,rfl⟩,rfl⟩ := h
    obtain ⟨⟨fields,rfl⟩,rfl⟩ := Json.get_eq_ok.mp hseverity
    obtain ⟨-,rfl⟩ := Json.get_eq_ok.mp htrend
    rw [contains_obj, Except.ok.injEq] at hreason
    exact ⟨⟨fields,rfl⟩,(inSet_getD_iff _ _ _).mp hknownSeverity,
      (inSet_getD_iff _ _ _).mp hknownTrend,hreason⟩
  · intro hparts
    obtain ⟨⟨fields,rfl⟩,hseverity,htrend,hreason⟩ := hparts
    have hobj : ∃ fields', Json.obj fields = .obj fields' := ⟨fields,rfl⟩
    simp only [validateRisk, contains_obj, hreason, ok_bind, Json.get_eq_getD hobj,
      (inSet_getD_iff _ _ _).mpr hseverity, (inSet_getD_iff _ _ _).mpr htrend]
    rfl

/-- A loop over one part of the payload reports nothing exactly when no turn of it does. -/
private theorem validateEach_eq_ok_nil_iff {check : Json → Except PyError (List String)}
    {ok : Json → Prop} (hcheck : ∀ x, check x = .ok [] ↔ ok x) {payload : Json}
    (hobj : ∃ fields, payload = .obj fields) (key : String) :
    validateEach check payload key = .ok [] ↔ CheckedEach ok payload key := by
  rw [validateEach, Json.get_eq_getD hobj, ok_bind, CheckedEach]
  constructor
  · intro h
    obtain ⟨xs,hxs,h⟩ := bind_eq_ok.mp h
    obtain ⟨errors,herrors,h⟩ := bind_eq_ok.mp h
    have hempty : ∀ es ∈ errors, es = [] := List.flatten_eq_nil_iff.mp (Except.ok.inj h)
    refine ⟨xs,hxs,?_⟩
    intro x hx
    obtain ⟨es,hes,hx⟩ := mapM_mem_left herrors hx
    rw [hempty es hes] at hx
    exact (hcheck x).mp hx
  · intro hparts
    obtain ⟨xs,hxs,hall⟩ := hparts
    have hmap : xs.mapM check = .ok (xs.map (fun _ => [])) :=
      mapM_eq_map (fun x hx => (hcheck x).mpr (hall x hx))
    have hflat : (xs.map (fun _ => ([] : List String))).flatten = [] := by simp
    rw [hxs, ok_bind, hmap, ok_bind, hflat]
    rfl

/-- The validator accepts a payload exactly when it meets the rules that the code looks at. -/
theorem validate_eq_ok_nil_iff (payload : Json) :
    validateDashboardContractV1 payload = .ok [] ↔ CheckedRules payload := by
  have hversion : (payload.getD "contract_version" .null).isStr dashboardContractVersion = true ↔
      payload.field? "contract_version" = some (.str dashboardContractVersion) := by
    rw [Json.isStr_iff, getD_null_eq_str_iff]
  constructor
  · intro h
    obtain ⟨version,hget,h⟩ := bind_eq_ok.mp h
    obtain ⟨metricErrors,hmetrics,h⟩ := bind_eq_ok.mp h
    obtain ⟨edgeErrors,hedges,h⟩ := bind_eq_ok.mp h
    obtain ⟨riskErrors,hrisks,h⟩ := bind_eq_ok.mp h
    simp only [pure_eq_ok, Except.ok.injEq, List.append_eq_nil_iff, flagUnless_eq_nil_iff] at h
    obtain ⟨⟨⟨hok,rfl⟩,rfl⟩,rfl⟩ := h
    obtain ⟨hobj,rfl⟩ := Json.get_eq_ok.mp hget
    exact ⟨hobj,hversion.mp hok,
      (validateEach_eq_ok_nil_iff validateMetric_eq_ok_nil_iff hobj _).mp hmetrics,
      (validateEach_eq_ok_nil_iff validateEdge_eq_ok_nil_iff hobj _).mp hedges,
      (validateEach_eq_ok_nil_iff validateRisk_eq_ok_nil_iff hobj _).mp hrisks⟩
  · intro hparts
    obtain ⟨hobj,hok,hmetrics,hedges,hrisks⟩ := hparts
    rw [validateDashboardContractV1, Json.get_eq_getD hobj, ok_bind,
      (validateEach_eq_ok_nil_iff validateMetric_eq_ok_nil_iff hobj _).mpr hmetrics, ok_bind,
      (validateEach_eq_ok_nil_iff validateEdge_eq_ok_nil_iff hobj _).mpr hedges, ok_bind,
      (validateEach_eq_ok_nil_iff validateRisk_eq_ok_nil_iff hobj _).mpr hrisks, ok_bind,
      hversion.mpr hok]
    rfl

/-- An array of claim identifiers with at least one of them. -/
def HasEvidenceIds (x : Json) : Prop :=
  ∃ id ids, x.field? "evidence_claim_ids" = some (.arr (id :: ids))

/-- The contract as the schema and its document state it. -/
structure ConformsV1 (payload : Json) : Prop where
  contractVersion : payload.field? "contract_version" = some (.str dashboardContractVersion)
  arrays : ∀ key ∈ ["metrics","what_changed","causal_edges","risk_surface","adjustments"],
    ∃ xs, payload.field? key = some (.arr xs)
  transparency : ∃ fields, payload.field? "transparency" = some (.obj fields)
  metricEvidence : ∀ ms, payload.field? "metrics" = some (.arr ms) → ∀ m ∈ ms, HasEvidenceIds m
  edgeEvidence : ∀ es, payload.field? "causal_edges" = some (.arr es) →
    ∀ e ∈ es, HasEvidenceIds e
  riskRows : ∀ rs, payload.field? "risk_surface" = some (.arr rs) → ∀ r ∈ rs,
    (r.field? "severity_reason").isSome = true ∧ (r.field? "rule_id").isSome = true

/-- What the validator never looks at: the presence and the shape of the parts, the shape of the
lists of claims, and the rules of the risk rows. -/
structure UncheckedRules (payload : Json) : Prop where
  arrays : ∀ key ∈ ["metrics","what_changed","causal_edges","risk_surface","adjustments"],
    ∃ xs, payload.field? key = some (.arr xs)
  transparency : ∃ fields, payload.field? "transparency" = some (.obj fields)
  idLists : ∀ key ∈ ["metrics","causal_edges"], ∀ xs, payload.field? key = some (.arr xs) →
    ∀ x ∈ xs, ∃ ids, x.field? "evidence_claim_ids" = some (.arr ids)
  ruleIds : ∀ rs, payload.field? "risk_surface" = some (.arr rs) →
    ∀ r ∈ rs, (r.field? "rule_id").isSome = true

private theorem checkedEach_arr {ok : Json → Prop} {payload : Json} {key : String}
    {xs : List Json} (h : CheckedEach ok payload key) (hxs : payload.field? key = some (.arr xs)) :
    ∀ x ∈ xs, ok x := by
  obtain ⟨ys,hys,hall⟩ := h
  rw [Json.getD, hxs, Option.getD_some, Json.iter_arr, Except.ok.injEq] at hys
  exact hys ▸ hall

/-- A list of claims that counts as true is not empty. -/
private theorem hasEvidenceIds_of_truthy {x : Json} {ids : List Json}
    (htruthy : (x.getD "evidence_claim_ids" .null).truthy = true)
    (hids : x.field? "evidence_claim_ids" = some (.arr ids)) : HasEvidenceIds x := by
  rw [Json.getD, hids, Option.getD_some] at htruthy
  cases ids with
  | nil => simp at htruthy
  | cons id ids => exact ⟨id,ids,hids⟩

/-- Acceptance implies the contract exactly for the payloads that break a rule which the code
checks or that also meet those which it does not. -/
theorem validate_sound_iff (payload : Json) :
    (validateDashboardContractV1 payload = .ok [] → ConformsV1 payload) ↔
      (CheckedRules payload → UncheckedRules payload) := by
  rw [validate_eq_ok_nil_iff]
  refine forall_congr' fun hchecked => ⟨?_,?_⟩
  · intro h
    refine ⟨h.arrays,h.transparency,?_,?_⟩
    · intro key hkey xs hxs x hx
      have hids : HasEvidenceIds x := by
        rcases List.mem_pair.mp hkey with rfl | rfl
        · exact h.metricEvidence xs hxs x hx
        · exact h.edgeEvidence xs hxs x hx
      obtain ⟨id,ids,hids⟩ := hids
      exact ⟨id :: ids,hids⟩
    · intro rs hrs r hr
      exact (h.riskRows rs hrs r hr).2
  · intro h
    refine ⟨hchecked.version,h.arrays,h.transparency,?_,?_,?_⟩
    · intro ms hms m hm
      obtain ⟨ids,hids⟩ := h.idLists "metrics" (by simp) ms hms m hm
      exact hasEvidenceIds_of_truthy (checkedEach_arr hchecked.metrics hms m hm).evidence hids
    · intro es hes e he
      obtain ⟨ids,hids⟩ := h.idLists "causal_edges" (by simp) es hes e he
      exact hasEvidenceIds_of_truthy (checkedEach_arr hchecked.causalEdges hes e he).evidence hids
    · intro rs hrs r hr
      exact ⟨(checkedEach_arr hchecked.riskSurface hrs r hr).severityReason,h.ruleIds rs hrs r hr⟩

/-- The version alone is accepted. -/
theorem validate_accepts_version_only :
    ¬ ∀ payload, validateDashboardContractV1 payload = .ok [] → ConformsV1 payload := by
  intro h
  have haccepted : validateDashboardContractV1
      (.obj [("contract_version",.str dashboardContractVersion)]) = .ok [] := by decide +kernel
  obtain ⟨fields,hfields⟩ := (h _ haccepted).transparency
  cases hfields

end FinancialPdfReader
