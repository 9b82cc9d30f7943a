import FinancialPdfReader.Services.Trend

namespace FinancialPdfReader

open Py

/-- The rows of `what_changed`, none where the field is empty. -/
def changedRows (dashboard : Json) : List Json :=
  match dashboard.getD "what_changed" .null with
  | .arr rows => rows
  | _ => []

/-- The entries of `metrics`, none where the field is empty. -/
def metricFields (dashboard : Json) : List (String × Json) :=
  match dashboard.getD "metrics" .null with
  | .obj fields => fields
  | _ => []

def isAbout (kpi : String) (row : Json) : Bool := row.getD "metric_id" (.str "") == .str kpi

/-- What a dashboard says of an indicator: the last row of `what_changed` about it, or else its
entry in `metrics`. -/
def kpiItem? (dashboard : Json) (kpi : String) : Option Json :=
  ((changedRows dashboard).filter (isAbout kpi)).getLast?.or ((metricFields dashboard).lookup kpi)

/-- An item of which a point can be made. -/
structure ReadableKpiItem (item : Json) : Prop where
  isObj : ∃ fields, item = .obj fields
  firstId : ∃ id, ((item.getD "evidence_claim_ids" .null).orElse (.arr [.str ""])).first = .ok id
  deltaPct : ∃ x, (item.getD "delta_pct" .null).floatField = .ok x

/-- A row of which a point can be made, if it is about an indicator at all. -/
structure ReadableRow (row : Json) : Prop where
  isObj : ∃ fields, row = .obj fields
  item : ∀ kpi ∈ trackedKpis, isAbout kpi row = true → ReadableKpiItem row

/-- A dashboard that the trend service can read. -/
structure ReadableDashboard (dashboard : Json) : Prop where
  isObj : ∃ fields, dashboard = .obj fields
  changed : (dashboard.getD "what_changed" .null).truthy = true →
    ∃ rows, dashboard.getD "what_changed" .null = .arr rows
  rows : ∀ row ∈ changedRows dashboard, ReadableRow row
  metrics : (dashboard.getD "metrics" .null).truthy = true →
    ∃ fields, dashboard.getD "metrics" .null = .obj fields
  entries : ∀ kpi ∈ trackedKpis, (changedRows dashboard).filter (isAbout kpi) = [] →
    ∀ m, (metricFields dashboard).lookup kpi = some m → ReadableKpiItem m

theorem getOr_eq_ok {x default y : Json} {key : String} :
    getOr x key default = .ok y ↔
      (∃ fields, x = .obj fields) ∧ y = (x.getD key .null).orElse default := by
  constructor
  · intro h
    obtain ⟨value,hvalue,h⟩ := bind_eq_ok.mp h
    obtain ⟨hobj,rfl⟩ := Json.get_eq_ok.mp hvalue
    exact ⟨hobj,(Except.ok.inj h).symm⟩
  · intro hparts
    obtain ⟨hobj,rfl⟩ := hparts
    exact bind_eq_ok.mpr ⟨_,Json.get_eq_ok.mpr ⟨hobj,rfl⟩,rfl⟩

theorem getOr_eq_orElse {x : Json} (hobj : ∃ fields, x = .obj fields) (key : String)
    (default : Json) : getOr x key default = .ok ((x.getD key .null).orElse default) :=
  getOr_eq_ok.mpr ⟨hobj,rfl⟩

section Points

variable {documentId period kpi : String} {item row : Json}

/-- A point says what its item says, under the document and the period given. -/
theorem trendPoint_eq_ok {point : TrendPoint} :
    trendPoint documentId period item = .ok point ↔
      (∃ fields, item = .obj fields) ∧ ∃ id x,
        ((item.getD "evidence_claim_ids" .null).orElse (.arr [.str ""])).first = .ok id ∧
        (item.getD "delta_pct" .null).floatField = .ok x ∧
        point = ⟨period,documentId,(item.getD "direction" .null).orElse (.str "unknown"),x,
          (item.getD "claim_text" .null).orElse (.str ""),id,[]⟩ := by
  constructor
  · intro h
    obtain ⟨direction,hdirection,h⟩ := bind_eq_ok.mp h
    obtain ⟨given,hgiven,h⟩ := bind_eq_ok.mp h
    obtain ⟨claimText,htext,h⟩ := bind_eq_ok.mp h
    obtain ⟨ids,hids,h⟩ := bind_eq_ok.mp h
    obtain ⟨id,hid,h⟩ := bind_eq_ok.mp h
    obtain ⟨x,hx,hpoint⟩ := bind_eq_ok.mp h
    obtain ⟨hobj,rfl⟩ := getOr_eq_ok.mp hdirection
    obtain ⟨-,rfl⟩ := Json.get_eq_ok.mp hgiven
    obtain ⟨-,rfl⟩ := getOr_eq_ok.mp htext
    obtain ⟨-,rfl⟩ := getOr_eq_ok.mp hids
    exact ⟨hobj,id,x,hid,hx,(Except.ok.inj hpoint).symm⟩
  · intro hparts
    obtain ⟨hobj,id,x,hid,hx,rfl⟩ := hparts
    have hor := getOr_eq_orElse hobj
    rw [trendPoint, hor, ok_bind, Json.get_eq_getD hobj, ok_bind, hor, ok_bind, hor, ok_bind, hid,
      ok_bind, hx, ok_bind]
    rfl

variable (documentId period) in
theorem trendPoint_isOk_iff :
    (∃ point, trendPoint documentId period item = .ok point) ↔ ReadableKpiItem item := by
  constructor
  · intro hparts
    obtain ⟨point,h⟩ := hparts
    obtain ⟨hobj,id,x,hid,hx,-⟩ := trendPoint_eq_ok.mp h
    exact ⟨hobj,⟨id,hid⟩,⟨x,hx⟩⟩
  · intro h
    obtain ⟨id,hid⟩ := h.firstId
    obtain ⟨x,hx⟩ := h.deltaPct
    exact ⟨_,trendPoint_eq_ok.mpr ⟨h.isObj,id,x,hid,hx,rfl⟩⟩

theorem isAbout_iff : isAbout kpi row = true ↔ row.getD "metric_id" (.str "") = .str kpi := by
  rw [isAbout, beq_iff_eq]

theorem isAbout_self {other : String} (h : isAbout kpi row = true) (h' : isAbout other row = true) :
    other = kpi := by
  rw [isAbout_iff] at h h'
  exact Json.str.inj (h'.symm.trans h)

variable (row) in
theorem about_tracked_or_not :
    (∃ kpi ∈ trackedKpis, isAbout kpi row = true) ∨
      ∀ kpi ∈ trackedKpis, isAbout kpi row = false := by
  by_cases habout : ∃ kpi ∈ trackedKpis, isAbout kpi row = true
  · exact Or.inl habout
  · refine Or.inr ?_
    intro kpi hkpi
    have hnot : ¬ isAbout kpi row = true := fun h => habout ⟨kpi,hkpi,h⟩
    exact Bool.eq_false_of_not_eq_true hnot

/-- A row writes the point of the tracked indicator that it is about, and nothing else. -/
theorem addChanged_about {points : Dict String TrendPoint} (hobj : ∃ fields, row = .obj fields)
    (hkpi : kpi ∈ trackedKpis) (habout : isAbout kpi row = true) :
    addChanged documentId period points row =
      (trendPoint documentId period row).map (points.set kpi) := by
  rw [addChanged, Json.get_eq_getD hobj, ok_bind, isAbout_iff.mp habout]
  simp only [List.contains_iff_mem.mpr hkpi, if_true]
  cases trendPoint documentId period row <;> rfl

/-- A row about nothing that is tracked is passed over. -/
theorem addChanged_other {points : Dict String TrendPoint} (hobj : ∃ fields, row = .obj fields)
    (hother : ∀ kpi ∈ trackedKpis, isAbout kpi row = false) :
    addChanged documentId period points row = .ok points := by
  rw [addChanged, Json.get_eq_getD hobj, ok_bind]
  split
  · rename_i key hkey
    have habsent : ¬ trackedKpis.contains key = true := by
      intro hmem
      have hnot := hother key (List.contains_iff_mem.mp hmem)
      rw [isAbout_iff.mpr hkey] at hnot
      contradiction
    rw [if_neg habsent]
    rfl
  · rfl

variable (documentId period) in
theorem addChanged_isOk_iff {points : Dict String TrendPoint} :
    (∃ next, addChanged documentId period points row = .ok next) ↔ ReadableRow row := by
  constructor
  · intro hparts
    obtain ⟨next,h⟩ := hparts
    have hobj : ∃ fields, row = .obj fields := by
      obtain ⟨metricId,hget,-⟩ := bind_eq_ok.mp h
      exact (Json.get_eq_ok.mp hget).1
    refine ⟨hobj,?_⟩
    intro kpi hkpi habout
    rw [addChanged_about hobj hkpi habout] at h
    obtain ⟨point,hpoint,-⟩ := map_eq_ok.mp h
    exact (trendPoint_isOk_iff documentId period).mp ⟨point,hpoint⟩
  · intro h
    rcases about_tracked_or_not row with ⟨kpi,hkpi,habout⟩ | hother
    · obtain ⟨point,hpoint⟩ := (trendPoint_isOk_iff documentId period).mpr (h.item kpi hkpi habout)
      rw [addChanged_about h.isObj hkpi habout, hpoint]
      exact ⟨_,rfl⟩
    · exact ⟨points,addChanged_other h.isObj hother⟩

/-- All that a row can do. -/
theorem addChanged_cases {points next : Dict String TrendPoint}
    (h : addChanged documentId period points row = .ok next) :
    (∃ kpi ∈ trackedKpis, isAbout kpi row = true ∧ ∃ point,
      trendPoint documentId period row = .ok point ∧ next = points.set kpi point) ∨
    ((∀ kpi ∈ trackedKpis, isAbout kpi row = false) ∧ next = points) := by
  have hread : ReadableRow row := (addChanged_isOk_iff documentId period).mp ⟨next,h⟩
  rcases about_tracked_or_not row with ⟨kpi,hkpi,habout⟩ | hother
  · rw [addChanged_about hread.isObj hkpi habout] at h
    obtain ⟨point,hpoint,rfl⟩ := map_eq_ok.mp h
    exact Or.inl ⟨kpi,hkpi,habout,point,hpoint,rfl⟩
  · rw [addChanged_other hread.isObj hother] at h
    exact Or.inr ⟨hother,(Except.ok.inj h).symm⟩

variable (documentId period) in
theorem foldlM_addChanged_isOk_iff {rows : List Json} {start : Dict String TrendPoint} :
    (∃ points, rows.foldlM (addChanged documentId period) start = .ok points) ↔
      ∀ row ∈ rows, ReadableRow row :=
  foldlM_isOk_iff (P := ReadableRow) (fun _ _ => addChanged_isOk_iff documentId period)

/-- The point that an item gives, none where there is no item. -/
def pointOf (documentId period : String) (item : Option Json) :
    Except PyError (Option TrendPoint) :=
  item.mapM (trendPoint documentId period)

@[simp] theorem pointOf_none : pointOf documentId period none = .ok none := rfl

theorem pointOf_some : pointOf documentId period (some item) =
    some <$> trendPoint documentId period item := rfl

variable (kpi) in
/-- What one row does to the entry of one indicator. -/
theorem addChanged_get? {points next : Dict String TrendPoint}
    (h : addChanged documentId period points row = .ok next) :
    (kpi ∈ trackedKpis → isAbout kpi row = true →
      pointOf documentId period (some row) = .ok (next.get? kpi)) ∧
    (kpi ∉ trackedKpis ∨ isAbout kpi row = false → next.get? kpi = points.get? kpi) := by
  rcases addChanged_cases h with ⟨other,hother,habout,point,hpoint,rfl⟩ | ⟨hnone,rfl⟩
  · constructor
    · intro _ hkpi
      obtain rfl : kpi = other := isAbout_self habout hkpi
      rw [pointOf_some, hpoint, Dict.get?_set_self]
      rfl
    · intro hnot
      apply Dict.get?_set_of_ne
      intro heq
      rw [heq] at hnot
      rcases hnot with hnot | hnot
      · exact hnot hother
      · rw [habout] at hnot
        contradiction
  · constructor
    · intro hkpi habout
      rw [hnone kpi hkpi] at habout
      contradiction
    · intro _
      rfl

private theorem getLast?_cons_filter {α : Type} (p : α → Bool) (x : α) (xs : List α) :
    ((x :: xs).filter p).getLast? =
      ((xs.filter p).getLast?).or (if p x then some x else none) := by
  cases hx : p x with
  | false => simp [hx]
  | true =>
    rw [List.filter_cons_of_pos hx, List.getLast?_cons]
    cases (xs.filter p).getLast? <;> simp

variable (kpi) in
/-- After all the rows an indicator has the point of the last row about it. -/
theorem foldlM_addChanged {rows : List Json} {start points : Dict String TrendPoint}
    (h : rows.foldlM (addChanged documentId period) start = .ok points) :
    (kpi ∈ trackedKpis → ∃ found,
      pointOf documentId period ((rows.filter (isAbout kpi)).getLast?) = .ok found ∧
      points.get? kpi = found.or (start.get? kpi)) ∧
    (kpi ∉ trackedKpis → points.get? kpi = start.get? kpi) := by
  induction rows generalizing start with
  | nil =>
    obtain rfl : start = points := Except.ok.inj h
    exact ⟨fun _ => ⟨none,rfl,rfl⟩,fun _ => rfl⟩
  | cons row rows ih =>
    obtain ⟨next,hnext,hrest⟩ := bind_eq_ok.mp h
    obtain ⟨htracked,huntracked⟩ := ih hrest
    obtain ⟨hwrite,hkeep⟩ := addChanged_get? kpi hnext
    constructor
    · intro hkpi
      obtain ⟨found,hfound,hpoints⟩ := htracked hkpi
      rw [getLast?_cons_filter]
      cases hlast : (rows.filter (isAbout kpi)).getLast? with
      | some last =>
        rw [hlast, pointOf_some] at hfound
        obtain ⟨point,hpoint,rfl⟩ := map_eq_ok.mp hfound
        refine ⟨some point,?_,?_⟩
        · rw [Option.some_or, pointOf_some, hpoint]
          rfl
        · rw [hpoints, Option.some_or, Option.some_or]
      | none =>
        rw [hlast] at hfound
        obtain rfl : none = found := Except.ok.inj hfound
        rw [Option.none_or] at hpoints ⊢
        cases habout : isAbout kpi row with
        | true =>
          have hrow := hwrite hkpi habout
          rw [pointOf_some] at hrow
          obtain ⟨point,hpoint,hget⟩ := map_eq_ok.mp hrow
          refine ⟨some point,?_,?_⟩
          · rw [if_pos rfl, pointOf_some, hpoint]
            rfl
          · rw [hpoints, ← hget, Option.some_or]
        | false =>
          refine ⟨none,rfl,?_⟩
          rw [hpoints, hkeep (Or.inr habout), Option.none_or]
    · intro hkpi
      rw [huntracked hkpi, hkeep (Or.inl hkpi)]

/-- `metrics` says nothing of an indicator that is not tracked or that has its point already. -/
theorem addMetric_skip {points : Dict String TrendPoint}
    (h : kpi ∉ trackedKpis ∨ (points.get? kpi).isSome = true) :
    addMetric documentId period points (kpi,item) = .ok points := by
  have hskip : (!trackedKpis.contains kpi || (points.get? kpi).isSome) = true := by
    rcases h with h | h
    · simp [h]
    · simp [h]
  rw [addMetric, if_pos hskip]

theorem addMetric_fill {points : Dict String TrendPoint} (hkpi : kpi ∈ trackedKpis)
    (hnone : points.get? kpi = none) :
    addMetric documentId period points (kpi,item) =
      (trendPoint documentId period item).map (points.set kpi) := by
  have hfill : ¬ (!trackedKpis.contains kpi || (points.get? kpi).isSome) = true := by
    simp [hkpi, hnone]
  rw [addMetric, if_neg hfill]
  cases trendPoint documentId period item <;> rfl

private theorem skip_or_fill (points : Dict String TrendPoint) (key : String) :
    (key ∉ trackedKpis ∨ (points.get? key).isSome = true) ∨
      key ∈ trackedKpis ∧ points.get? key = none := by
  by_cases hkey : key ∈ trackedKpis
  · cases hget : points.get? key with
    | none => exact Or.inr ⟨hkey,rfl⟩
    | some point => exact Or.inl (Or.inr rfl)
  · exact Or.inl (Or.inl hkey)

private theorem ne_of_skip {points : Dict String TrendPoint} {key : String}
    (hskip : key ∉ trackedKpis ∨ (points.get? key).isSome = true) (hkpi : kpi ∈ trackedKpis)
    (hnone : points.get? kpi = none) : (kpi == key) = false := by
  rw [beq_eq_false_iff_ne]
  intro heq
  rw [← heq, hnone] at hskip
  rcases hskip with hskip | hskip
  · exact hskip hkpi
  · contradiction

variable (kpi) in
/-- After `metrics` an indicator has the point it had, or else the one of its entry. -/
theorem foldlM_addMetric {fields : List (String × Json)} {points next : Dict String TrendPoint}
    (h : fields.foldlM (addMetric documentId period) points = .ok next) :
    (kpi ∉ trackedKpis ∨ (points.get? kpi).isSome = true → next.get? kpi = points.get? kpi) ∧
    (kpi ∈ trackedKpis → points.get? kpi = none →
      pointOf documentId period (fields.lookup kpi) = .ok (next.get? kpi)) := by
  induction fields generalizing points with
  | nil =>
    obtain rfl : points = next := Except.ok.inj h
    refine ⟨fun _ => rfl,fun _ hnone => ?_⟩
    rw [hnone]
    rfl
  | cons e fields ih =>
    obtain ⟨key,m⟩ := e
    obtain ⟨middle,hmiddle,hrest⟩ := bind_eq_ok.mp h
    obtain ⟨hkeep,hfill⟩ := ih hrest
    rcases skip_or_fill points key with hskip | ⟨hkey,hnone⟩
    · rw [addMetric_skip hskip] at hmiddle
      obtain rfl : points = middle := Except.ok.inj hmiddle
      refine ⟨hkeep,fun hkpi hnone => ?_⟩
      rw [List.lookup_cons, ne_of_skip hskip hkpi hnone]
      exact hfill hkpi hnone
    · rw [addMetric_fill hkey hnone] at hmiddle
      obtain ⟨point,hpoint,rfl⟩ := map_eq_ok.mp hmiddle
      by_cases heq : kpi = key
      · subst heq
        have hset : (points.set kpi point).get? kpi = some point := Dict.get?_set_self _ _ _
        have hnext : next.get? kpi = some point :=
          (hkeep (Or.inr (by rw [hset]; rfl))).trans hset
        constructor
        · intro hnot
          rw [hnone] at hnot
          rcases hnot with hnot | hnot
          · exact absurd hkey hnot
          · contradiction
        · intro _ _
          rw [List.lookup_cons, beq_self_eq_true, hnext, pointOf_some, hpoint]
          rfl
      · have hset : (points.set key point).get? kpi = points.get? kpi :=
          Dict.get?_set_of_ne _ _ heq
        have hbeq : (kpi == key) = false := beq_eq_false_iff_ne.mpr heq
        rw [hset] at hkeep hfill
        refine ⟨hkeep,fun hkpi hnone => ?_⟩
        rw [List.lookup_cons, hbeq]
        exact hfill hkpi hnone

variable (documentId period) in
theorem foldlM_addMetric_isOk_iff {fields : List (String × Json)}
    {points : Dict String TrendPoint} :
    (∃ next, fields.foldlM (addMetric documentId period) points = .ok next) ↔
      ∀ kpi ∈ trackedKpis, points.get? kpi = none →
        ∀ m, fields.lookup kpi = some m → ReadableKpiItem m := by
  constructor
  · intro hparts kpi hkpi hnone m hm
    obtain ⟨next,h⟩ := hparts
    have hpoint := (foldlM_addMetric kpi h).2 hkpi hnone
    rw [hm, pointOf_some] at hpoint
    obtain ⟨point,hpoint,-⟩ := map_eq_ok.mp hpoint
    exact (trendPoint_isOk_iff documentId period).mp ⟨point,hpoint⟩
  · intro h
    induction fields generalizing points with
    | nil => exact ⟨points,rfl⟩
    | cons e fields ih =>
      obtain ⟨key,m⟩ := e
      rcases skip_or_fill points key with hskip | ⟨hkey,hnone⟩
      · rw [List.foldlM_cons, addMetric_skip hskip, ok_bind]
        apply ih
        intro kpi hkpi hnone m' hm'
        refine h kpi hkpi hnone m' ?_
        rw [List.lookup_cons, ne_of_skip hskip hkpi hnone]
        exact hm'
      · obtain ⟨point,hpoint⟩ :=
          (trendPoint_isOk_iff documentId period).mpr (h key hkey hnone m (by simp))
        rw [List.foldlM_cons, addMetric_fill hkey hnone, hpoint]
        apply ih
        intro kpi hkpi hget m' hm'
        rw [Dict.get?_set] at hget
        split_ifs at hget with heq
        have hne : (kpi == key) = false := beq_eq_false_iff_ne.mpr heq
        refine h kpi hkpi hget m' ?_
        rw [List.lookup_cons, hne]
        exact hm'

private theorem iter_orElse_eq_ok {x : Json} {items : List Json} :
    (x.orElse (.arr [])).iter = .ok items ↔
      (x.truthy = false ∧ items = []) ∨ (x.truthy = true ∧ x.iter = .ok items) := by
  rw [Json.orElse]
  cases x.truthy <;> simp [eq_comm]

private theorem items_orElse_eq_ok {x : Json} {fields : List (String × Json)} :
    (x.orElse (.obj [])).items = .ok fields ↔
      (x.truthy = false ∧ fields = []) ∨ (x.truthy = true ∧ x = .obj fields) := by
  rw [Json.orElse]
  cases htruthy : x.truthy with
  | false => simp [Json.items, eq_comm]
  | true => cases x <;> simp [Json.items]

/-- A text or an object in the place of the rows gives items that are no objects. -/
private theorem rows_of_readable {x : Json} {items : List Json} (hiter : x.iter = .ok items)
    (htruthy : x.truthy = true) (hitems : ∀ row ∈ items, ReadableRow row) : x = .arr items := by
  have hne : items ≠ [] := by
    intro hnil
    have hfalse := (Json.iter_eq_nil_iff hiter).mp hnil
    rw [htruthy] at hfalse
    contradiction
  obtain ⟨row,hrow⟩ := List.exists_mem_of_ne_nil items hne
  obtain ⟨fields,hobj⟩ := (hitems row hrow).isObj
  cases x with
  | arr rows => rw [Except.ok.inj hiter]
  | obj entries =>
    rw [← Except.ok.inj hiter] at hrow
    obtain ⟨e,-,he⟩ := List.mem_map.mp hrow
    rw [hobj] at he
    contradiction
  | str s =>
    rw [← Except.ok.inj hiter] at hrow
    obtain ⟨c,-,hc⟩ := List.mem_map.mp hrow
    rw [hobj] at hc
    contradiction
  | _ => contradiction

private theorem changedRows_eq {dashboard : Json}
    (h : (dashboard.getD "what_changed" .null).truthy = true →
      ∃ rows, dashboard.getD "what_changed" .null = .arr rows) :
    ((dashboard.getD "what_changed" .null).orElse (.arr [])).iter =
      .ok (changedRows dashboard) := by
  rw [iter_orElse_eq_ok, changedRows]
  cases htruthy : (dashboard.getD "what_changed" .null).truthy with
  | false =>
    refine Or.inl ⟨rfl,?_⟩
    cases hx : dashboard.getD "what_changed" .null with
    | arr rows =>
      rw [hx] at htruthy
      simpa using htruthy
    | _ => rfl
  | true =>
    obtain ⟨rows,hrows⟩ := h htruthy
    rw [hrows]
    exact Or.inr ⟨rfl,rfl⟩

private theorem metricFields_eq {dashboard : Json}
    (h : (dashboard.getD "metrics" .null).truthy = true →
      ∃ fields, dashboard.getD "metrics" .null = .obj fields) :
    ((dashboard.getD "metrics" .null).orElse (.obj [])).items =
      .ok (metricFields dashboard) := by
  rw [items_orElse_eq_ok, metricFields]
  cases htruthy : (dashboard.getD "metrics" .null).truthy with
  | false =>
    refine Or.inl ⟨rfl,?_⟩
    cases hx : dashboard.getD "metrics" .null with
    | obj fields =>
      rw [hx] at htruthy
      simpa [Json.truthy] using htruthy
    | _ => rfl
  | true =>
    obtain ⟨fields,hfields⟩ := h htruthy
    rw [hfields]
    exact Or.inr ⟨rfl,rfl⟩

/-- The two loops of a run that succeeds, each over what the dashboard holds for it. -/
theorem extractKpiPoints_eq_ok {dashboard : Json} {points : Dict String TrendPoint} :
    extractKpiPoints documentId period dashboard = .ok points ↔
      (∃ fields, dashboard = .obj fields) ∧
      ((dashboard.getD "what_changed" .null).truthy = true →
        ∃ rows, dashboard.getD "what_changed" .null = .arr rows) ∧
      ((dashboard.getD "metrics" .null).truthy = true →
        ∃ fields, dashboard.getD "metrics" .null = .obj fields) ∧
      ∃ changed, (changedRows dashboard).foldlM (addChanged documentId period) Dict.empty =
          .ok changed ∧
        (metricFields dashboard).foldlM (addMetric documentId period) changed = .ok points := by
  constructor
  · intro h
    obtain ⟨rows,hrows,h⟩ := bind_eq_ok.mp h
    obtain ⟨items,hitems,h⟩ := bind_eq_ok.mp h
    obtain ⟨changed,hchanged,h⟩ := bind_eq_ok.mp h
    obtain ⟨metrics,hmetrics,h⟩ := bind_eq_ok.mp h
    obtain ⟨fields,hfields,hpoints⟩ := bind_eq_ok.mp h
    obtain ⟨hobj,rfl⟩ := getOr_eq_ok.mp hrows
    obtain ⟨-,rfl⟩ := getOr_eq_ok.mp hmetrics
    have hreadable : ∀ row ∈ items, ReadableRow row :=
      (foldlM_addChanged_isOk_iff documentId period).mp ⟨changed,hchanged⟩
    have harr : (dashboard.getD "what_changed" .null).truthy = true →
        ∃ rows, dashboard.getD "what_changed" .null = .arr rows := by
      intro htruthy
      rcases iter_orElse_eq_ok.mp hitems with ⟨hfalse,-⟩ | ⟨-,hiter⟩
      · rw [htruthy] at hfalse
        contradiction
      · exact ⟨items,rows_of_readable hiter htruthy hreadable⟩
    have hmapping : (dashboard.getD "metrics" .null).truthy = true →
        ∃ fields, dashboard.getD "metrics" .null = .obj fields := by
      intro htruthy
      rcases items_orElse_eq_ok.mp hfields with ⟨hfalse,-⟩ | ⟨-,hfields⟩
      · rw [htruthy] at hfalse
        contradiction
      · exact ⟨fields,hfields⟩
    rw [changedRows_eq harr] at hitems
    rw [metricFields_eq hmapping] at hfields
    obtain rfl := Except.ok.inj hitems
    obtain rfl := Except.ok.inj hfields
    exact ⟨hobj,harr,hmapping,changed,hchanged,hpoints⟩
  · intro hparts
    obtain ⟨hobj,harr,hmapping,changed,hchanged,hpoints⟩ := hparts
    have hor := getOr_eq_orElse hobj
    rw [extractKpiPoints, hor, ok_bind, changedRows_eq harr, ok_bind, hchanged, ok_bind, hor,
      ok_bind, metricFields_eq hmapping, ok_bind]
    exact hpoints

/-- The points of a dashboard: of each tracked indicator the one of what the dashboard says of
it, and no others. -/
theorem extractKpiPoints_get? {dashboard : Json} {points : Dict String TrendPoint}
    (h : extractKpiPoints documentId period dashboard = .ok points) :
    (kpi ∈ trackedKpis →
      pointOf documentId period (kpiItem? dashboard kpi) = .ok (points.get? kpi)) ∧
    (kpi ∉ trackedKpis → points.get? kpi = none) := by
  obtain ⟨-,-,-,changed,hchanged,hpoints⟩ := extractKpiPoints_eq_ok.mp h
  obtain ⟨hrows,hnorows⟩ := foldlM_addChanged kpi hchanged
  obtain ⟨hkeep,hfill⟩ := foldlM_addMetric kpi hpoints
  constructor
  · intro hkpi
    obtain ⟨found,hfound,hget⟩ := hrows hkpi
    rw [Dict.get?_empty, Option.or_none] at hget
    rw [kpiItem?]
    cases hlast : ((changedRows dashboard).filter (isAbout kpi)).getLast? with
    | none =>
      rw [hlast] at hfound
      obtain rfl : none = found := Except.ok.inj hfound
      exact hfill hkpi hget
    | some row =>
      rw [hlast] at hfound
      obtain ⟨point,hpoint,rfl⟩ := map_eq_ok.mp hfound
      rw [hkeep (Or.inr (by rw [hget]; rfl)), hget]
      exact hfound
  · intro hkpi
    rw [hkeep (Or.inl hkpi), hnorows hkpi, Dict.get?_empty]

variable (documentId period) in
theorem extractKpiPoints_isOk_iff {dashboard : Json} :
    (∃ points, extractKpiPoints documentId period dashboard = .ok points) ↔
      ReadableDashboard dashboard := by
  constructor
  · intro hparts
    obtain ⟨points,h⟩ := hparts
    obtain ⟨hobj,harr,hmapping,changed,hchanged,hpoints⟩ := extractKpiPoints_eq_ok.mp h
    refine ⟨hobj,harr,?_,hmapping,?_⟩
    · exact (foldlM_addChanged_isOk_iff documentId period).mp ⟨changed,hchanged⟩
    · intro kpi hkpi hnone m hm
      obtain ⟨found,hfound,hget⟩ := (foldlM_addChanged kpi hchanged).1 hkpi
      rw [hnone] at hfound
      obtain rfl : none = found := Except.ok.inj hfound
      exact (foldlM_addMetric_isOk_iff documentId period).mp ⟨points,hpoints⟩ kpi hkpi hget m hm
  · intro h
    obtain ⟨changed,hchanged⟩ := (foldlM_addChanged_isOk_iff documentId period).mpr h.rows
    have hentries : ∀ kpi ∈ trackedKpis, changed.get? kpi = none →
        ∀ m, (metricFields dashboard).lookup kpi = some m → ReadableKpiItem m := by
      intro kpi hkpi hnone m hm
      obtain ⟨found,hfound,hget⟩ := (foldlM_addChanged kpi hchanged).1 hkpi
      rw [hnone, Dict.get?_empty, Option.or_none] at hget
      rw [← hget] at hfound
      apply h.entries kpi hkpi ?_ m hm
      cases hlast : ((changedRows dashboard).filter (isAbout kpi)).getLast? with
      | none => exact List.getLast?_eq_none_iff.mp hlast
      | some row =>
        rw [hlast, pointOf_some] at hfound
        obtain ⟨point,-,hsome⟩ := map_eq_ok.mp hfound
        contradiction
    obtain ⟨points,hpoints⟩ := (foldlM_addMetric_isOk_iff documentId period).mpr hentries
    exact ⟨points,extractKpiPoints_eq_ok.mpr
      ⟨h.isObj,h.changed,h.metrics,changed,hchanged,hpoints⟩⟩

end Points

end FinancialPdfReader
