import Mathlib.Data.List.Nodup
import Mathlib.Data.List.Induction

namespace Py

variable {κ α β : Type}

/-- A dictionary as Python keeps it: its entries in the order in which their keys were first
set, no key twice. -/
structure Dict (κ α : Type) where
  entries : List (κ × α)
  nodup : (entries.map Prod.fst).Nodup

namespace Dict

def empty : Dict κ α := ⟨[],by simp⟩

def keys (d : Dict κ α) : List κ := d.entries.map Prod.fst

def values (d : Dict κ α) : List α := d.entries.map Prod.snd

@[simp] theorem keys_empty : (empty : Dict κ α).keys = [] := rfl

@[simp] theorem values_empty : (empty : Dict κ α).values = [] := rfl

/-- `{k: f(k, v) for k, v in d.items()}` -/
def mapValues (f : κ → α → β) (d : Dict κ α) : Dict κ β :=
  ⟨d.entries.map (fun e => (e.1,f e.1 e.2)),by
    rw [List.map_map]
    exact d.nodup⟩

@[simp] theorem keys_mapValues (f : κ → α → β) (d : Dict κ α) :
    (d.mapValues f).keys = d.keys := by
  rw [keys, keys, mapValues, List.map_map]
  rfl

variable [DecidableEq κ]

/-- `d.get(k)`. -/
def get? (d : Dict κ α) (k : κ) : Option α := d.entries.lookup k

@[simp] theorem get?_empty (k : κ) : (empty : Dict κ α).get? k = none := rfl

private def setEntry (k : κ) (v : α) : List (κ × α) → List (κ × α)
  | [] => [(k,v)]
  | e :: es => if e.1 = k then (k,v) :: es else e :: setEntry k v es

private theorem setEntry_keys (k : κ) (v : α) (es : List (κ × α)) :
    (setEntry k v es).map Prod.fst =
      if k ∈ es.map Prod.fst then es.map Prod.fst else es.map Prod.fst ++ [k] := by
  induction es with
  | nil => simp [setEntry]
  | cons e es ih =>
    rw [setEntry]
    by_cases he : e.1 = k
    · simp [he]
    · have hk : k ≠ e.1 := fun h => he h.symm
      simp only [he, if_false, List.map_cons, ih, List.mem_cons, hk, false_or]
      split_ifs <;> simp

/-- `d[k] = v`: an existing key keeps its place. -/
def set (d : Dict κ α) (k : κ) (v : α) : Dict κ α :=
  ⟨setEntry k v d.entries,by
    rw [setEntry_keys]
    split_ifs with h
    · exact d.nodup
    · exact d.nodup.append (by simp) (by simpa using h)⟩

theorem keys_set (d : Dict κ α) (k : κ) (v : α) :
    (d.set k v).keys = if k ∈ d.keys then d.keys else d.keys ++ [k] :=
  setEntry_keys k v d.entries

theorem mem_keys_set (d : Dict κ α) (k k' : κ) (v : α) :
    k' ∈ (d.set k v).keys ↔ k' = k ∨ k' ∈ d.keys := by
  rw [keys_set]
  split_ifs with h
  · constructor
    · exact Or.inr
    · intro hcases
      rcases hcases with rfl | hk
      · exact h
      · exact hk
  · simp [or_comm]

@[simp] theorem get?_set_self (d : Dict κ α) (k : κ) (v : α) : (d.set k v).get? k = some v := by
  change (setEntry k v d.entries).lookup k = some v
  induction d.entries with
  | nil => simp [setEntry]
  | cons e es ih =>
    obtain ⟨ke,ve⟩ := e
    rw [setEntry]
    split_ifs with he
    · simp
    · have hk : (k == ke) = false := by simpa using fun h => he h.symm
      simp [List.lookup_cons, hk, ih]

theorem get?_set_of_ne (d : Dict κ α) {k k' : κ} (v : α) (h : k' ≠ k) :
    (d.set k v).get? k' = d.get? k' := by
  change (setEntry k v d.entries).lookup k' = d.entries.lookup k'
  have hk : (k' == k) = false := by simpa using h
  induction d.entries with
  | nil => simp [setEntry, List.lookup_cons, hk]
  | cons e es ih =>
    obtain ⟨ke,ve⟩ := e
    rw [setEntry]
    split_ifs with he
    · have hke : (k' == ke) = false := by simpa [← he] using h
      simp [List.lookup_cons, hk, hke]
    · simp [List.lookup_cons, ih]

theorem get?_set (d : Dict κ α) (k k' : κ) (v : α) :
    (d.set k v).get? k' = if k' = k then some v else d.get? k' := by
  split_ifs with h
  · rw [h, get?_set_self]
  · exact get?_set_of_ne d v h

theorem get?_eq_some_iff (d : Dict κ α) (k : κ) (v : α) :
    d.get? k = some v ↔ (k,v) ∈ d.entries := by
  obtain ⟨es,hn⟩ := d
  change es.lookup k = some v ↔ (k,v) ∈ es
  induction es with
  | nil => simp
  | cons e es ih =>
    obtain ⟨ke,ve⟩ := e
    have hes := List.nodup_cons.mp hn
    rw [List.lookup_cons]
    by_cases he : k = ke
    · subst he
      have habsent : (k,v) ∉ es := fun hmem => hes.1 (List.mem_map.mpr ⟨(k,v),hmem,rfl⟩)
      simp [habsent, eq_comm]
    · have hbeq : (k == ke) = false := by simpa using he
      simp [hbeq, ih hes.2, he]

@[simp] theorem get?_mapValues (f : κ → α → β) (d : Dict κ α) (k : κ) :
    (d.mapValues f).get? k = (d.get? k).map (f k) := by
  ext v
  rw [get?_eq_some_iff, Option.map_eq_some_iff, mapValues, List.mem_map]
  constructor
  · intro hparts
    obtain ⟨e,he,heq⟩ := hparts
    obtain ⟨rfl,rfl⟩ := Prod.mk.inj heq
    exact ⟨e.2,(get?_eq_some_iff d e.1 e.2).mpr he,rfl⟩
  · intro hparts
    obtain ⟨w,hw,rfl⟩ := hparts
    exact ⟨(k,w),(get?_eq_some_iff d k w).mp hw,rfl⟩

/-- The values, key by key. -/
theorem values_eq_map_keys (d : Dict κ α) (default : α) :
    d.values = d.keys.map (fun k => (d.get? k).getD default) := by
  rw [values, keys, List.map_map]
  apply List.map_congr_left
  intro e he
  rw [Function.comp_apply, (get?_eq_some_iff d e.1 e.2).mpr he, Option.getD_some]

theorem mem_keys_iff (d : Dict κ α) (k : κ) : k ∈ d.keys ↔ ∃ v, d.get? k = some v := by
  simp only [keys, List.mem_map, get?_eq_some_iff]
  constructor
  · intro hparts
    obtain ⟨e,he,rfl⟩ := hparts
    exact ⟨e.2,he⟩
  · intro hparts
    obtain ⟨v,hv⟩ := hparts
    exact ⟨(k,v),hv,rfl⟩

theorem mem_values_iff (d : Dict κ α) (v : α) : v ∈ d.values ↔ ∃ k, d.get? k = some v := by
  simp only [values, List.mem_map, get?_eq_some_iff]
  constructor
  · intro hparts
    obtain ⟨e,he,rfl⟩ := hparts
    exact ⟨e.1,he⟩
  · intro hparts
    obtain ⟨k,hk⟩ := hparts
    exact ⟨(k,v),hk,rfl⟩

/-- In `{key(x): x for x in xs}` the last item of a key takes its place. -/
theorem get?_foldl_set (key : β → κ) (xs : List β) (k : κ) :
    (xs.foldl (fun d x => d.set (key x) x) empty).get? k =
      xs.reverse.find? (fun x => key x = k) := by
  induction xs using List.reverseRecOn with
  | nil => rfl
  | append_singleton xs x ih =>
    rw [List.foldl_append, List.foldl_cons, List.foldl_nil, get?_set, ih, List.reverse_append,
      List.reverse_singleton, List.singleton_append, List.find?_cons]
    by_cases hk : k = key x
    · simp [hk]
    · have hk' : ¬key x = k := fun h => hk h.symm
      simp [hk, hk']

/-- `for x in xs: groups[key(x)].append(x)` over a `defaultdict(list)`. -/
def group (key : β → κ) (xs : List β) : Dict κ (List β) :=
  xs.foldl (fun d x => d.set (key x) ((d.get? (key x)).getD [] ++ [x])) empty

/-- Every group holds, in order, the items that have its key. -/
theorem group_getD (key : β → κ) (xs : List β) (k : κ) :
    ((group key xs).get? k).getD [] = xs.filter (fun x => key x = k) := by
  induction xs using List.reverseRecOn with
  | nil => rfl
  | append_singleton xs x ih =>
    rw [group, List.foldl_append, List.foldl_cons, List.foldl_nil, ← group, List.filter_append,
      ← ih, get?_set]
    by_cases hk : k = key x
    · simp [hk]
    · have hk' : ¬ key x = k := fun h => hk h.symm
      simp [hk, hk']

theorem mem_keys_group (key : β → κ) (xs : List β) (k : κ) :
    k ∈ (group key xs).keys ↔ ∃ x ∈ xs, key x = k := by
  induction xs using List.reverseRecOn with
  | nil => simp [group]
  | append_singleton xs x ih =>
    rw [group, List.foldl_append, List.foldl_cons, List.foldl_nil, ← group, mem_keys_set, ih]
    simp only [List.mem_append, List.mem_singleton]
    constructor
    · intro hcases
      rcases hcases with rfl | ⟨y,hy,hk⟩
      · exact ⟨x,Or.inr rfl,rfl⟩
      · exact ⟨y,Or.inl hy,hk⟩
    · intro hparts
      obtain ⟨y,hy | rfl,hk⟩ := hparts
      · exact Or.inr ⟨y,hy,hk⟩
      · exact Or.inl hk.symm

private theorem idxOf_concat_lt {ks : List κ} {a k k' : κ} :
    (ks ++ [a]).idxOf k < (ks ++ [a]).idxOf k' ↔
      ks.idxOf k < ks.idxOf k' ∨ (k = a ∧ k ∉ ks ∧ k' ≠ a ∧ k' ∉ ks) := by
  have hlast : ∀ k, k ∉ ks → (ks ++ [a]).idxOf k = ks.length + if k = a then 0 else 1 := by
    intro k hk
    rw [List.idxOf_append_of_notMem hk]
    by_cases ha : k = a
    · simp [ha]
    · simp [ha]
  have hin : ∀ k, k ∈ ks → ks.idxOf k < ks.length := fun k => List.idxOf_lt_length_iff.mpr
  by_cases hk : k ∈ ks
  · rw [List.idxOf_append_of_mem hk]
    by_cases hk' : k' ∈ ks
    · simp [List.idxOf_append_of_mem hk', hk]
    · have hlt := hin k hk
      rw [hlast k' hk', List.idxOf_of_notMem hk']
      omega
  · rw [hlast k hk, List.idxOf_of_notMem hk]
    by_cases hk' : k' ∈ ks
    · have hlt := hin k' hk'
      rw [List.idxOf_append_of_mem hk']
      simp [hk']
      omega
    · rw [hlast k' hk', List.idxOf_of_notMem hk']
      simp only [hk, hk', not_false_eq_true, and_true, true_and]
      split_ifs <;> simp [*]

/-- The groups come in the order in which their keys were first met. -/
theorem idxOf_keys_group (key : β → κ) (xs : List β) (k k' : κ) :
    (group key xs).keys.idxOf k < (group key xs).keys.idxOf k' ↔
      (xs.map key).idxOf k < (xs.map key).idxOf k' := by
  induction xs using List.reverseRecOn with
  | nil => rfl
  | append_singleton xs x ih =>
    have hmem : ∀ k, k ∈ (group key xs).keys ↔ k ∈ xs.map key := by
      intro k
      rw [mem_keys_group, List.mem_map]
    have hgroup : (group key (xs ++ [x])).keys = if key x ∈ (group key xs).keys then
        (group key xs).keys else (group key xs).keys ++ [key x] := by
      rw [group, List.foldl_append, List.foldl_cons, List.foldl_nil, ← group, keys_set]
    rw [hgroup, List.map_append, List.map_singleton, idxOf_concat_lt]
    split
    · rename_i hx
      have hfresh : ¬ (k = key x ∧ k ∉ xs.map key ∧ k' ≠ key x ∧ k' ∉ xs.map key) := by
        intro hparts
        obtain ⟨rfl,habsent,-⟩ := hparts
        exact habsent ((hmem (key x)).mp hx)
      rw [ih, or_iff_left hfresh]
    · rw [idxOf_concat_lt, ih, hmem, hmem]

theorem entry_group {key : β → κ} {xs : List β} {e : κ × List β}
    (h : e ∈ (group key xs).entries) : e.2 = xs.filter (fun x => key x = e.1) := by
  have hget : (group key xs).get? e.1 = some e.2 := (get?_eq_some_iff _ e.1 e.2).mpr h
  rw [← group_getD, hget, Option.getD_some]

end Dict

end Py
