import Mathlib.Data.List.Infix
import Mathlib.Data.Set.Basic

namespace PrefixCode

section Fields

variable {α : Type} {sep : α} {a b v w : List α}

/-- A separator that stands in neither field ends both of them. -/
theorem field_append_inj (hv : sep ∉ v) (hw : sep ∉ w) (h : v ++ sep :: a = w ++ sep :: b) :
    v = w ∧ a = b := by
  induction v generalizing w with
  | nil =>
    cases w with
    | nil => exact ⟨rfl,(List.cons.inj h).2⟩
    | cons y w => exact absurd (List.cons.inj h).1 (List.ne_of_not_mem_cons hw)
  | cons x v ih =>
    cases w with
    | nil => exact absurd (List.cons.inj h).1.symm (List.ne_of_not_mem_cons hv)
    | cons y w =>
      obtain ⟨rfl,htail⟩ := List.cons.inj h
      obtain ⟨rfl,hrest⟩ := ih (List.not_mem_of_not_mem_cons hv)
        (List.not_mem_of_not_mem_cons hw) htail
      exact ⟨rfl,hrest⟩

/-- Read from the back, it is where both of them begin. -/
theorem append_field_inj (hv : sep ∉ v) (hw : sep ∉ w) (h : a ++ sep :: v = b ++ sep :: w) :
    a = b ∧ v = w := by
  have hback : v.reverse ++ sep :: a.reverse = w.reverse ++ sep :: b.reverse := by
    simpa using congrArg List.reverse h
  obtain ⟨hfield,hrest⟩ := field_append_inj (by simpa using hv) (by simpa using hw) hback
  exact ⟨List.reverse_injective hrest,List.reverse_injective hfield⟩

end Fields

section Words

variable {α : Type}

/-- No word of the code begins another. -/
def PrefixFree (code : Set (List α)) : Prop := ∀ u ∈ code, ∀ v ∈ code, u <+: v → u = v

variable {code : Set (List α)} {u v x y : List α}

theorem PrefixFree.append_inj (hcode : PrefixFree code) (hu : u ∈ code) (hv : v ∈ code)
    (h : u ++ x = v ++ y) : u = v ∧ x = y := by
  have hprefix : u <+: v ++ y := ⟨x,h⟩
  have huv : u = v := by
    rcases List.prefix_or_prefix_of_prefix hprefix ⟨y,rfl⟩ with huv | hvu
    · exact hcode u hu v hv huv
    · exact (hcode v hv u hu hvu).symm
  subst huv
  exact ⟨rfl,List.append_cancel_left h⟩

/-- Words one after the other, up to one that is kept for the end, are read in one way only. -/
theorem PrefixFree.flatten_inj (hcode : PrefixFree code) {stop : List α} (hstop : stop ∈ code)
    {us vs : List (List α)} (hus : ∀ u ∈ us, u ∈ code ∧ u ≠ stop)
    (hvs : ∀ v ∈ vs, v ∈ code ∧ v ≠ stop)
    (h : us.flatten ++ (stop ++ x) = vs.flatten ++ (stop ++ y)) : us = vs ∧ x = y := by
  induction us generalizing vs with
  | nil =>
    cases vs with
    | nil => exact ⟨rfl,List.append_cancel_left h⟩
    | cons v vs =>
      obtain ⟨hv,hne⟩ := hvs v List.mem_cons_self
      rw [List.flatten_cons, List.append_assoc] at h
      exact absurd (hcode.append_inj hstop hv h).1.symm hne
  | cons u us ih =>
    obtain ⟨hu,hne⟩ := hus u List.mem_cons_self
    rw [List.flatten_cons, List.append_assoc] at h
    cases vs with
    | nil => exact absurd (hcode.append_inj hu hstop h).1 hne
    | cons v vs =>
      rw [List.flatten_cons, List.append_assoc] at h
      obtain ⟨rfl,hrest⟩ := hcode.append_inj hu (hvs v List.mem_cons_self).1 h
      obtain ⟨rfl,hxy⟩ := ih (fun w hw => hus w (List.mem_cons_of_mem u hw))
        (fun w hw => hvs w (List.mem_cons_of_mem u hw)) hrest
      exact ⟨rfl,hxy⟩

end Words

namespace Text

variable {sep : Char} {a b v w tag : String}

/-- A tag that ends with the separator is told from the field behind it, -/
theorem tag_field_inj (htag : tag.toList.getLast? = some sep) (hv : sep ∉ v.toList)
    (hw : sep ∉ w.toList) (h : a ++ tag ++ v = b ++ tag ++ w) : a = b ∧ v = w := by
  obtain ⟨front,hfront⟩ := List.getLast?_eq_some_iff.mp htag
  have hlist : (a.toList ++ front) ++ sep :: v.toList = (b.toList ++ front) ++ sep :: w.toList := by
    simpa [hfront] using congrArg String.toList h
  obtain ⟨hab,hvw⟩ := append_field_inj hv hw hlist
  exact ⟨String.toList_injective (List.append_cancel_right hab),String.toList_injective hvw⟩

/-- and one that begins with it from the field in front. -/
theorem field_tag_inj (htag : tag.toList.head? = some sep) (hv : sep ∉ v.toList)
    (hw : sep ∉ w.toList) (h : v ++ (tag ++ a) = w ++ (tag ++ b)) : v = w ∧ a = b := by
  obtain ⟨back,hback⟩ := List.head?_eq_some_iff.mp htag
  have hlist : v.toList ++ sep :: (back ++ a.toList) = w.toList ++ sep :: (back ++ b.toList) := by
    simpa [hback] using congrArg String.toList h
  obtain ⟨hvw,hab⟩ := field_append_inj hv hw hlist
  exact ⟨String.toList_injective hvw,String.toList_injective (List.append_cancel_left hab)⟩

/-- Words that are joined up to a last one are read in one way only. -/
theorem join_inj {code : Set String} (hcode : PrefixFree (String.toList '' code)) {stop : String}
    (hstop : stop ∈ code) {us vs : List String} (hus : ∀ u ∈ us, u ∈ code ∧ u ≠ stop)
    (hvs : ∀ v ∈ vs, v ∈ code ∧ v ≠ stop)
    (h : String.join us ++ (stop ++ a) = String.join vs ++ (stop ++ b)) : us = vs ∧ a = b := by
  have hwords : ∀ ws : List String, (∀ w ∈ ws, w ∈ code ∧ w ≠ stop) →
      ∀ l ∈ ws.map String.toList, l ∈ String.toList '' code ∧ l ≠ stop.toList := by
    intro ws hws l hl
    obtain ⟨w,hw,rfl⟩ := List.mem_map.mp hl
    exact ⟨⟨w,(hws w hw).1,rfl⟩,fun heq => (hws w hw).2 (String.toList_injective heq)⟩
  have hlist : (us.map String.toList).flatten ++ (stop.toList ++ a.toList) =
      (vs.map String.toList).flatten ++ (stop.toList ++ b.toList) := by
    have hchars := congrArg String.toList h
    simpa [String.toList_join, List.flatMap_def] using hchars
  obtain ⟨hmap,hab⟩ := hcode.flatten_inj ⟨stop,hstop,rfl⟩ (hwords us hus) (hwords vs hvs) hlist
  exact ⟨List.map_injective_iff.mpr (fun _ _ => String.toList_injective) hmap,
    String.toList_injective hab⟩

end Text

end PrefixCode
