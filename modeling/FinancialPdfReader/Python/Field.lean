import FinancialPdfReader.Python.Json

namespace Py

/-- A finite set of names that a field may hold, each with its text. -/
class Choices (α : Type) where
  all : List α
  text : α → String
  mem_all : ∀ a, a ∈ all
  text_injective : Function.Injective text

namespace Choices

variable {α : Type} [Choices α]

def texts (α : Type) [Choices α] : List String := (all : List α).map text

def ofText? (s : String) : Option α := (all : List α).find? (fun a => text a == s)

theorem text_mem_texts (a : α) : text a ∈ texts α := List.mem_map.mpr ⟨a,mem_all a,rfl⟩

theorem ofText?_eq_some {s : String} {a : α} : ofText? s = some a ↔ text a = s := by
  constructor
  · intro h
    simpa using List.find?_some h
  · intro h
    cases hf : (ofText? s : Option α) with
    | none =>
      have hno := List.find?_eq_none.mp hf a (mem_all a)
      simp [h] at hno
    | some b =>
      have hb : text b = s := by simpa using List.find?_some hf
      rw [text_injective (hb.trans h.symm)]

theorem str_text_eq_iff (a b : α) : Json.str (text a) = .str (text b) ↔ a = b := by
  rw [Json.str.injEq, text_injective.eq_iff]

/-- `x if x in names else default`, with the names a set. -/
def read (default : α) : Json → Except PyError α
  | .str s => .ok ((ofText? s).getD default)
  | .arr _ => .error .typeError
  | .obj _ => .error .typeError
  | _ => .ok default

theorem read_isOk_iff (default : α) (x : Json) :
    (∃ a, read default x = .ok a) ↔ x.isHashable = true := by
  cases x <;> simp [read, Json.isHashable]

theorem read_eq_ok_of_ne_default (default a : α) (x : Json) (hne : a ≠ default) :
    read default x = .ok a ↔ x = .str (text a) := by
  cases x with
  | str s =>
    simp only [read, Except.ok.injEq, Json.str.injEq]
    constructor
    · intro h
      cases hs : (ofText? s : Option α) with
      | none => exact absurd (by simpa [hs] using h.symm) hne
      | some b =>
        have hb : b = a := by simpa [hs] using h
        exact (ofText?_eq_some.mp (hb ▸ hs)).symm
    · intro h
      rw [(ofText?_eq_some (a := a)).mpr h.symm, Option.getD_some]
  | _ => simp [read, Ne.symm hne]

end Choices

/-- A boolean field takes the truth of the value given; `None` leaves the default. -/
def boolField (default : Bool) : Json → Bool
  | .null => default
  | x => x.truthy

/-- A string field keeps the value given, whatever its type; `None` leaves the default. -/
def stringField (default : String) : Json → Json
  | .null => .str default
  | x => x

/-- What saving asks of a string field. -/
def validString (field : String) : Json → Except PyError String
  | .str s => .ok s
  | _ => .error (.validationError field)

/-- A list field keeps the value given; `None` leaves the empty list. -/
def listField : Json → Json
  | .null => .arr []
  | x => x

/-- What saving asks of a field with choices. -/
def validChoice {α : Type} [Choices α] (field : String) : Json → Except PyError α
  | .str s => match Choices.ofText? s with
    | some a => .ok a
    | none => .error (.validationError field)
  | _ => .error (.validationError field)

/-- What saving asks of a list of string fields. -/
def validStrings (field : String) : Json → Except PyError (List String)
  | .arr xs => xs.mapM (validString field)
  | _ => .error (.validationError field)

@[simp] theorem boolField_bool (default b : Bool) : boolField default (.bool b) = b := rfl

@[simp] theorem stringField_str (default s : String) : stringField default (.str s) = .str s := rfl

@[simp] theorem boolField_false (x : Json) : boolField false x = x.truthy := by
  cases x <;> rfl

theorem stringField_of_ne_null {default : String} {x : Json} (h : x ≠ .null) :
    stringField default x = x := by
  cases x with
  | null => exact absurd rfl h
  | _ => rfl

theorem listField_of_ne_null {x : Json} (h : x ≠ .null) : listField x = x := by
  cases x with
  | null => exact absurd rfl h
  | _ => rfl

theorem validString_eq_ok {field s : String} {x : Json} :
    validString field x = .ok s ↔ x = .str s := by
  cases x <;> simp [validString]

theorem validChoice_eq_ok {α : Type} [Choices α] {field : String} {x : Json} {a : α} :
    validChoice field x = .ok a ↔ x = .str (Choices.text a) := by
  cases x with
  | str s =>
    rw [validChoice, Json.str.injEq]
    cases hs : (Choices.ofText? s : Option α) with
    | none =>
      have hne : s ≠ Choices.text a := by
        intro heq
        rw [Choices.ofText?_eq_some.mpr heq.symm] at hs
        contradiction
      simp [hne]
    | some b =>
      have hb := Choices.ofText?_eq_some.mp hs
      rw [← hb, Except.ok.injEq]
      exact ⟨fun heq => congrArg Choices.text heq,fun heq => Choices.text_injective heq⟩
  | _ => simp [validChoice]

theorem validStrings_eq_ok {field : String} {x : Json} {texts : List String} :
    validStrings field x = .ok texts ↔ x = .arr (texts.map .str) := by
  cases x with
  | arr xs =>
    rw [validStrings, mapM_eq_ok, Json.arr.injEq]
    constructor
    · intro h
      have hmap : List.Forall₂ (fun x y => x = Json.str y) xs texts :=
        h.imp (fun x y hxy => validString_eq_ok.mp hxy)
      induction hmap with
      | nil => rfl
      | cons hxy hrest ih =>
        rw [hxy, List.map_cons, ih (List.forall₂_cons.mp h).2]
    · intro h
      rw [h, List.forall₂_map_left_iff, List.forall₂_same]
      exact fun text _ => rfl
  | _ => simp [validStrings]

theorem raises_validString (field : String) (x : Json) :
    Raises (· = .validationError field) (validString field x) := by
  cases x <;> intro e he <;> cases he <;> rfl

theorem raises_validChoice {α : Type} [Choices α] (field : String) (x : Json) :
    Raises (· = .validationError field) (validChoice field x : Except PyError α) := by
  intro e he
  cases x with
  | str s =>
    rw [validChoice] at he
    split at he
    · contradiction
    · exact (Except.error.inj he).symm
  | _ => exact (Except.error.inj he).symm

theorem raises_validStrings (field : String) (x : Json) :
    Raises (· = .validationError field) (validStrings field x) := by
  cases x with
  | arr xs => exact raises_mapM (raises_validString field) xs
  | _ =>
    intro e he
    exact (Except.error.inj he).symm

end Py
