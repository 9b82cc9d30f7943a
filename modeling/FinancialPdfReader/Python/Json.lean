import FinancialPdfReader.Python.Number
import FinancialPdfReader.Python.Result
import FinancialPdfReader.Python.Text

namespace Py

/-- A value decoded from JSON, as the untyped Python value that the code handles. -/
inductive Json where
  | null
  | bool (b : Bool)
  | int (n : Int)
  | float (x : PyFloat)
  | str (s : String)
  | arr (xs : List Json)
  | obj (fields : List (String × Json))
  deriving Inhabited

/-- The last `width` hexadecimal digits of `n`. -/
def hexDigits : (width n : Nat) → List Char
  | 0, _ => []
  | width + 1, n => hexDigits width (n / 16) ++ [Nat.digitChar (n % 16)]

/-- One character inside the quotes of `repr(str)`. -/
def escapeChar (quote c : Char) : List Char :=
  if c = quote || c = '\\' then ['\\',c]
  else if c = '\n' then ['\\','n']
  else if c = '\r' then ['\\','r']
  else if c = '\t' then ['\\','t']
  else if isPrintable c then [c]
  else if c.toNat < 0x100 then '\\' :: 'x' :: hexDigits 2 c.toNat
  else if c.toNat < 0x10000 then '\\' :: 'u' :: hexDigits 4 c.toNat
  else '\\' :: 'U' :: hexDigits 8 c.toNat

/-- `repr(str)`: single quotes unless the text has one of them and no double quote. -/
def reprStr (s : String) : String :=
  let quote := if s.toList.contains '\'' && !s.toList.contains '"' then '"' else '\''
  String.ofList (quote :: s.toList.flatMap (escapeChar quote) ++ [quote])

namespace Json

mutual

/-- `repr(x)`. -/
def repr : Json → String
  | .null => "None"
  | .bool b => if b then "True" else "False"
  | .int n => toString n
  | .float x => x.repr
  | .str s => reprStr s
  | .arr xs => "[" ++ ", ".intercalate (reprItems xs) ++ "]"
  | .obj fields => "\x7b" ++ ", ".intercalate (reprFields fields) ++ "\x7d"

def reprItems : List Json → List String
  | [] => []
  | x :: xs => x.repr :: reprItems xs

def reprFields : List (String × Json) → List String
  | [] => []
  | (k,v) :: fields => (reprStr k ++ ": " ++ v.repr) :: reprFields fields

end

mutual

def beq : Json → Json → Bool
  | .null, .null => true
  | .bool a, .bool b => a == b
  | .int a, .int b => a == b
  | .float a, .float b => a == b
  | .str a, .str b => a == b
  | .arr xs, .arr ys => beqItems xs ys
  | .obj fs, .obj gs => beqFields fs gs
  | _, _ => false

def beqItems : List Json → List Json → Bool
  | [], [] => true
  | x :: xs, y :: ys => x.beq y && beqItems xs ys
  | _, _ => false

def beqFields : List (String × Json) → List (String × Json) → Bool
  | [], [] => true
  | (k,x) :: fs, (l,y) :: gs => k == l && x.beq y && beqFields fs gs
  | _, _ => false

end

mutual

theorem beq_iff : (x y : Json) → (x.beq y = true ↔ x = y)
  | .null, y => by cases y <;> simp [beq]
  | .bool a, y => by cases y <;> simp [beq]
  | .int a, y => by cases y <;> simp [beq]
  | .float a, y => by cases y <;> simp [beq]
  | .str a, y => by cases y <;> simp [beq]
  | .arr xs, y => by cases y <;> simp [beq, beqItems_iff xs]
  | .obj fs, y => by cases y <;> simp [beq, beqFields_iff fs]

theorem beqItems_iff : (xs ys : List Json) → (beqItems xs ys = true ↔ xs = ys)
  | [], ys => by cases ys <;> simp [beqItems]
  | x :: xs, ys => by cases ys <;> simp [beqItems, beq_iff x, beqItems_iff xs]

theorem beqFields_iff : (fs gs : List (String × Json)) → (beqFields fs gs = true ↔ fs = gs)
  | [], gs => by cases gs <;> simp [beqFields]
  | (k,x) :: fs, gs => by
    cases gs with
    | nil => simp [beqFields]
    | cons g gs => simp [beqFields, beq_iff x, beqFields_iff fs, Prod.ext_iff]

end

instance : DecidableEq Json := fun x y => decidable_of_iff _ (beq_iff x y)

/-- `str(x)`. -/
def toStr : Json → String
  | .str s => s
  | x => x.repr

/-- `bool(x)`. -/
def truthy : Json → Bool
  | .null => false
  | .bool b => b
  | .int n => n != 0
  | .float (.finite q) => q != 0
  | .float _ => true
  | .str s => s != ""
  | .arr xs => !xs.isEmpty
  | .obj fields => !fields.isEmpty

/-- `x or y`. -/
def orElse (x y : Json) : Json := if x.truthy then x else y

/-- `x[key]` where it is there, for an object. -/
def field? (x : Json) (key : String) : Option Json :=
  match x with
  | .obj fields => fields.lookup key
  | _ => none

/-- `x.get(key, default)`. -/
def get (x : Json) (key : String) (default : Json) : Except PyError Json :=
  match x with
  | .obj fields => .ok ((fields.lookup key).getD default)
  | _ => .error .attributeError

/-- What an object holds under `key`, or the default. -/
def getD (x : Json) (key : String) (default : Json) : Json := (x.field? key).getD default

/-- The values that `for y in x` takes: a string gives its characters, an object its keys. -/
def iter : Json → Except PyError (List Json)
  | .arr xs => .ok xs
  | .obj fields => .ok (fields.map (fun e => .str e.1))
  | .str s => .ok (s.toList.map (fun c => .str (String.singleton c)))
  | _ => .error .typeError

/-- `x.items()`. -/
def items : Json → Except PyError (List (String × Json))
  | .obj fields => .ok fields
  | _ => .error .attributeError

def isStr (key : String) : Json → Bool
  | .str s => s == key
  | _ => false

/-- `key in x`. -/
def contains (key : String) : Json → Except PyError Bool
  | .str s => .ok (isIn key s)
  | .arr xs => .ok (xs.any (isStr key))
  | .obj fields => .ok (fields.any (fun e => e.1 == key))
  | _ => .error .typeError

/-- The values that `key in x` can be asked of. -/
def isContainer : Json → Bool
  | .str _ => true
  | .arr _ => true
  | .obj _ => true
  | _ => false

/-- The values that a set can be asked for. -/
def isHashable : Json → Bool
  | .arr _ => false
  | .obj _ => false
  | _ => true

/-- `x in {...}` for a set of strings, which hashes `x` first. -/
def inSet (names : List String) : Json → Except PyError Bool
  | .str s => .ok (names.contains s)
  | .arr _ => .error .typeError
  | .obj _ => .error .typeError
  | _ => .ok false

/-- `x[key]`, for a text as key. -/
def subscript (x : Json) (key : String) : Except PyError Json :=
  match x with
  | .obj fields => match fields.lookup key with
    | some value => .ok value
    | none => .error .keyError
  | _ => .error .typeError

/-- `x[0]`. -/
def first : Json → Except PyError Json
  | .arr [] => .error .indexError
  | .arr (x :: _) => .ok x
  | .str s => match s.toList with
    | [] => .error .indexError
    | c :: _ => .ok (.str (String.singleton c))
  | .obj _ => .error .keyError
  | _ => .error .typeError

/-- `x[:n]`. -/
def slice (n : Nat) : Json → Except PyError Json
  | .str s => .ok (.str (take n s))
  | .arr xs => .ok (.arr (xs.take n))
  | _ => .error .typeError

/-- `float(s)`, with `none` for the text that it refuses. -/
def floatOfText (s : String) : Option PyFloat :=
  (withoutUnderscores false (strip s).toList).bind floatOfChars

/-- `int(s)`, with `none` for the text that it refuses. -/
def intOfText (s : String) : Option Int :=
  (withoutUnderscores false (strip s).toList).bind (fun cs =>
    let (negative,ds) := spanSign cs
    match spanDigits ds with
    | (d :: ds,[]) =>
        let n : Int := (d :: ds).foldl (fun n d => 10 * n + d) 0
        some (if negative then -n else n)
    | _ => none)

/-- What a float field makes of a value: a text that is no numeral stays as it is. -/
def floatField : Json → Except PyError Json
  | .null => .ok .null
  | .bool b => .ok (.float (.finite (if b then 1 else 0)))
  | .int n => .ok (.float (.finite n))
  | .float x => .ok (.float x)
  | .str s => .ok (match floatOfText s with
    | some x => .float x
    | none => .str s)
  | .arr _ => .error .typeError
  | .obj _ => .error .typeError

/-- `x.lower()`. -/
def lower : Json → Except PyError String
  | .str s => .ok (Py.lower s)
  | _ => .error .attributeError

/-- `any(p in x for p in phrases)`. -/
def containsAny (phrases : List String) (x : Json) : Except PyError Bool :=
  phrases.anyM (fun p => x.contains p)

/-- `[p for p in phrases if p in x]`. -/
def containedIn (x : Json) : List String → Except PyError (List String)
  | [] => .ok []
  | p :: ps => do
      let here ← x.contains p
      let rest ← x.containedIn ps
      pure (if here then p :: rest else rest)

@[simp] theorem get_obj (fields : List (String × Json)) (key : String) (default : Json) :
    (obj fields).get key default = .ok ((fields.lookup key).getD default) := rfl

@[simp] theorem iter_arr (xs : List Json) : (arr xs).iter = .ok xs := rfl

@[simp] theorem truthy_str (s : String) : (str s).truthy = (s != "") := rfl

@[simp] theorem truthy_bool (b : Bool) : (bool b).truthy = b := rfl

@[simp] theorem truthy_null : null.truthy = false := rfl

@[simp] theorem truthy_arr (xs : List Json) : (arr xs).truthy = !xs.isEmpty := rfl

@[simp] theorem toStr_orElse_empty (s : String) : ((str s).orElse (.str "")).toStr = s := by
  rw [orElse, truthy_str]
  by_cases h : s = ""
  · rw [h]
    rfl
  · rw [if_pos (by simpa using h)]
    rfl

theorem isStr_iff (key : String) (x : Json) : x.isStr key = true ↔ x = .str key := by
  cases x <;> simp [isStr]

/-- Only an object has a `get`. -/
theorem get_eq_ok {x : Json} {key : String} {default y : Json} :
    x.get key default = .ok y ↔ (∃ fields, x = .obj fields) ∧ y = x.getD key default := by
  cases x <;> simp [get, getD, field?, eq_comm]

theorem get_eq_getD {x : Json} (h : ∃ fields, x = .obj fields) (key : String) (default : Json) :
    x.get key default = .ok (x.getD key default) :=
  get_eq_ok.mpr ⟨h,rfl⟩

/-- What an empty value iterates over is empty, and conversely. -/
theorem iter_eq_nil_iff {x : Json} {ys : List Json} (h : x.iter = .ok ys) :
    ys = [] ↔ x.truthy = false := by
  cases x with
  | arr xs => simp only [iter, Except.ok.injEq] at h; subst h; simp
  | obj fields => simp only [iter, Except.ok.injEq] at h; subst h; simp [truthy]
  | str s => simp only [iter, Except.ok.injEq] at h; subst h; simp
  | _ => simp [iter] at h

theorem contains_isOk_iff (key : String) {x : Json} :
    (∃ found, x.contains key = .ok found) ↔ x.isContainer = true := by
  cases x <;> simp [contains, isContainer]

theorem containsAny_isOk {x : Json} (h : x.isContainer = true) (phrases : List String) :
    ∃ found, x.containsAny phrases = .ok found := by
  induction phrases with
  | nil => exact ⟨false,rfl⟩
  | cons p ps ih =>
    obtain ⟨here,hhere⟩ := (contains_isOk_iff p).mpr h
    obtain ⟨rest,hrest⟩ := ih
    cases here with
    | true => exact ⟨true,by simp [containsAny, hhere]⟩
    | false => exact ⟨rest,by simpa [containsAny, hhere] using hrest⟩

theorem containedIn_isOk_iff {x : Json} {phrases : List String} (hne : phrases ≠ []) :
    (∃ found, x.containedIn phrases = .ok found) ↔ x.isContainer = true := by
  constructor
  · intro hparts
    obtain ⟨found,h⟩ := hparts
    cases phrases with
    | nil => exact absurd rfl hne
    | cons p ps =>
      obtain ⟨here,hhere,-⟩ := bind_eq_ok.mp h
      exact (contains_isOk_iff p).mp ⟨here,hhere⟩
  · intro h
    clear hne
    induction phrases with
    | nil => exact ⟨[],rfl⟩
    | cons p ps ih =>
      obtain ⟨here,hhere⟩ := (contains_isOk_iff p).mpr h
      obtain ⟨rest,hrest⟩ := ih
      exact ⟨_,bind_eq_ok.mpr ⟨here,hhere,bind_eq_ok.mpr ⟨rest,hrest,rfl⟩⟩⟩

theorem containsAny_str (phrases : List String) (s : String) :
    (str s).containsAny phrases = .ok (anyIn phrases s) := by
  induction phrases with
  | nil => rfl
  | cons p ps ih =>
    change (Except.ok (isIn p s) >>= _) = _
    rw [ok_bind]
    cases hp : isIn p s with
    | true => simp [anyIn, hp]
    | false => simpa [anyIn, hp, containsAny] using ih

theorem containedIn_str (phrases : List String) (s : String) :
    (str s).containedIn phrases = .ok (hits phrases s) := by
  induction phrases with
  | nil => rfl
  | cons p ps ih =>
    change (Except.ok (isIn p s) >>= fun here => (str s).containedIn ps >>= _) = _
    rw [ok_bind, ih, ok_bind]
    cases hp : isIn p s <;> simp [hits, hp]

end Json

end Py
