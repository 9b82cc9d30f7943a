import Mathlib.Algebra.Order.Field.Basic
import Mathlib.Algebra.Order.Floor.Ring
import Mathlib.Data.Rat.Floor
import Mathlib.Tactic.Linarith
import Mathlib.Tactic.Positivity
import FinancialPdfReader.Python.Unicode

namespace Py

/-- A float, its finite values read as exact rationals. -/
inductive PyFloat where
  | finite (q : ℚ)
  | inf (negative : Bool)
  | nan
  deriving DecidableEq

/-- `round(q)`: to the nearest integer, and from half way to the even one. -/
def roundHalfEven (q : ℚ) : Int :=
  let low := ⌊q⌋
  let rest := q - low
  if rest < 1/2 then low
  else if 1/2 < rest then low + 1
  else if low % 2 = 0 then low else low + 1

/-- `round(q, digits)`. -/
def roundTo (digits : Nat) (q : ℚ) : ℚ := roundHalfEven (q * 10^digits) / 10^digits

theorem floor_le_roundHalfEven (q : ℚ) : ⌊q⌋ ≤ roundHalfEven q := by
  rw [roundHalfEven]
  split_ifs <;> omega

theorem roundHalfEven_le_ceil (q : ℚ) : roundHalfEven q ≤ ⌈q⌉ := by
  have hlow : ⌊q⌋ ≤ ⌈q⌉ := Int.floor_le_ceil q
  rw [roundHalfEven]
  split_ifs with hbelow
  · exact hlow
  all_goals
    have hrest : (⌊q⌋ : ℚ) < q := by linarith
    have hnext : ⌊q⌋ < ⌈q⌉ := Int.lt_ceil.mpr hrest
    omega

/-- Half a unit is rounded up only behind an odd number. -/
theorem lt_roundHalfEven_iff {n : Int} {q : ℚ} :
    n < roundHalfEven q ↔ n + 1/2 < q ∨ q = n + 1/2 ∧ n % 2 = 1 := by
  have hlow : (⌊q⌋ : ℚ) ≤ q := Int.floor_le q
  have hhigh : q < ⌊q⌋ + 1 := Int.lt_floor_add_one q
  rcases lt_trichotomy ⌊q⌋ n with hless | rfl | hmore
  · have hstep : (⌊q⌋ : ℚ) + 1 ≤ n := by exact_mod_cast hless
    have hnot : ¬ n < roundHalfEven q := by
      have hceil : ⌈q⌉ ≤ n := Int.ceil_le.mpr (hhigh.le.trans hstep)
      exact not_lt.mpr ((roundHalfEven_le_ceil q).trans hceil)
    refine iff_of_false hnot ?_
    rintro (hbeyond | ⟨hhalf,-⟩)
    · linarith
    · linarith
  · rw [roundHalfEven]
    split_ifs with hbelow habove heven
    · refine iff_of_false (lt_irrefl _) ?_
      rintro (hbeyond | ⟨hhalf,-⟩)
      · linarith
      · linarith
    · exact iff_of_true (lt_add_one _) (Or.inl (by linarith))
    · refine iff_of_false (lt_irrefl _) ?_
      rintro (hbeyond | ⟨-,hodd⟩)
      · exact habove (by linarith)
      · omega
    · refine iff_of_true (lt_add_one _) (Or.inr ⟨?_,by omega⟩)
      linarith
  · have hstep : (n : ℚ) + 1 ≤ ⌊q⌋ := by exact_mod_cast hmore
    exact iff_of_true (hmore.trans_le (floor_le_roundHalfEven q)) (Or.inl (by linarith))

/-- Between two whole numbers rounding stays between them. -/
theorem roundTo_between {low high : Int} {q : ℚ} (digits : Nat) (hlow : low ≤ q)
    (hhigh : q ≤ high) : low ≤ roundTo digits q ∧ roundTo digits q ≤ high := by
  have hscale : (0 : ℚ) < 10^digits := by positivity
  rw [roundTo, le_div_iff₀ hscale, div_le_iff₀ hscale]
  constructor
  · have hfloor : low * 10^digits ≤ ⌊q * 10^digits⌋ := by
      apply Int.le_floor.mpr
      push_cast
      gcongr
    exact_mod_cast hfloor.trans (floor_le_roundHalfEven _)
  · have hceil : ⌈q * 10^digits⌉ ≤ high * 10^digits := by
      apply Int.ceil_le.mpr
      push_cast
      gcongr
    exact_mod_cast (roundHalfEven_le_ceil _).trans hceil

theorem lt_roundTo_iff {digits : Nat} {n : Int} {q : ℚ} :
    n / 10^digits < roundTo digits q ↔
      n + 1/2 < q * 10^digits ∨ q * 10^digits = n + 1/2 ∧ n % 2 = 1 := by
  have hscale : (0 : ℚ) < 10^digits := by positivity
  rw [roundTo, div_lt_div_iff_of_pos_right hscale, Int.cast_lt, lt_roundHalfEven_iff]

/-- A whole number is not rounded. -/
theorem roundTo_intCast (digits : Nat) (n : Int) : roundTo digits n = n := by
  obtain ⟨hlow,hhigh⟩ := roundTo_between digits (le_refl (n : ℚ)) (le_refl (n : ℚ))
  exact le_antisymm hhigh hlow

/-- The digits after the point of `rest / den`, as many as `fuel` allows. -/
def fractionDigits (den : Nat) : Nat → Nat → List Char
  | 0, _ => []
  | fuel + 1, rest =>
      if rest = 0 then []
      else Nat.digitChar (10 * rest / den) :: fractionDigits den fuel (10 * rest % den)

/-- `repr` of a non-negative finite decimal that Python writes without an exponent. -/
def decimalRepr (q : ℚ) : String :=
  let whole := q.num.toNat / q.den
  let digits := fractionDigits q.den (Nat.log2 q.den + 1) (q.num.toNat % q.den)
  String.ofList (Nat.toDigits 10 whole ++ '.' :: (if digits.isEmpty then ['0'] else digits))

def PyFloat.repr : PyFloat → String
  | .finite q => if q < 0 then "-" ++ decimalRepr (-q) else decimalRepr q
  | .inf negative => if negative then "-inf" else "inf"
  | .nan => "nan"

namespace PyFloat

/-- `x - y`. -/
def sub : PyFloat → PyFloat → PyFloat
  | .finite p, .finite q => .finite (p - q)
  | .finite _, .inf negative => .inf (!negative)
  | .inf negative, .finite _ => .inf negative
  | .inf a, .inf b => if a = b then .nan else .inf a
  | _, _ => .nan

/-- `abs(x)`. -/
def abs : PyFloat → PyFloat
  | .finite q => .finite |q|
  | .inf _ => .inf false
  | .nan => .nan

/-- `max(x, n)`, which keeps `x` unless `n` is greater. -/
def maxNat (n : Nat) : PyFloat → PyFloat
  | .finite q => .finite (max q n)
  | .inf negative => if negative then .finite n else .inf false
  | .nan => .nan

/-- `x / y` for a `y` above zero. -/
def divPos : PyFloat → PyFloat → PyFloat
  | .finite p, .finite q => .finite (p / q)
  | .finite _, .inf _ => .finite 0
  | .inf negative, .finite _ => .inf negative
  | _, _ => .nan

/-- `x * n` for an `n` above zero. -/
def mulNat (n : Nat) : PyFloat → PyFloat
  | .finite q => .finite (q * n)
  | x => x

/-- `x < n`. -/
def ltNat (n : Nat) : PyFloat → Bool
  | .finite q => q < n
  | .inf negative => negative
  | .nan => false

/-- `f"{x:.1f}"`. -/
def fixed1 : PyFloat → String
  | .finite q => (PyFloat.finite (roundTo 1 q)).repr
  | x => x.repr

end PyFloat

/-- `\d+`, which is greedy: the digits in front and what follows them. -/
def spanDigits : List Char → List Nat × List Char
  | [] => ([],[])
  | c :: cs => match digitValue? c with
    | none => ([],c :: cs)
    | some d => (d :: (spanDigits cs).1,(spanDigits cs).2)

def digitsValue (digits : List Nat) : ℚ := digits.foldl (fun n d => 10 * n + d) 0

/-- Underscores are dropped; each must stand between two digits. -/
def withoutUnderscores : (afterDigit : Bool) → List Char → Option (List Char)
  | _, [] => some []
  | afterDigit, '_' :: cs =>
      if afterDigit && (cs.head?.bind digitValue?).isSome then withoutUnderscores false cs else none
  | _, c :: cs => (withoutUnderscores (digitValue? c).isSome cs).map (c :: ·)

def spanSign : List Char → Bool × List Char
  | '+' :: cs => (false,cs)
  | '-' :: cs => (true,cs)
  | cs => (false,cs)

/-- The exponent of a numeral, 0 where there is none, if nothing follows it. -/
def exponentOf : List Char → Option Int
  | [] => some 0
  | e :: cs =>
      let (negative,ds) := spanSign cs
      match spanDigits ds with
      | (d :: ds,[]) =>
          if e.toLower = 'e' then
            let n : Int := (d :: ds).foldl (fun n d => 10 * n + d) 0
            some (if negative then -n else n)
          else none
      | _ => none

/-- `float(s)` of a text without blanks around it or underscores in it. -/
def floatOfChars (cs : List Char) : Option PyFloat :=
  let (negative,cs) := spanSign cs
  let word := cs.map Char.toLower
  if word = "inf".toList || word = "infinity".toList then some (.inf negative)
  else if word = "nan".toList then some .nan
  else
    let (whole,rest) := spanDigits cs
    let (fraction,rest) := match rest with
      | '.' :: rest => spanDigits rest
      | rest => ([],rest)
    if whole.isEmpty && fraction.isEmpty then none
    else (exponentOf rest).map (fun e =>
      let value := (digitsValue whole + digitsValue fraction / 10^fraction.length) * (10 : ℚ)^e
      .finite (if negative then -value else value))

example : PyFloat.repr (.finite (-25/2)) = "-12.5" := by decide +kernel

end Py
