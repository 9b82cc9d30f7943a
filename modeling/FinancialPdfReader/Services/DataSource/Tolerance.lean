import FinancialPdfReader.Services.DataSource.CrossCheck

namespace FinancialPdfReader

open Py

section Numbers

variable (p e : ℚ)

/-- The first number is less than 5 percent of the second away from it, or both are zero. -/
def WithinTolerance : Prop := |p - e| < 5 / 100 * |e| ∨ (p = 0 ∧ e = 0)

/-- The numbers that only the divisor of one brings together: the second is below one, and they
differ by 5 percent of it or more, but by less than 0.05. -/
def TakenAsClose : Prop :=
  |e| < 1 ∧ 5 / 100 * |e| ≤ |p - e| ∧ |p - e| < 5 / 100 ∧ ¬(p = 0 ∧ e = 0)

/-- The divisor makes the tolerance one for the greater of the second number and one. -/
theorem diffPct_ltNat_iff :
    (diffPct (.finite p) (.finite e)).ltNat 5 = true ↔ |p - e| < 5 / 100 * max |e| 1 := by
  have hdivisor : 0 < max |e| 1 := lt_max_of_lt_right one_pos
  simp only [diffPct, PyFloat.sub, PyFloat.abs, PyFloat.maxNat, PyFloat.divPos, PyFloat.mulNat,
    PyFloat.ltNat, Nat.cast_one, Nat.cast_ofNat, decide_eq_true_eq]
  rw [div_mul_eq_mul_div, div_lt_iff₀ hdivisor]
  constructor <;> intro hlt <;> linarith

theorem withinTolerance_of_close_iff :
    (|p - e| < 5 / 100 * max |e| 1 → WithinTolerance p e) ↔ ¬TakenAsClose p e := by
  rcases le_or_gt 1 |e| with hlarge | hsmall
  · have hmax : max |e| 1 = |e| := max_eq_left hlarge
    rw [hmax]
    exact ⟨fun _ htaken => absurd htaken.1 (not_lt.mpr hlarge),fun _ => Or.inl⟩
  · have hmax : max |e| 1 = 1 := max_eq_right hsmall.le
    rw [hmax, mul_one]
    constructor
    · intro hwithin htaken
      obtain ⟨-,hapart,hclose,hzero⟩ := htaken
      rcases hwithin hclose with hnear | hboth
      · exact absurd hnear (not_lt.mpr hapart)
      · exact hzero hboth
    · intro hnot hclose
      by_contra hapart
      obtain ⟨hfar,hzero⟩ := not_or.mp hapart
      exact hnot ⟨hsmall,not_lt.mp hfar,hclose,hzero⟩

end Numbers

section Verdict

variable {records : List ExternalDataRecord} {period metric pdfValue : String} {p e : ℚ}

theorem compareValues_finite {extValue : String}
    (hnumbers : comparedNumbers pdfValue extValue = some (.finite p,.finite e)) :
    (compareValues pdfValue extValue).1 = .consistent ↔ |p - e| < 5 / 100 * max |e| 1 := by
  rw [← diffPct_ltNat_iff]
  unfold compareValues
  rw [hnumbers]
  dsimp only
  cases (diffPct (.finite p) (.finite e)).ltNat 5 with
  | true => exact iff_of_true rfl rfl
  | false => exact iff_of_false nofun nofun

theorem crosscheck_verdict_of_extRecord {rec : ExternalDataRecord}
    (hrec : extRecord records metric = some rec) :
    (crosscheckWithPdf records period metric pdfValue).verdict =
      (compareValues pdfValue (externalValue rec)).1 := by
  cases records with
  | nil => exact absurd hrec (by simp [extRecord])
  | cons first rest => simp [crosscheckWithPdf, hrec]

/-- A consistent answer keeps to the tolerance exactly outside of the numbers that only the
divisor of one brings together. -/
theorem consistent_within_iff {rec : ExternalDataRecord}
    (hrec : extRecord records metric = some rec)
    (hnumbers : comparedNumbers pdfValue (externalValue rec) = some (.finite p,.finite e)) :
    ((crosscheckWithPdf records period metric pdfValue).verdict = .consistent →
      WithinTolerance p e) ↔ ¬TakenAsClose p e := by
  rw [crosscheck_verdict_of_extRecord hrec, compareValues_finite hnumbers]
  exact withinTolerance_of_close_iff p e

end Verdict

/-- The earnings per share of a quarter, fetched. -/
def earningsPerShare (value : ℚ) : ExternalData := runFetches
  [.financialStatement
    (fun _ _ _ _ => .ok (.obj [("data",.arr [.obj [("type",.str "EPS"),
      ("value",.float (.finite value))]])]))
    (stampsFrom 0) "2330" "2026Q1"] []

theorem consistent_within_iff_earnings :
    ((crosscheckWithPdf (earningsPerShare (5/2)) "2026Q1" "eps" "2.6").verdict = .consistent →
      WithinTolerance (13/5) (5/2)) ↔ ¬TakenAsClose (13/5) (5/2) := by
  obtain ⟨rec,hrec,hvalue⟩ : ∃ rec, extRecord (earningsPerShare (5/2)) "eps" = some rec ∧
      comparedNumbers "2.6" (externalValue rec) = some (.finite (13/5),.finite (5/2)) :=
    ⟨_,rfl,by decide +kernel⟩
  exact consistent_within_iff hrec hvalue

/-- A quarter with 0.53 against 0.5: six percent apart, and consistent. -/
theorem earnings_taken_as_close :
    (earningsPerShare (1/2)).LatestStatements "2330" ((earningsPerShare (1/2)).findLatest "2330") ∧
      ((extRecord ((earningsPerShare (1/2)).findLatest "2330") "eps").map
        (fun rec => comparedNumbers "0.53" (externalValue rec))) =
          some (some (.finite (53/100),.finite (1/2))) ∧
      (crosscheckWithPdf ((earningsPerShare (1/2)).findLatest "2330") "2026Q1" "eps"
        "0.53").verdict = .consistent ∧
      ¬WithinTolerance (53/100) (1/2) := by
  refine ⟨(earningsPerShare (1/2)).latestStatements_findLatest "2330",by decide +kernel,
    by decide +kernel,?_⟩
  rw [WithinTolerance]
  norm_num [abs_of_pos]

end FinancialPdfReader
