import Mathlib.Data.Bool.AllAny
import FinancialPdfReader.Services.Summarization.Deltas
import FinancialPdfReader.Services.Summarization.MetricSources

namespace FinancialPdfReader

open Py

inductive Turn where
  | falls | rises

def Turn.word : Turn → String
  | .falls => "下降"
  | .rises => "增加"

/-- A change of a size, with the sign of its turn. -/
def Turn.signed : Turn → ℚ → ℚ
  | .falls, size => -size
  | .rises, size => size

inductive ChangeUnit where
  | points | percent

def ChangeUnit.text : ChangeUnit → String
  | .points => " pp"
  | .percent => "%"

/-- What a report says of a metric: where it stands, and how far that is from the last period. -/
structure LevelAndChange where
  metric : Metric
  keyword : String
  registered : keyword ∈ keywords metric
  level : Numeral
  turn : Turn
  change : Numeral
  unit : ChangeUnit

namespace LevelAndChange

def text (s : LevelAndChange) : String :=
  s.keyword ++ " " ++ s.level.text ++ "%，較上期" ++ s.turn.word ++ " " ++ s.change.text ++ s.unit.text

/-- The words behind the level. -/
def ending (turn : Turn) (unit : ChangeUnit) : String := "，較上期" ++ turn.word ++ " " ++ unit.text

/-- The words of the sentence without its numerals. -/
def words (s : LevelAndChange) : String := s.keyword ++ " " ++ "%" ++ ending s.turn s.unit

def delta (s : LevelAndChange) : ℚ := s.turn.signed s.change.value

section Words

variable (s : LevelAndChange)

theorem toList_text : s.text.toList =
    (s.keyword ++ " ").toList ++ (s.level.chars ++ '%' :: ("，較上期" ++ s.turn.word ++ " ").toList ++
      s.change.chars ++ s.unit.text.toList) := by
  simp [text, Numeral.text]

omit s in
theorem entry_mem (metric : Metric) : (metric,keywords metric) ∈ metricRegistry := by
  cases metric <;> decide

/-- The words are in lower case and have no digits. -/
theorem words_plain : ∀ c ∈ s.words.toList, numeric c = false ∧ lowerChar c = [c] := by
  have hkeywords : ∀ e ∈ metricRegistry, ∀ keyword ∈ e.2,
      keyword.toList.all (fun c => numeric c = false ∧ lowerChar c = [c]) = true := by
    decide +kernel
  have hending : ∀ turn unit,
      (ending turn unit).toList.all (fun c => numeric c = false ∧ lowerChar c = [c]) = true := by
    intro turn unit
    cases turn <;> cases unit <;> decide +kernel
  intro c hc
  simp only [words, String.toList_append, List.mem_append] at hc
  rcases hc with ((hc | hc) | hc) | hc
  · exact List.all_iff_forall_prop.mp (hkeywords _ (entry_mem s.metric) _ s.registered) c hc
  · obtain rfl := List.mem_singleton.mp hc
    decide
  · obtain rfl := List.mem_singleton.mp hc
    decide
  · exact List.all_iff_forall_prop.mp (hending s.turn s.unit) c hc

theorem filter_text : s.text.toList.filter (fun c => !numeric c) = s.words.toList := by
  have hnumeral : ∀ n : Numeral, n.chars.filter (fun c => !numeric c) = [] := by
    intro n
    rw [List.filter_eq_nil_iff]
    intro c hc
    simp [n.numeric_of_mem hc]
  have hwords : s.words.toList.filter (fun c => !numeric c) = s.words.toList := by
    rw [List.filter_eq_self]
    intro c hc
    simp [(s.words_plain c hc).1]
  rw [← hwords, toList_text]
  simp [words, ending, List.filter_append, List.filter_cons, hnumeral]

/-- A word without digits that is in the text is in the words around the numerals. -/
theorem infix_words {word : String} (hword : ∀ c ∈ word.toList, numeric c = false)
    (hin : isIn word s.text = true) : word.toList <:+: s.words.toList := by
  rw [isIn, decide_eq_true_eq] at hin
  have hfilter := hin.filter (fun c => !numeric c)
  have hkept : word.toList.filter (fun c => !numeric c) = word.toList := by
    rw [List.filter_eq_self]
    intro c hc
    simp [hword c hc]
  rwa [filter_text, hkept] at hfilter

/-- A word of letters is looked for before the level and behind it. -/
theorem isIn_text {word : String} (hword : ∀ c ∈ word.toList, numeric c = false ∧ c ≠ '%')
    (hkeyword : isIn word (s.keyword ++ " ") = false)
    (hending : isIn word (ending s.turn s.unit) = false) : isIn word s.text = false := by
  by_contra hin
  rw [Bool.not_eq_false] at hin
  have hinfix := s.infix_words (fun c hc => (hword c hc).1) hin
  have hsplit : s.words.toList =
      (s.keyword ++ " ").toList ++ '%' :: (ending s.turn s.unit).toList := by
    simp [words]
  rw [hsplit] at hinfix
  have hpercent : '%' ∉ word.toList := fun hmem => (hword _ hmem).2 rfl
  rcases infix_of_infix_append_cons hpercent hinfix with hfront | hback
  · exact Bool.false_ne_true (hkeyword.symm.trans (decide_eq_true hfront))
  · exact Bool.false_ne_true (hending.symm.trans (decide_eq_true hback))

theorem mem_text {c : Char} (h : c ∈ s.text.toList) :
    (∃ n : Numeral, c ∈ n.chars) ∨ c ∈ s.words.toList := by
  by_cases hlevel : c ∈ s.level.chars
  · exact Or.inl ⟨s.level,hlevel⟩
  · by_cases hchange : c ∈ s.change.chars
    · exact Or.inl ⟨s.change,hchange⟩
    · right
      rw [toList_text] at h
      simp only [List.mem_append, List.mem_cons, hlevel, hchange, String.toList_append] at h
      simp only [words, ending, String.toList_append, List.mem_append]
      grind

theorem lower_text : lower s.text = s.text := by
  have hkept : ∀ c ∈ s.text.toList, lowerChar c = [c] := by
    intro c hc
    rcases s.mem_text hc with ⟨n,hn⟩ | hwords
    · exact n.lowerChar_of_mem hn
    · exact (s.words_plain c hwords).2
  have hflat : s.text.toList.flatMap lowerChar = s.text.toList := by
    rw [List.flatMap_congr hkept, List.flatMap_singleton']
  rw [lower, hflat, String.ofList_toList]

/-- The sentence is about the metric of its keyword. -/
theorem matchMetric_text : matchMetric s.text = some s.metric := by
  have hkeywords : ∀ e ∈ metricRegistry, ∀ keyword ∈ e.2,
      lower keyword = keyword ∧
        keyword.toList.all (fun c => numeric c = false ∧ c ≠ '%') = true := by
    decide +kernel
  have hearlier : ∀ e ∈ metricRegistry, ∀ keyword ∈ e.2, ∀ earlier ∈ registeredBefore e.1,
      ∀ other ∈ keywords earlier, isIn other (keyword ++ " ") = false := by decide +kernel
  have hending : ∀ turn unit, ∀ e ∈ metricRegistry, ∀ other ∈ e.2,
      isIn other (ending turn unit) = false := by
    intro turn unit
    cases turn <;> cases unit <;> decide +kernel
  rw [matchMetric_eq_some_iff]
  constructor
  · rw [mentions, List.any_eq_true]
    refine ⟨s.keyword,s.registered,?_⟩
    rw [lower_text, (hkeywords _ (entry_mem s.metric) _ s.registered).1, isIn, decide_eq_true_eq,
      toList_text, String.toList_append, List.append_assoc]
    exact List.infix_append' [] _ _
  · intro earlier hmem
    rw [mentions, List.any_eq_false]
    intro other hother
    obtain ⟨hlower,hplain⟩ := hkeywords _ (entry_mem earlier) _ hother
    rw [lower_text, hlower, Bool.not_eq_true]
    apply s.isIn_text (List.all_iff_forall_prop.mp hplain)
    · exact hearlier _ (entry_mem s.metric) _ s.registered earlier hmem other hother
    · exact hending s.turn s.unit _ (entry_mem earlier) other hother

end Words

section Extraction

theorem spanNumber_whole {cs rest : List Char} {whole : List Nat}
    (hwhole : spanDigits cs = (whole,rest)) (hne : whole ≠ []) (hpoint : rest.head? ≠ some '.') :
    spanNumber cs = some (digitsValue whole,rest) := by
  rw [spanNumber, hwhole]
  split
  · rename_i hnil
    exact absurd (Prod.mk.inj hnil).1 hne
  · rename_i hsplit
    rw [(Prod.mk.inj hsplit).2] at hpoint
    exact absurd rfl hpoint
  · rename_i hsplit
    obtain ⟨rfl,rfl⟩ := Prod.mk.inj hsplit
    rfl

theorem spanNumber_fraction {cs rest rest' : List Char} {whole fraction : List Nat}
    (hwhole : spanDigits cs = (whole,'.' :: rest)) (hne : whole ≠ [])
    (hfraction : spanDigits rest = (fraction,rest')) (hne' : fraction ≠ []) :
    spanNumber cs = some (digitsValue whole + digitsValue fraction / 10^fraction.length,rest') := by
  obtain ⟨d,whole,rfl⟩ := List.exists_cons_of_ne_nil hne
  obtain ⟨e,fraction,rfl⟩ := List.exists_cons_of_ne_nil hne'
  rw [spanNumber, hwhole]
  simp only [hfraction]

theorem spanNumber_numeral (n : Numeral) {rest : List Char}
    (hdigit : rest.head?.bind digitValue? = none) (hpoint : rest.head? ≠ some '.') :
    spanNumber (n.chars ++ rest) = some (n.value,rest) := by
  have hwhole : n.whole.map (·.val) ≠ [] := by simpa using n.whole_ne
  by_cases hfraction : n.fraction = []
  · have hchars : n.chars ++ rest = n.whole.map digitChar ++ rest := by
      simp [Numeral.chars, hfraction]
    rw [hchars, spanNumber_whole (spanDigits_append _ hdigit) hwhole hpoint]
    simp [Numeral.value, hfraction, digitsValue]
  · have hchars : n.chars ++ rest =
        n.whole.map digitChar ++ '.' :: (n.fraction.map digitChar ++ rest) := by
      simp [Numeral.chars, hfraction]
    rw [hchars, spanNumber_fraction (spanDigits_append _ rfl) hwhole (spanDigits_append _ hdigit)
      (by simpa using hfraction)]
    simp [Numeral.value]

/-- A numeral with a percent sign is read as its value. -/
theorem matchDelta_numeral (n : Numeral) (rest : List Char) :
    matchDelta (n.chars ++ '%' :: rest) = some n.value := by
  obtain ⟨d,ds,hds⟩ := List.exists_cons_of_ne_nil n.whole_ne
  have hhead : (n.chars ++ '%' :: rest).head? = some (digitChar d) := by
    simp [Numeral.chars, hds]
  have hsign : ∀ d : Fin 10, digitChar d ≠ '+' ∧ digitChar d ≠ '-' := by decide
  rw [matchDelta_plain (by simpa [hhead] using (hsign d).1) (by simpa [hhead] using (hsign d).2),
    matchUnsigned, spanNumber_numeral n rfl (by simp)]
  rfl

variable (s : LevelAndChange)

/-- No match begins at the words in front of the level. -/
theorem matchDelta_word {c : Char} (hdigit : digitValue? c = none) (hplus : c ≠ '+')
    (hminus : c ≠ '-') (rest : List Char) : matchDelta (c :: rest) = none := by
  rw [matchDelta_plain (by simpa using hplus) (by simpa using hminus), matchUnsigned, spanNumber,
    spanDigits, hdigit]
  rfl

theorem percentage_text : percentage s.text = some s.level.value := by
  have hwords : ∀ e ∈ metricRegistry, ∀ keyword ∈ e.2, (keyword ++ " ").toList.all
      (fun c => digitValue? c = none ∧ c ≠ '+' ∧ c ≠ '-') = true := by decide +kernel
  rw [percentage, lower_text, searchDelta_eq_search, search_eq_some_iff]
  refine ⟨(s.keyword ++ " ").toList,_,s.toList_text,?_,?_⟩
  · rw [List.append_assoc, List.append_assoc, List.cons_append]
    exact matchDelta_numeral s.level _
  · intro skipped later hsplit hlater
    obtain ⟨c,later,rfl⟩ := List.exists_cons_of_ne_nil hlater
    have hmem : c ∈ (s.keyword ++ " ").toList := by simp [hsplit]
    obtain ⟨hdigit,hplus,hminus⟩ :=
      List.all_iff_forall_prop.mp (hwords _ (entry_mem s.metric) _ s.registered) c hmem
    exact matchDelta_word hdigit hplus hminus _

theorem saysFall_text : saysFall s.text = true ↔ s.turn = .falls := by
  have hkeywords : ∀ e ∈ metricRegistry, ∀ keyword ∈ e.2,
      ∀ word ∈ ["下降","減少","drop","down"], isIn word (keyword ++ " ") = false := by
    decide +kernel
  have hending : ∀ unit, ∀ word ∈ ["下降","減少","drop","down"],
      isIn word (ending .rises unit) = false := by
    intro unit
    cases unit <;> decide +kernel
  have hplain : ∀ word ∈ ["下降","減少","drop","down"],
      word.toList.all (fun c => numeric c = false ∧ c ≠ '%') = true := by decide +kernel
  constructor
  · intro hfall
    cases hturn : s.turn with
    | falls => rfl
    | rises =>
      have hout : ∀ word ∈ ["下降","減少","drop","down"], isIn word s.text = false := by
        intro word hword
        apply s.isIn_text (List.all_iff_forall_prop.mp (hplain word hword))
        · exact hkeywords _ (entry_mem s.metric) _ s.registered word hword
        · rw [hturn]
          exact hending s.unit word hword
      simp [saysFall, anyIn, lower_text, hout] at hfall
  · intro hturn
    have hin : isIn "下降" s.text = true := by
      rw [isIn, decide_eq_true_eq]
      refine ⟨(s.keyword ++ " " ++ s.level.text ++ "%，較上期").toList,
        (" " ++ s.change.text ++ s.unit.text).toList,?_⟩
      simp [text, hturn, Turn.word]
    simp [saysFall, anyIn, hin]

theorem extractDelta_text : extractDelta s.text = some (s.turn.signed s.level.value) := by
  rw [extractDelta_eq, percentage_text, Option.map_some, abs_of_nonneg s.level.value_nonneg]
  cases hturn : s.turn with
  | falls => rw [if_pos (s.saysFall_text.mpr hturn), Turn.signed]
  | rises =>
    have hfall : ¬ saysFall s.text = true := by simp [saysFall_text, hturn]
    rw [if_neg hfall, ite_self, Turn.signed]

end Extraction

end LevelAndChange

section Node

variable {cleanClaims : List (AIClaim String)}

/-- Where such a claim decides its metric, the node of the metric has the change of the claim. -/
def ChangeShown (s : LevelAndChange) (p : DashboardPayload) : Prop :=
  ∃ m ∈ p.metrics, m.metric = s.metric ∧ m.deltaPct = some s.delta

theorem signed_inj (turn : Turn) (q r : ℚ) : turn.signed q = turn.signed r ↔ q = r := by
  cases turn with
  | falls => exact neg_inj
  | rises => exact Iff.rfl

/-- The level is extracted, so the change is shown only where it is as large. -/
theorem changeShown_iff (s : LevelAndChange) {c : AIClaim String} (hclaim : c.claim = s.text)
    (hdecides : Decides cleanClaims s.metric c) (allClaims : List (AIClaim String))
    (temporalConsistent : Json) (narrativeFlag : Bool) (score weighted : ℚ) :
    ChangeShown s (buildDashboardPayload cleanClaims allClaims temporalConsistent narrativeFlag
      score weighted) ↔ s.level.value = s.change.value := by
  have hdelta : (metricNode s.metric c).deltaPct = some (s.turn.signed s.level.value) := by
    unfold metricNode
    rw [hclaim, s.extractDelta_text]
  rw [← signed_inj s.turn]
  constructor
  · intro hshown
    obtain ⟨m,hm,hmetric,hchange⟩ := hshown
    obtain ⟨metric,d,hd,rfl⟩ := mem_metrics_iff.mp hm
    obtain rfl : metric = s.metric := hmetric
    have hnode : metricNode s.metric d = metricNode s.metric c :=
      Option.some.inj ((collectMetrics_get?_iff.mpr ⟨d,hd,rfl⟩).symm.trans
        (collectMetrics_get?_iff.mpr ⟨c,hdecides,rfl⟩))
    rw [hnode] at hchange
    exact Option.some.inj (hdelta.symm.trans hchange)
  · intro heq
    exact ⟨metricNode s.metric c,mem_metrics_iff.mpr ⟨s.metric,c,hdecides,rfl⟩,rfl,
      hdelta.trans (congrArg some heq)⟩

/-- A claim that says so and nothing else. -/
def LevelAndChange.toClaim (s : LevelAndChange) : AIClaim String where
  claimId := "c1"
  claim := s.text
  claimType := .financialObservation
  claimLevel := .observedFact
  materiality := .tierA
  sectionKey := .keyFinancials
  recurring := true
  contaminated := false
  sourceType := .financialEvidence
  forwardLooking := false
  rhetoricalRiskFlag := false
  rhetoricalRiskTerms := []
  attributionPrefix := ""
  evidence := [⟨"d1","12","損益表",s.text⟩]
  confidence := .high
  requiresHumanReview := false

/-- 毛利率 5%，較上期增加 5.0 pp -/
def sameSize : LevelAndChange where
  metric := .grossMargin
  keyword := "毛利率"
  registered := by decide
  level := ⟨[5],[],by decide⟩
  turn := .rises
  change := ⟨[5],[0],by decide⟩
  unit := .points

theorem changeShown_iff_sameSize : ChangeShown sameSize
    (buildDashboardPayload [sameSize.toClaim] [sameSize.toClaim] (.bool true) false 0 0) := by
  have hsize : sameSize.level.value = sameSize.change.value := by decide +kernel
  have hclaims : claimsOf sameSize.metric [sameSize.toClaim] = [sameSize.toClaim] := by
    simp [claimsOf, LevelAndChange.toClaim, sameSize.matchMetric_text]
  have hdecides : Decides [sameSize.toClaim] sameSize.metric sameSize.toClaim := by
    rw [Decides, hclaims]
    exact ⟨[],[],rfl,by simp,by simp⟩
  exact (changeShown_iff sameSize rfl hdecides _ _ _ _ _).mpr hsize

/-- 毛利率 32%，較上期下降 3 pp -/
def fallingMargin : LevelAndChange where
  metric := .grossMargin
  keyword := "毛利率"
  registered := by decide
  level := ⟨[3,2],[],by decide⟩
  turn := .falls
  change := ⟨[3],[],by decide⟩
  unit := .points

/-- The dashboard shows a fall by 32 points. -/
theorem fallingMargin_level : fallingMargin.text = "毛利率 32%，較上期下降 3 pp" ∧
    (buildDashboardPayload [fallingMargin.toClaim] [fallingMargin.toClaim] (.bool true) false
      0 0).metrics.map (·.deltaPct) = [some (-32)] ∧
    fallingMargin.delta = -3 ∧
    ¬ ChangeShown fallingMargin (buildDashboardPayload [fallingMargin.toClaim]
      [fallingMargin.toClaim] (.bool true) false 0 0) := by
  have hmetrics : (buildDashboardPayload [fallingMargin.toClaim] [fallingMargin.toClaim]
      (.bool true) false 0 0).metrics.map (·.deltaPct) = [some (-32)] := by decide +kernel
  have hdelta : fallingMargin.delta = -3 := by decide +kernel
  refine ⟨by decide +kernel,hmetrics,hdelta,?_⟩
  intro hshown
  obtain ⟨m,hm,-,hchange⟩ := hshown
  have hmem : m.deltaPct ∈ (buildDashboardPayload [fallingMargin.toClaim]
      [fallingMargin.toClaim] (.bool true) false 0 0).metrics.map (·.deltaPct) :=
    List.mem_map_of_mem hm
  rw [hmetrics, List.mem_singleton, hchange, hdelta] at hmem
  norm_num at hmem

end Node

end FinancialPdfReader
