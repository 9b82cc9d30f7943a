import FinancialPdfReader.Python.Order
import FinancialPdfReader.Static.Layers

namespace FinancialPdfReader

open Py

namespace ResultsPage

section Ranks

/-- `rank||fallback` -/
def rankOr (fallback : Nat) : Option Nat → Nat
  | some (rank + 1) => rank + 1
  | _ => fallback

/-- `SEV_ORDER`, the highest level first. -/
def ReviewSeverity.rank : ReviewSeverity → Nat
  | .l4 => 0
  | .l3 => 1
  | .l2 => 2
  | .l1 => 3

/-- `TIER_ORDER[c.materiality]` -/
def tierRank (c : Json) : Option Nat :=
  if hasText "materiality" "tier_a" c then some 0
  else if hasText "materiality" "tier_b" c then some 1
  else if hasText "materiality" "tier_c" c then some 2
  else none

theorem rankOr_some (fallback rank : Nat) :
    rankOr fallback (some rank) = if rank = 0 then fallback else rank := by
  cases rank <;> rfl

theorem order_eq_rankOr (s : ReviewSeverity) : s.order = rankOr 4 (some s.rank) := by
  cases s <;> rfl

theorem hasText_unique {key text text' : String} {c : Json} (h : hasText key text c = true)
    (h' : hasText key text' c = true) : text = text' := by
  have hfield : c.field? key = some (.str text) := by simpa [hasText] using h
  have hfield' : c.field? key = some (.str text') := by simpa [hasText] using h'
  exact Json.str.inj (Option.some.inj (hfield.symm.trans hfield'))

theorem tierOrder_eq_rankOr (c : Json) : tierOrder c = rankOr 1 (tierRank c) := by
  unfold tierOrder tierRank
  by_cases hc : hasText "materiality" "tier_c" c = true
  · have ha : ¬ hasText "materiality" "tier_a" c = true :=
      fun ha => absurd (hasText_unique ha hc) (by decide)
    have hb : ¬ hasText "materiality" "tier_b" c = true :=
      fun hb => absurd (hasText_unique hb hc) (by decide)
    simp [ha, hb, hc, rankOr]
  · rw [if_neg hc, if_neg hc]
    split_ifs <;> rfl

/-- A claim is of one tier at most. -/
theorem tierRank_eq_iff (c : Json) :
    (tierRank c = some 0 ↔ hasText "materiality" "tier_a" c = true) ∧
      (tierRank c = some 1 ↔ hasText "materiality" "tier_b" c = true) := by
  have hexcl : hasText "materiality" "tier_b" c = true →
      ¬ hasText "materiality" "tier_a" c = true :=
    fun hb ha => absurd (hasText_unique ha hb) (by decide)
  unfold tierRank
  by_cases ha : hasText "materiality" "tier_a" c = true
  · have hb : ¬ hasText "materiality" "tier_b" c = true := fun hb => hexcl hb ha
    simp [ha, hb]
  · rw [if_neg ha]
    split_ifs <;> simp_all

end Ranks

section Orders

/-- From the highest severity to the lowest. -/
def BySeverity (claims : List Json) : Prop :=
  (claims.map (fun c => (reviewSeverityLevel c).rank)).Pairwise (· ≤ ·)

/-- The claims of a known tier, from the first tier to the last. -/
def ByTier (claims : List Json) : Prop := (claims.filterMap tierRank).Pairwise (· ≤ ·)

theorem ByTier.sublist {claims claims' : List Json} (h : ByTier claims)
    (hsub : claims'.Sublist claims) : ByTier claims' :=
  List.Pairwise.sublist (hsub.filterMap tierRank) h

/-- The highest level is sorted to the end, the others as the table has them. -/
theorem bySeverity_sortBy (claims : List Json) :
    BySeverity (sortBy (fun c => (reviewSeverityLevel c).order) claims) ↔
      (∀ c ∈ claims, reviewSeverityLevel c = .l4) ∨ ∀ c ∈ claims, reviewSeverityLevel c ≠ .l4 := by
  have hzero : ∀ s : ReviewSeverity, s.rank = 0 ↔ s = .l4 := by
    intro s
    cases s <;> simp [ReviewSeverity.rank]
  have hle : ∀ s : ReviewSeverity, s.rank ≤ 3 := by
    intro s
    cases s <;> decide
  simp only [BySeverity, List.pairwise_map, pairwise_sortBy, order_eq_rankOr, rankOr_some,
    ← hzero, ne_eq]
  constructor
  · intro h
    by_contra hmixed
    push Not at hmixed
    obtain ⟨⟨a,ha,hlow⟩,b,hb,htop⟩ := hmixed
    have hfirst := h.1 a ha b hb
    rw [if_neg hlow, if_pos htop, htop] at hfirst
    have hthree := hle (reviewSeverityLevel a)
    omega
  · intro hsame
    have hkeys : ∀ a ∈ claims, ∀ b ∈ claims,
        (if (reviewSeverityLevel a).rank = 0 then 4 else (reviewSeverityLevel a).rank) ≤
          (if (reviewSeverityLevel b).rank = 0 then 4 else (reviewSeverityLevel b).rank) →
        (reviewSeverityLevel a).rank ≤ (reviewSeverityLevel b).rank := by
      intro a ha b hb hab
      rcases hsame with hall | hnone
      · rw [hall a ha]
        exact Nat.zero_le _
      · rwa [if_neg (hnone a ha), if_neg (hnone b hb)] at hab
    refine ⟨fun a ha b hb hlt => hkeys a ha b hb hlt.le,fun a b hab heq => ?_⟩
    exact hkeys a hab.mem.1 b hab.mem.2 heq.le

/-- The first two tiers share a place, so their claims stay as they came. -/
theorem byTier_sortBy (claims : List Json) : ByTier (sortBy tierOrder claims) ↔
    ∀ a b, Before claims a b → tierRank a = some 1 → tierRank b ≠ some 0 := by
  have hrank : ∀ c i, tierRank c = some i → tierOrder c = if i = 0 then 1 else i := by
    intro c i hi
    rw [tierOrder_eq_rankOr, hi, rankOr_some]
  rw [ByTier, List.pairwise_filterMap, pairwise_sortBy]
  constructor
  · intro h a b hab ha hb
    have hle := h.2 a b hab (by rw [hrank a 1 ha, hrank b 0 hb]; rfl) 1 ha 0 hb
    exact absurd hle (by decide)
  · intro hkept
    refine ⟨?_,?_⟩
    · intro a _ b _ hlt i hi j hj
      rw [hrank a i hi, hrank b j hj] at hlt
      split_ifs at hlt <;> omega
    · intro a b hab heq i hi j hj
      rw [hrank a i hi, hrank b j hj] at heq
      have hpair : ¬ (i = 1 ∧ j = 0) := by
        intro hboth
        exact hkept a b hab (hboth.1 ▸ hi) (hboth.2 ▸ hj)
      split_ifs at heq <;> omega

end Orders

section Displayed

variable (page : ResultsPage)

/-- The review panel's claims, in its order. -/
def sortedReview : List Json :=
  sortBy (fun c => (reviewSeverityLevel c).order) page.reviewClaims

def reviewItem (c : Json) : String :=
  "<div class=\"review-panel-item\">\n        <span class=\"" ++ (reviewSeverityLevel c).cls ++
    "\">" ++ (reviewSeverityLevel c).label ++
    "</span>\n        <span class=\"review-panel-item-tag\">" ++ reviewReason c ++
    "</span>\n        <span class=\"review-panel-item-text\">" ++ textAt "claim" c ++
    "</span>\n        " ++ htmlIf (pages c != "")
      ("<span class=\"review-panel-item-page\">" ++ pages c ++ "</span>") ++ "\n      </div>"

theorem reviewPanel_eq : page.reviewPanel = htmlIf (!page.reviewClaims.isEmpty)
    ("<div class=\"review-toggle-btn\" onclick=\"toggleReviewPanel()\" id=\"review-toggle-btn\">" ++
      "▶ 展開 " ++ toString page.reviewCount ++ " 條待確認項目</div>\n    " ++
      "<div class=\"review-panel\" id=\"review-panel\">\n      " ++
      "<div class=\"review-panel-header\">待確認觀察（嚴重度 L4→L1，非風險判斷）</div>\n      " ++
      "<div class=\"review-panel-items\">" ++ String.join (page.sortedReview.map reviewItem) ++
      "</div></div>") := rfl

/-- The clean claims of a section as they came. -/
def grouped (key : String) : List Json :=
  page.cleanClaims.filter (fun c => textOr "section_key" "key_financials" c == key)

theorem sectionClaims_eq (key : String) :
    page.sectionClaims key = sortBy tierOrder (page.grouped key) := rfl

def factClaims (key : String) : List Json :=
  (page.sectionClaims key).filter
    (hasOneOf "claim_level" ["observed_fact","derived_metric","insufficient_evidence"])

def interpClaims (key : String) : List Json := (page.sectionClaims key).filter isInterpretive

/-- Facts come first, what the model made of them in a fold below. -/
theorem claimsPane_eq (i : Nat) (key : String) : ∃ opening notice toggle contaminated : String,
    page.claimsPane i key = htmlIf (!(page.sectionClaims key).isEmpty ||
        !(page.sectionContam key).isEmpty)
      (opening ++ String.join ((page.factClaims key).map (renderClaim · false)) ++ notice ++
        htmlIf (!(page.interpClaims key).isEmpty)
          (toggle ++ String.join ((page.interpClaims key).map (renderClaim · false)) ++ "</div>") ++
        contaminated ++ "</div>") := ⟨_,_,_,_,rfl⟩

/-- What the review panel and the sections of the explorer list, and the two parts of each that a
pane shows, stand in their order. That a pane has its facts before the folded interpretations is
its layout and no part of this, and neither are the claims of the contaminated fold. -/
structure DisplayedInOrder : Prop where
  review : BySeverity page.sortedReview
  sections : ∀ s ∈ sectionMeta, ByTier (page.sectionClaims s.1)
  shown : ∀ s ∈ sectionMeta, ByTier (page.factClaims s.1) ∧ ByTier (page.interpClaims s.1)

/-- The order is right where the highest level is alone or missing among the claims to review, and
no section has a claim of the second tier before one of the first. -/
theorem displayedInOrder_iff (data : Json) : (resultsPage data).DisplayedInOrder ↔
    ((∀ c ∈ (resultsPage data).reviewClaims, reviewSeverityLevel c = .l4) ∨
      ∀ c ∈ (resultsPage data).reviewClaims, reviewSeverityLevel c ≠ .l4) ∧
    ∀ s ∈ sectionMeta, ∀ a b, Before ((resultsPage data).grouped s.1) a b →
      hasText "materiality" "tier_b" a = true → hasText "materiality" "tier_a" b = false := by
  have hsection : ∀ key, ByTier ((resultsPage data).sectionClaims key) ↔
      ∀ a b, Before ((resultsPage data).grouped key) a b →
        hasText "materiality" "tier_b" a = true → hasText "materiality" "tier_a" b = false := by
    intro key
    rw [sectionClaims_eq, byTier_sortBy]
    simp only [ne_eq, tierRank_eq_iff, Bool.not_eq_true]
  constructor
  · intro h
    exact ⟨(bySeverity_sortBy _).mp h.review,fun s hs => (hsection s.1).mp (h.sections s hs)⟩
  · intro h
    have hsections : ∀ s ∈ sectionMeta, ByTier ((resultsPage data).sectionClaims s.1) :=
      fun s hs => (hsection s.1).mpr (h.2 s hs)
    exact {
      review := (bySeverity_sortBy _).mpr h.1
      sections := hsections
      shown := fun s hs => ⟨(hsections s hs).sublist List.filter_sublist,
        (hsections s hs).sublist List.filter_sublist⟩ }

/-- A claim with a page to it, and after it a forecast of the first tier without any. -/
def mixedResponse : Json := .obj [("claims",.arr [
  .obj [("claim",.str "營收年增一成"), ("claim_level",.str "observed_fact"),
    ("materiality",.str "tier_b"), ("requires_human_review",.bool true),
    ("evidence",.arr [.obj [("page",.int 3)]])],
  .obj [("claim",.str "明年營收將翻倍"), ("claim_level",.str "observed_fact"),
    ("materiality",.str "tier_a"), ("requires_human_review",.bool true),
    ("forward_looking",.bool true), ("evidence",.arr [])]])]

/-- The forecast is last in the panel and in its section. -/
theorem mixedResponse_outOfOrder : ¬ (resultsPage mixedResponse).DisplayedInOrder ∧
    ¬ BySeverity (resultsPage mixedResponse).sortedReview ∧
    ¬ ByTier ((resultsPage mixedResponse).sectionClaims "key_financials") := by
  have hreview : ¬ BySeverity (resultsPage mixedResponse).sortedReview := by
    have hranks : (resultsPage mixedResponse).sortedReview.map
        (fun c => (reviewSeverityLevel c).rank) = [2,0] := by decide +kernel
    rw [BySeverity, hranks]
    decide
  have hsection : ¬ ByTier ((resultsPage mixedResponse).sectionClaims "key_financials") := by
    have hranks : ((resultsPage mixedResponse).sectionClaims "key_financials").filterMap tierRank =
        [1,0] := by decide +kernel
    rw [ByTier, hranks]
    decide
  exact ⟨fun h => hreview h.review,hreview,hsection⟩

end Displayed

end ResultsPage

end FinancialPdfReader
