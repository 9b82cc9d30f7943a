import FinancialPdfReader.Algorithms.Grouping
import FinancialPdfReader.Static.DisplayOrder
import FinancialPdfReader.Static.InvalidContract

namespace FinancialPdfReader

open Py

section Within

/-- One text stands within another. -/
def Within (part whole : String) : Prop := ∃ before after, whole = before ++ part ++ after

variable {part middle whole : String}

theorem Within.refl (part : String) : Within part part := ⟨"","",by simp⟩

theorem Within.append_left (h : Within part whole) (before : String) :
    Within part (before ++ whole) := by
  obtain ⟨front,rest,rfl⟩ := h
  exact ⟨before ++ front,rest,by simp [String.append_assoc]⟩

theorem Within.append_right (h : Within part whole) (after : String) :
    Within part (whole ++ after) := by
  obtain ⟨front,rest,rfl⟩ := h
  exact ⟨front,rest ++ after,by simp [String.append_assoc]⟩

theorem Within.htmlIf {cond : Bool} (hcond : cond = true) (h : Within part whole) :
    Within part (htmlIf cond whole) := by
  rw [FinancialPdfReader.htmlIf, if_pos hcond]
  exact h

theorem Within.join {parts : List String} (hmem : middle ∈ parts) (h : Within part middle) :
    Within part (String.join parts) := by
  obtain ⟨front,rest,rfl⟩ := List.append_of_mem hmem
  have hjoin : String.join (front ++ middle :: rest) =
      String.join front ++ (middle ++ String.join rest) := by
    rw [String.join_append, String.join_cons]
  rw [hjoin]
  exact (h.append_right _).append_left _

end Within

section Claims

variable (c : AIClaim String)

theorem isTrue_contaminated : isTrue "contaminated" (serializeClaim c) = c.contaminated := rfl

theorem isTrue_requiresHumanReview :
    isTrue "requires_human_review" (serializeClaim c) = c.requiresHumanReview := rfl

theorem textOr_sectionKey (fallback : String) :
    textOr "section_key" fallback (serializeClaim c) = Choices.text c.sectionKey := by
  have htrue : isTrue "section_key" (serializeClaim c) = (Choices.text c.sectionKey != "") := rfl
  have htext : textAt "section_key" (serializeClaim c) = Choices.text c.sectionKey := rfl
  rw [textOr, htrue, htext]
  cases c.sectionKey <;> rfl

theorem hasText_sectionKey (key : String) : hasText "section_key" key (serializeClaim c) =
    (Choices.text c.sectionKey == key) := by
  change (some (Json.str (Choices.text c.sectionKey)) == some (.str key)) = _
  simp

/-- A claim is either shown as a fact or as an interpretation. -/
theorem hasOneOf_fact : hasOneOf "claim_level" ["observed_fact","derived_metric",
    "insufficient_evidence"] (serializeClaim c) = !isInterpretive (serializeClaim c) := by
  have hlevel : ∀ text, hasText "claim_level" text (serializeClaim c) =
      (some (Json.str (Choices.text c.claimLevel)) == some (.str text)) := fun _ => rfl
  simp only [hasOneOf, isInterpretive, List.any_cons, List.any_nil, hlevel]
  cases c.claimLevel <;> decide

/-- The sections of the page are those that a claim can be of. -/
theorem sectionKey_mem : Choices.text c.sectionKey ∈ sectionMeta.map (·.1) := by
  cases c.sectionKey <;> decide

end Claims

section Page

variable (report : AIReport) (documentPeriod requestedPeriod : Json)

/-- The page of a summary as it is answered. -/
def summaryPage : ResultsPage :=
  resultsPage (.obj (serializeSummaryResponse report documentPeriod requestedPeriod))

variable {report documentPeriod requestedPeriod}

theorem cleanClaims_summaryPage :
    (summaryPage report documentPeriod requestedPeriod).cleanClaims =
      (report.claims.filter (fun c => !c.contaminated)).map serializeClaim :=
  List.filter_map

theorem contaminatedClaims_summaryPage :
    (summaryPage report documentPeriod requestedPeriod).contaminatedClaims =
      (report.claims.filter (·.contaminated)).map serializeClaim :=
  List.filter_map

end Page

section Explorer

variable {report : AIReport} {documentPeriod requestedPeriod : Json}

theorem serialized_of_clean {c : Json}
    (h : c ∈ (summaryPage report documentPeriod requestedPeriod).cleanClaims) :
    ∃ claim ∈ report.claims, claim.contaminated = false ∧ serializeClaim claim = c := by
  rw [cleanClaims_summaryPage] at h
  obtain ⟨claim,hclaim,rfl⟩ := List.mem_map.mp h
  obtain ⟨hmem,hclean⟩ := List.mem_filter.mp hclaim
  exact ⟨claim,hmem,by simpa using hclean,rfl⟩

theorem serialized_of_contaminated {c : Json}
    (h : c ∈ (summaryPage report documentPeriod requestedPeriod).contaminatedClaims) :
    ∃ claim ∈ report.claims, serializeClaim claim = c := by
  rw [contaminatedClaims_summaryPage] at h
  obtain ⟨claim,hclaim,rfl⟩ := List.mem_map.mp h
  exact ⟨claim,(List.mem_filter.mp hclaim).1,rfl⟩

theorem mem_sectionClaims {page : ResultsPage} {key : String} {c : Json} :
    c ∈ page.sectionClaims key ↔ c ∈ page.grouped key :=
  (sortBy_perm ResultsPage.tierOrder (page.grouped key)).mem_iff

/-- The two parts of a pane are the clean claims of its section. -/
theorem pane_perm (key : String) :
    ((summaryPage report documentPeriod requestedPeriod).factClaims key ++
      (summaryPage report documentPeriod requestedPeriod).interpClaims key).Perm
        ((summaryPage report documentPeriod requestedPeriod).grouped key) := by
  have hfacts : (summaryPage report documentPeriod requestedPeriod).factClaims key =
      ((summaryPage report documentPeriod requestedPeriod).sectionClaims key).filter
        (fun c => !isInterpretive c) := by
    refine List.filter_congr (fun c hc => ?_)
    obtain ⟨claim,-,-,rfl⟩ := serialized_of_clean
      (List.mem_filter.mp (mem_sectionClaims.mp hc)).1
    exact hasOneOf_fact claim
  rw [hfacts]
  exact (List.perm_append_comm.trans (List.filter_append_perm _ _)).trans (sortBy_perm _ _)

/-- What the explorer lists, section by section. -/
def ResultsPage.explored (page : ResultsPage) : List Json :=
  sectionMeta.flatMap (fun s =>
    (page.factClaims s.1 ++ page.interpClaims s.1) ++ page.sectionContam s.1)

theorem sectionMeta_nodup : (sectionMeta.map (·.1)).Nodup := by decide

/-- Every claim of a report has its place in the explorer, and none has two. -/
theorem explored_perm : (summaryPage report documentPeriod requestedPeriod).explored.Perm
    (report.claims.map serializeClaim) := by
  have hpanes : (summaryPage report documentPeriod requestedPeriod).explored.Perm
      ((sectionMeta.map (·.1)).flatMap (fun key =>
        (summaryPage report documentPeriod requestedPeriod).grouped key ++
          (summaryPage report documentPeriod requestedPeriod).sectionContam key)) := by
    rw [List.flatMap_map]
    exact List.Perm.flatMap_left _ (fun s _ => (pane_perm s.1).append_right _)
  have hclean : ((sectionMeta.map (·.1)).flatMap
      (summaryPage report documentPeriod requestedPeriod).grouped).Perm
        (summaryPage report documentPeriod requestedPeriod).cleanClaims := by
    have hgroup : (summaryPage report documentPeriod requestedPeriod).grouped =
        Grouping.group (textOr "section_key" "key_financials")
          (summaryPage report documentPeriod requestedPeriod).cleanClaims := by
      funext key
      exact List.filter_congr (fun c _ => rfl)
    rw [hgroup]
    refine Grouping.perm_groups _ sectionMeta_nodup (fun c hc => ?_)
    obtain ⟨claim,-,-,rfl⟩ := serialized_of_clean hc
    rw [textOr_sectionKey]
    exact sectionKey_mem claim
  have hcontaminated : ((sectionMeta.map (·.1)).flatMap
      (summaryPage report documentPeriod requestedPeriod).sectionContam).Perm
        (summaryPage report documentPeriod requestedPeriod).contaminatedClaims := by
    have hgroup : (summaryPage report documentPeriod requestedPeriod).sectionContam =
        Grouping.group (textOr "section_key" "key_financials")
          (summaryPage report documentPeriod requestedPeriod).contaminatedClaims := by
      funext key
      refine List.filter_congr (fun c hc => ?_)
      obtain ⟨claim,-,rfl⟩ := serialized_of_contaminated hc
      rw [hasText_sectionKey, textOr_sectionKey]
      rfl
    rw [hgroup]
    refine Grouping.perm_groups _ sectionMeta_nodup (fun c hc => ?_)
    obtain ⟨claim,-,rfl⟩ := serialized_of_contaminated hc
    rw [textOr_sectionKey]
    exact sectionKey_mem claim
  have hall : ((summaryPage report documentPeriod requestedPeriod).cleanClaims ++
      (summaryPage report documentPeriod requestedPeriod).contaminatedClaims).Perm
        (report.claims.map serializeClaim) := by
    rw [cleanClaims_summaryPage, contaminatedClaims_summaryPage, ← List.map_append]
    refine List.Perm.map _ (List.perm_append_comm.trans ?_)
    exact List.filter_append_perm (·.contaminated) report.claims
  exact ((hpanes.trans (List.flatMap_append_perm _ _ _).symm).trans
    (hclean.append hcontaminated)).trans hall

end Explorer

section Written

variable {page : ResultsPage} {i : Nat} {key part : String} {c : Json}

theorem ne_empty_of_mem {xs : List Json} (h : c ∈ xs) : (!xs.isEmpty) = true := by
  cases xs with
  | nil => exact absurd h List.not_mem_nil
  | cons x xs => rfl

/-- A section with a claim, clean or contaminated, is shown. -/
theorem shown_of_mem (h : c ∈ page.sectionClaims key ++ page.sectionContam key) :
    (!(page.sectionClaims key).isEmpty || !(page.sectionContam key).isEmpty) = true := by
  rcases List.mem_append.mp h with hclean | hcontaminated
  · rw [ne_empty_of_mem hclean, Bool.true_or]
  · rw [ne_empty_of_mem hcontaminated, Bool.or_true]

theorem within_rows {cs : List Json} (row : Json → String) (h : c ∈ cs) :
    Within (row c) (String.join (cs.map row)) :=
  (Within.refl _).join (List.mem_map_of_mem h)

theorem within_fact (h : c ∈ page.factClaims key) :
    Within (renderClaim c false) (page.claimsPane i key) := by
  obtain ⟨opening,notice,toggle,contaminated,hpane⟩ := page.claimsPane_eq i key
  have hclean : c ∈ page.sectionClaims key := (List.mem_filter.mp h).1
  have hshown := shown_of_mem (List.mem_append_left (page.sectionContam key) hclean)
  have hrow := within_rows (renderClaim · false) h
  rw [hpane]
  exact (((((hrow.append_left _).append_right _).append_right _).append_right _).append_right
    _).htmlIf hshown

theorem within_interp (h : c ∈ page.interpClaims key) :
    Within (renderClaim c false) (page.claimsPane i key) := by
  obtain ⟨opening,notice,toggle,contaminated,hpane⟩ := page.claimsPane_eq i key
  have hclean : c ∈ page.sectionClaims key := (List.mem_filter.mp h).1
  have hshown := shown_of_mem (List.mem_append_left (page.sectionContam key) hclean)
  have hrow := within_rows (renderClaim · false) h
  have hfold : Within (renderClaim c false) (htmlIf (!(page.interpClaims key).isEmpty)
      (toggle ++ String.join ((page.interpClaims key).map (renderClaim · false)) ++ "</div>")) :=
    ((hrow.append_left _).append_right _).htmlIf (ne_empty_of_mem h)
  rw [hpane]
  exact (((hfold.append_left _).append_right _).append_right _).htmlIf hshown

/-- The contaminated claims have a fold of their own. -/
theorem claimsPane_contam (page : ResultsPage) (i : Nat) (key : String) :
    ∃ opening toggle : String, page.claimsPane i key =
      htmlIf (!(page.sectionClaims key).isEmpty || !(page.sectionContam key).isEmpty)
        (opening ++ htmlIf (!(page.sectionContam key).isEmpty) (toggle ++
          String.join ((page.sectionContam key).map (renderClaim · true)) ++ "</div>") ++
            "</div>") := ⟨_,_,rfl⟩

theorem within_contam (h : c ∈ page.sectionContam key) :
    Within (renderClaim c true) (page.claimsPane i key) := by
  obtain ⟨opening,toggle,hpane⟩ := claimsPane_contam page i key
  have hshown := shown_of_mem (List.mem_append_right (page.sectionClaims key) h)
  have hrow := within_rows (renderClaim · true) h
  have hfold : Within (renderClaim c true) (htmlIf (!(page.sectionContam key).isEmpty)
      (toggle ++ String.join ((page.sectionContam key).map (renderClaim · true)) ++ "</div>")) :=
    ((hrow.append_left _).append_right _).htmlIf (ne_empty_of_mem h)
  rw [hpane]
  exact ((hfold.append_left _).append_right _).htmlIf hshown

theorem within_explorer {s : String × String × String} (hs : s ∈ sectionMeta)
    (h : ∀ i, Within part (page.claimsPane i s.1)) : Within part page.explorer := by
  obtain ⟨i,hi,rfl⟩ := List.mem_iff_getElem.mp hs
  have hpane : page.claimsPane i sectionMeta[i].1 ∈
      sectionMeta.mapIdx (fun i s => page.claimsPane i s.1) :=
    List.mem_mapIdx.mpr ⟨i,hi,rfl⟩
  exact (((h i).join hpane).append_left _).append_right _

/-- Every claim of a report can be read in the explorer, the contaminated ones marked as such. -/
theorem claim_within_explorer {report : AIReport} {documentPeriod requestedPeriod : Json}
    {claim : AIClaim String} (hclaim : claim ∈ report.claims) :
    Within (renderClaim (serializeClaim claim) claim.contaminated)
      (summaryPage report documentPeriod requestedPeriod).explorer := by
  have hlisted : serializeClaim claim ∈
      (summaryPage report documentPeriod requestedPeriod).explored :=
    explored_perm.mem_iff.mpr (List.mem_map_of_mem hclaim)
  obtain ⟨s,hs,hplace⟩ := List.mem_flatMap.mp hlisted
  rw [List.mem_append, List.mem_append] at hplace
  have hclean : serializeClaim claim ∈
      (summaryPage report documentPeriod requestedPeriod).sectionClaims s.1 →
        claim.contaminated = false := by
    intro hmem
    have hkept := (List.mem_filter.mp (List.mem_filter.mp (mem_sectionClaims.mp hmem)).1).2
    rw [isTrue_contaminated] at hkept
    simpa using hkept
  rcases hplace with (hfact | hinterp) | hcontam
  · rw [hclean (List.mem_filter.mp hfact).1]
    exact within_explorer hs (fun i => within_fact hfact)
  · rw [hclean (List.mem_filter.mp hinterp).1]
    exact within_explorer hs (fun i => within_interp hinterp)
  · have hmarked := (List.mem_filter.mp (List.mem_filter.mp hcontam).1).2
    rw [isTrue_contaminated] at hmarked
    rw [hmarked]
    exact within_explorer hs (fun i => within_contam hcontam)

end Written

section Layers

variable {report : AIReport} {d : ServedDashboard} (hdashboard : report.dashboard = d.json)
  (documentPeriod requestedPeriod : Json)
include hdashboard

theorem dashboard_summaryPage :
    (summaryPage report documentPeriod requestedPeriod).dashboard = d.json := by
  obtain ⟨fields,hfields⟩ := d.object
  have hkept : report.dashboard.orElse (.obj []) = d.json := by
    rw [hdashboard, hfields]
    cases fields <;> rfl
  change jsOr (some (report.dashboard.orElse (.obj []))) (.obj []) = d.json
  rw [hkept, hfields]
  rfl

/-- A dashboard that meets its contract is shown in full, under the conclusion that is drawn from
it. -/
theorem renderResults_valid (hvalid : report.dashboardContractValid = true) :
    let page := summaryPage report documentPeriod requestedPeriod
    renderResults (.obj (serializeSummaryResponse report documentPeriod requestedPeriod)) =
      page.header ++ (d.card (shownClaims report)).html ++ page.decisionBanner ++
        page.temporalBanner ++ page.mainLayers ++ page.keyFindingsSection ++ page.reviewPanel ++
        page.explorer := by
  intro page
  have hpage : page.dashboard = d.json :=
    dashboard_summaryPage hdashboard documentPeriod requestedPeriod
  have hrisks : page.riskRows = d.riskRows := by
    change listUnder "risk_surface" page.dashboard = d.riskRows
    rw [hpage]
    rfl
  have hhigh : page.highRisk = d.highRisk := by
    change page.riskRows.filter (hasText "severity" "high") = d.highRisk
    rw [hrisks]
    rfl
  have hchanged : page.whatChanged = d.whatChanged := by
    change listUnder "what_changed" page.dashboard = d.whatChanged
    rw [hpage]
    rfl
  have hadjustments : listUnder "adjustments" page.dashboard = d.adjustments := by
    rw [hpage]
    rfl
  have hcontract : page.contractInvalid = false := by
    change (some (Json.bool report.dashboardContractValid) == some (.bool false)) = false
    rw [hvalid]
    rfl
  have hcard : computeNarrative page.data page.highRisk page.riskRows page.cleanClaims
      page.whatChanged = d.card (shownClaims report) := by
    have hadjustments' : listUnder "adjustments"
        (jsOr (page.data.field? "dashboard") (.obj [])) = d.adjustments := hadjustments
    unfold computeNarrative
    rw [hchanged, hrisks, hhigh]
    simp only [hadjustments']
    rfl
  have hrender : renderResults
      (.obj (serializeSummaryResponse report documentPeriod requestedPeriod)) =
        page.header ++ page.contractAlert ++
          (computeNarrative page.data page.highRisk page.riskRows page.cleanClaims
            page.whatChanged).html ++
          page.decisionBanner ++ page.temporalBanner ++
          htmlIf (!page.contractInvalid) page.mainLayers ++ page.keyFindingsSection ++
          page.reviewPanel ++ page.explorer := rfl
  have hnoAlert : page.contractAlert = "" := by
    rw [ResultsPage.contractAlert, hcontract, htmlIf, if_neg Bool.false_ne_true]
  rw [hrender, hcard, hnoAlert, String.append_empty, hcontract, Bool.not_false, htmlIf, if_pos rfl]

end Layers

end FinancialPdfReader
