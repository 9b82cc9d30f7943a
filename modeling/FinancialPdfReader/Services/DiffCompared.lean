import FinancialPdfReader.Services.DiffSections

namespace FinancialPdfReader

open Py

/-- A comparison was obtained: the call answered, the answer was parsed, and its items were read
to the end. -/
def ComparisonObtained (uuid4 : String → Nat → String) (reply : String → SectionReply)
    (currentDocumentId previousDocumentId s : String) : Prop :=
  (∃ rawText rawJson, reply s = .text rawText ∧ sectionJson rawText = some rawJson) ∧
    ∃ found, diffSection (uuid4 s) s currentDocumentId previousDocumentId (reply s) = .ok found

/-- A reply that can be read to its end. -/
def ReplyRead (reply : SectionReply) : Prop :=
  ∃ rawText rawJson items, reply = .text rawText ∧ sectionJson rawText = some rawJson ∧
    diffItemsOf rawJson = .ok items ∧ ∀ item ∈ items, ReadableItem item

section Report

variable {uuid4 : String → Nat → String} {now : Nat} {reply : String → SectionReply}
  {db saved : Database} {currentDocumentId previousDocumentId : String} {report : DiffReport}

theorem comparisonObtained_iff (s : String) :
    ComparisonObtained uuid4 reply currentDocumentId previousDocumentId s ↔
      ReplyRead (reply s) := by
  constructor
  · intro hobtained
    obtain ⟨⟨rawText,rawJson,hreply,hjson⟩,hfound⟩ := hobtained
    have hparsed : replyItems (reply s) = diffItemsOf rawJson := by
      simp only [replyItems, hreply, hjson]
    obtain ⟨items,hitems,-⟩ := bind_eq_ok.mp hfound.choose_spec
    exact ⟨rawText,rawJson,items,hreply,hjson,hparsed.symm.trans hitems,
      (diffSection_isOk_iff s hitems).mp hfound⟩
  · intro hread
    obtain ⟨rawText,rawJson,items,hreply,hjson,hlisted,hreadable⟩ := hread
    have hitems : replyItems (reply s) = .ok items := by
      simp only [replyItems, hreply, hjson, hlisted]
    exact ⟨⟨rawText,rawJson,hreply,hjson⟩,(diffSection_isOk_iff s hitems).mpr hreadable⟩

/-- A saved report names only sections that were compared exactly when the replies for all
sections of both documents can be read to their ends. -/
theorem sectionsCompared_obtained_iff
    (h : generateDiff uuid4 now reply db currentDocumentId previousDocumentId =
      .ok (saved,report)) :
    (∀ s ∈ report.sectionsCompared,
        ComparisonObtained uuid4 reply currentDocumentId previousDocumentId s) ↔
      ∀ s, IsNamed s → OccursIn db currentDocumentId s → OccursIn db previousDocumentId s →
        ReplyRead (reply s) := by
  rw [(generateDiff_lists h).1]
  constructor
  · intro hobtained s hnamed hcurrent hprevious
    exact (comparisonObtained_iff s).mp
      (hobtained s (mem_sharedSections_iff.mpr ⟨hnamed,hcurrent,hprevious⟩))
  · intro hread s hs
    obtain ⟨hnamed,hcurrent,hprevious⟩ := mem_sharedSections_iff.mp hs
    exact (comparisonObtained_iff s).mpr (hread s hnamed hcurrent hprevious)

/-- A section of both documents whose reply cannot be read is named as compared, and nothing
stands among the items for it. -/
theorem unread_section_compared
    (h : generateDiff uuid4 now reply db currentDocumentId previousDocumentId =
      .ok (saved,report)) {s : String}
    (hs : s ∈ sharedSections db currentDocumentId previousDocumentId)
    (hread : ¬ReplyRead (reply s)) :
    s ∈ report.sectionsCompared ∧ ∀ v ∈ report.items, v.sectionName ≠ s := by
  refine ⟨by rw [(generateDiff_lists h).1]; exact hs,?_⟩
  intro v hv hsection
  obtain ⟨found,hfound,hne⟩ := section_read hs h hv hsection
  apply hread
  apply (comparisonObtained_iff s).mp
  refine ⟨?_,found,hfound⟩
  cases hreply : reply s with
  | raised error =>
    rw [diffSection, hreply] at hfound
    cases hfound
  | text rawText =>
    cases hjson : sectionJson rawText with
    | some rawJson => exact ⟨rawText,rawJson,rfl,hjson⟩
    | none =>
      have hnone : replyItems (reply s) = .ok [] := by simp only [replyItems, hreply, hjson]
      rw [diffSection, hnone] at hfound
      exact absurd (Except.ok.inj hfound).symm hne

end Report

theorem sectionsCompared_obtained_iff_quartersDb : ∃ saved report,
    generateDiff (fun s _ => s) 0 (fun _ => toneShiftReply) quartersDb "d1" "d2" =
      .ok (saved,report) ∧
    ((∀ s ∈ report.sectionsCompared,
        ComparisonObtained (fun s _ => s) (fun _ => toneShiftReply) "d1" "d2" s) ↔
      ∀ s, IsNamed s → OccursIn quartersDb "d1" s → OccursIn quartersDb "d2" s →
        ReplyRead toneShiftReply) := by
  obtain ⟨⟨saved,report⟩,h⟩ := exists_ok_of_isOk
    (x := generateDiff (fun s _ => s) 0 (fun _ => toneShiftReply) quartersDb "d1" "d2")
    (by decide +kernel)
  exact ⟨saved,report,h,sectionsCompared_obtained_iff h⟩

/-- The call for the one section of both quarters fails, and the saved report names it as
compared, with no difference. -/
theorem failed_section_compared : ∃ saved report,
    generateDiff (fun s _ => s) 0 (fun _ => .raised (.libraryError "timeout")) quartersDb
        "d1" "d2" = .ok (saved,report) ∧ report ∈ saved.diffReports ∧ report.items = [] ∧
      "營收" ∈ report.sectionsCompared ∧
      ¬ComparisonObtained (fun s _ => s) (fun _ => .raised (.libraryError "timeout")) "d1" "d2"
        "營收" := by
  have hrun : (fun r => (r.2.items.length,r.2.sectionsCompared)) <$>
      generateDiff (fun s _ => s) 0 (fun _ => .raised (.libraryError "timeout")) quartersDb
        "d1" "d2" = .ok (0,["營收"]) := by decide +kernel
  obtain ⟨⟨saved,report⟩,h,hlists⟩ := map_eq_ok.mp hrun
  obtain ⟨hitems,hsections⟩ := Prod.mk.inj hlists
  refine ⟨saved,report,h,?_,List.length_eq_zero_iff.mp hitems,?_,?_⟩
  · rw [(generateDiff_eq_ok h).2.2]
    exact List.mem_append_right _ (List.mem_singleton_self report)
  · rw [show report.sectionsCompared = ["營收"] from hsections]
    exact List.mem_singleton_self _
  · intro hobtained
    obtain ⟨⟨rawText,rawJson,hreply,-⟩,-⟩ := hobtained
    cases hreply

end FinancialPdfReader
