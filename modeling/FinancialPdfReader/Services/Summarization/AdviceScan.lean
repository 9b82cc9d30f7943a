import FinancialPdfReader.Core.Governance
import FinancialPdfReader.Services.Summarization.Saved

namespace FinancialPdfReader

open Py

/-- The phrases of the audit in which the scan of the reply finds nothing. -/
def unguardedPhrases : List String :=
  r4AdvicePhrases.filter (fun p => !anyIn investmentAdviceGuardPhrases (lower p))

example : unguardedPhrases = ["investment advice","target price"] := by decide +kernel

/-- Every other phrase of the audit takes a phrase of the guard along wherever it stands. -/
theorem checkInvestmentAdvice_of_phrase {p text : String} (hp : p ∈ r4AdvicePhrases)
    (hguarded : p ∉ unguardedPhrases) (h : isIn (lower p) (lower text) = true) :
    checkInvestmentAdvice text = true := by
  have hany : anyIn investmentAdviceGuardPhrases (lower p) = true := by
    by_contra hnone
    exact hguarded (List.mem_filter.mpr ⟨hp,by simpa using hnone⟩)
  obtain ⟨g,hg,hin⟩ := List.any_eq_true.mp hany
  exact List.any_eq_true.mpr ⟨g,hg,isIn_trans hin h⟩

/-- The scan of the reply is at least as strict as that of the claims. -/
def ScanCovers (report : AIReport) : Prop :=
  (∃ c ∈ report.claims, ∃ v, checkR4Claim (.str c.claimId) (.str c.claim) = .ok (some v)) →
    report.investmentAdviceDetected = true

/-- The phrases of the audit that the items hold are ones the guard knows, and they stand in the
reply as they are, not behind escapes of the JSON text. -/
def PhrasesReadable (rawText : String) (items : List Json) : Prop :=
  ∀ item ∈ items, ∀ text, item.getD "claim" (.str "") = .str text →
    ∀ p ∈ r4AdvicePhrases, isIn (lower p) (lower text) = true →
      p ∉ unguardedPhrases ∧ isIn (lower p) (lower rawText) = true

private theorem flagged_iff {report : AIReport} {items : List Json}
    (h : List.Forall₂ (fun item (c : AIClaim String) =>
      item.getD "claim" (.str "") = .str c.claim) items report.claims) :
    (∃ c ∈ report.claims, ∃ v, checkR4Claim (.str c.claimId) (.str c.claim) = .ok (some v)) ↔
      ∃ item ∈ items, ∃ text, item.getD "claim" (.str "") = .str text ∧
        ∃ p ∈ r4AdvicePhrases, isIn (lower p) (lower text) = true := by
  have hnone := forall_mem_iff_of_forall₂
    (P := fun item => ¬ ∃ text, item.getD "claim" (.str "") = .str text ∧
      ∃ p ∈ r4AdvicePhrases, isIn (lower p) (lower text) = true)
    (Q := fun c => ¬ ∃ v, checkR4Claim (.str c.claimId) (.str c.claim) = .ok (some v)) h ?_
  · simpa using (not_congr hnone).symm
  · intro item c hclaim
    rw [checkR4Claim, checkPhrases_flags_iff, hclaim]
    simp

/-- The claims are scanned as they are decoded and the reply as it was sent, with another list:
a finding in a claim is sure to be one in the reply only where the reply can be read. -/
theorem generateSummary_advice_iff {uuid4 : Nat → String} {now : Nat} {reply : ModelReply}
    {db saved : Database} {documentId rawText : String} {rawJson : Json} {items : List Json}
    {post : List (String × Json)} (hreply : readReply reply = .ok (rawText,rawJson))
    (hitems : claimItems rawJson = .ok items)
    (h : generateSummary uuid4 now reply db documentId = .ok (saved,post)) :
    ∃ report, saved.aiReports = db.aiReports ++ [report] ∧
      (ScanCovers report ↔
        anyIn investmentAdviceGuardPhrases (lower rawText) = true ∨
          PhrasesReadable rawText items) := by
  obtain ⟨run,rfl,-⟩ := generateSummary_eq_ok h
  obtain ⟨rfl,rfl⟩ : run.rawText = rawText ∧ run.rawJson = rawJson :=
    Prod.mk.inj (Except.ok.inj (run.read.symm.trans hreply))
  obtain ⟨chunks,note,summary,hreport⟩ := run.built
  have hdetected : run.report.investmentAdviceDetected = checkInvestmentAdvice run.rawText := by
    rw [hreport, summaryReport]
  have htexts : List.Forall₂ (fun item (c : AIClaim String) =>
      item.getD "claim" (.str "") = .str c.claim) items run.report.claims := by
    apply (run.claims_governed hitems).imp
    intro item c hparts
    obtain ⟨uuid,raw,implied,terms,hraw,hc⟩ := hparts
    exact hraw.claim.symm.trans (congrArg AIClaim.claim hc).symm
  refine ⟨run.report,rfl,?_⟩
  rw [ScanCovers, flagged_iff htexts, hdetected, checkInvestmentAdvice]
  constructor
  · intro hcovers
    by_cases hguard : anyIn investmentAdviceGuardPhrases (lower run.rawText) = true
    · exact Or.inl hguard
    · refine Or.inr ?_
      intro item hitem text htext p hp hin
      exact absurd (hcovers ⟨item,hitem,text,htext,p,hp,hin⟩) hguard
  · intro hreadable hflagged
    rcases hreadable with hguard | hreadable
    · exact hguard
    · obtain ⟨item,hitem,text,htext,p,hp,hin⟩ := hflagged
      obtain ⟨hguarded,hwritten⟩ := hreadable item hitem text htext p hp hin
      exact checkInvestmentAdvice_of_phrase hp hguarded hwritten

/-- One claim with advice in a phrase that the guard does not know. -/
def targetPriceReply : ModelReply := .text
  "\x7b\"claims\": [\x7b\"claim_id\": \"c1\", \"claim\": \"The target price is 100\"\x7d]\x7d"

private theorem targetPrice_run : ∃ saved post report,
    generateSummary (fun _ => "r1") 0 targetPriceReply ingestedDb "d1" = .ok (saved,post) ∧
    saved.aiReports = ingestedDb.aiReports ++ [report] ∧
    report.claims.any (fun c => isIn (lower "target price") (lower c.claim)) = true ∧
    report.investmentAdviceDetected = false := by
  have hrun : (fun r => r.1.aiReports.map (fun report =>
      (report.claims.any (fun c => isIn (lower "target price") (lower c.claim)),
        report.investmentAdviceDetected))) <$>
      generateSummary (fun _ => "r1") 0 targetPriceReply ingestedDb "d1" =
        .ok [(true,false)] := by decide +kernel
  obtain ⟨⟨saved,post⟩,h,hshape⟩ := map_eq_ok.mp hrun
  obtain ⟨report,hreport,hflags⟩ := List.map_eq_singleton_iff.mp hshape
  obtain ⟨hflagged,hdetected⟩ := Prod.mk.inj hflags
  exact ⟨saved,post,report,h,hreport,hflagged,hdetected⟩

theorem generateSummary_advice_iff_targetPrice : ∃ rawText rawJson items saved post report,
    readReply targetPriceReply = .ok (rawText,rawJson) ∧ claimItems rawJson = .ok items ∧
    generateSummary (fun _ => "r1") 0 targetPriceReply ingestedDb "d1" = .ok (saved,post) ∧
    saved.aiReports = ingestedDb.aiReports ++ [report] ∧
    (ScanCovers report ↔
      anyIn investmentAdviceGuardPhrases (lower rawText) = true ∨
        PhrasesReadable rawText items) := by
  obtain ⟨saved,post,-,h,-⟩ := targetPrice_run
  obtain ⟨rawText,rawJson,items,hreply,hitems⟩ := generateSummary_items h
  obtain ⟨report,hreport,hiff⟩ := generateSummary_advice_iff hreply hitems h
  exact ⟨rawText,rawJson,items,saved,post,report,hreply,hitems,h,hreport,hiff⟩

/-- The audit finds the target price that the report does not own up to. -/
theorem targetPrice_undetected : ∃ saved post report,
    generateSummary (fun _ => "r1") 0 targetPriceReply ingestedDb "d1" = .ok (saved,post) ∧
    saved.aiReports = ingestedDb.aiReports ++ [report] ∧ ¬ ScanCovers report := by
  obtain ⟨saved,post,report,h,hreport,hflagged,hdetected⟩ := targetPrice_run
  refine ⟨saved,post,report,h,hreport,?_⟩
  intro hcovers
  obtain ⟨c,hc,hin⟩ := List.any_eq_true.mp hflagged
  have hphrase : "target price" ∈ r4AdvicePhrases := by decide
  have hfound := hcovers ⟨c,hc,checkPhrases_flags_iff.mpr ⟨_,hphrase,hin⟩⟩
  rw [hdetected] at hfound
  exact absurd hfound Bool.false_ne_true

end FinancialPdfReader
