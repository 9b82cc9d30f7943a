import FinancialPdfReader.Services.Summarization.Saved

namespace FinancialPdfReader

open Py

/-- An item whose claim an inconsistent time axis contaminates: derived from something that it
quotes, and not contaminated before. -/
structure Taintable (item : Json) : Prop where
  evidence : (item.getD "evidence" (.arr [])).truthy = true
  notFact : item.getD "claim_level" (.str "interpretation") ≠ .str "observed_fact"
  notGap : item.getD "claim_level" (.str "interpretation") ≠ .str "insufficient_evidence"
  clean : (item.getD "contaminated" (.bool false)).truthy = false

/-- The claim is as contaminated as the model said. -/
def Untouched (item : Json) (c : AIClaim String) : Prop :=
  c.contaminated = (item.getD "contaminated" (.bool false)).truthy

theorem RawClaim.IsReadFrom.derived_iff {raw : RawClaim} {uuid documentId : String}
    {item : Json} (h : raw.IsReadFrom uuid documentId item) :
    (requireEvidence raw.evidence raw.claimLevel).isDerived = true ↔
      (item.getD "evidence" (.arr [])).truthy = true ∧
      item.getD "claim_level" (.str "interpretation") ≠ .str "observed_fact" ∧
      item.getD "claim_level" (.str "interpretation") ≠ .str "insufficient_evidence" := by
  have hfact := Choices.read_eq_ok_of_ne_default ClaimLevel.interpretation .observedFact
    (item.getD "claim_level" (.str "interpretation")) (by decide)
  have hgap := Choices.read_eq_ok_of_ne_default ClaimLevel.interpretation .insufficientEvidence
    (item.getD "claim_level" (.str "interpretation")) (by decide)
  rw [h.claimLevel, Except.ok.injEq] at hfact hgap
  have hevidence : (item.getD "evidence" (.arr [])).truthy = true ↔ raw.evidence ≠ [] := by
    rw [ne_eq, h.evidence_eq_nil_iff, Bool.not_eq_false]
  change raw.claimLevel = .observedFact ↔
    item.getD "claim_level" (.str "interpretation") = .str "observed_fact" at hfact
  change raw.claimLevel = .insufficientEvidence ↔
    item.getD "claim_level" (.str "interpretation") = .str "insufficient_evidence" at hgap
  simp only [hevidence, ne_eq, ← hfact, ← hgap]
  cases raw.evidence <;> cases raw.claimLevel <;>
    simp [requireEvidence, ClaimLevel.isDerived]

/-- What the temporal guard leaves alone. -/
theorem governed_untouched_iff {raw : RawClaim} {uuid documentId : String} {item : Json}
    (h : raw.IsReadFrom uuid documentId item) (temporalConsistent implied : Bool)
    (terms : List String) :
    (governed temporalConsistent raw implied terms).contaminated =
        (item.getD "contaminated" (.bool false)).truthy ↔
      temporalConsistent = true ∨ ¬ Taintable item := by
  have hderived := h.derived_iff
  simp only [governed, boolField_false, taintDerived, ← h.contaminated]
  cases temporalConsistent with
  | true => simp
  | false =>
    cases hlevel : (requireEvidence raw.evidence raw.claimLevel).isDerived with
    | false =>
      rw [hlevel] at hderived
      have hnot : ¬ Taintable item := fun ht =>
        absurd (hderived.mpr ⟨ht.evidence,ht.notFact,ht.notGap⟩) Bool.false_ne_true
      simp [hnot]
    | true =>
      obtain ⟨hevidence,hfact,hgap⟩ := hderived.mp hlevel
      have htaintable : Taintable item ↔ raw.contaminated.truthy = false := by
        constructor
        · intro ht
          rw [h.contaminated]
          exact ht.clean
        · intro hclean
          exact ⟨hevidence,hfact,hgap,h.contaminated ▸ hclean⟩
      rw [htaintable]
      cases raw.contaminated.truthy <;> simp

/-- A document without a period has no time axis to break, and one with a period keeps the break
that the model reports. -/
structure KeepsPeriod (period : String) (isConsistent : Json) (items : List Json)
    (report : AIReport) : Prop where
  unknown : period = "UNKNOWN" →
    report.temporalConsistent = true ∧ List.Forall₂ Untouched items report.claims
  supplied : period ≠ "UNKNOWN" → isConsistent = .bool false → report.temporalConsistent = false

/-- What the model's own words have to be for the guard to go by the document: `None` for the
consistency is saved as consistent, but contaminates as inconsistent. -/
structure EchoesPeriod (period : String) (given : Json) (items : List Json) : Prop where
  unknown : period = "UNKNOWN" →
    requestedMissing (given.getD "requested_period" (.str period)) = true ∨
    (given.getD "is_consistent" (.bool true)).truthy = true ∨
    given.getD "is_consistent" (.bool true) = .null ∧ ∀ item ∈ items, ¬ Taintable item
  supplied : period ≠ "UNKNOWN" → given.getD "is_consistent" (.bool true) = .bool false →
    requestedMissing (given.getD "requested_period" (.str period)) = false

theorem boolField_true_iff (x : Json) : boolField true x = true ↔ x.truthy = true ∨ x = .null := by
  cases x <;> simp [boolField]

private theorem keepsPeriod_missing_iff {period : String} {given : Json} {items : List Json}
    {report : AIReport}
    (hmissing : requestedMissing (given.getD "requested_period" (.str period)) = true)
    (hflag : report.temporalConsistent = true)
    (hclaims : List.Forall₂ Untouched items report.claims) :
    KeepsPeriod period (given.getD "is_consistent" (.bool true)) items report ↔
      EchoesPeriod period given items := by
  constructor
  · intro hkeeps
    refine ⟨fun _ => Or.inl hmissing,?_⟩
    intro hperiod hfalse
    exact absurd (hflag.symm.trans (hkeeps.supplied hperiod hfalse)) (by decide)
  · intro hechoes
    refine ⟨fun _ => ⟨hflag,hclaims⟩,?_⟩
    intro hperiod hfalse
    exact absurd (hmissing.symm.trans (hechoes.supplied hperiod hfalse)) (by decide)

private theorem keepsPeriod_present_iff {period : String} {given : Json} {items : List Json}
    {report : AIReport}
    (hpresent : requestedMissing (given.getD "requested_period" (.str period)) = false)
    (hflag : report.temporalConsistent =
      boolField true (given.getD "is_consistent" (.bool true)))
    (hclaims : List.Forall₂ Untouched items report.claims ↔ ∀ item ∈ items,
      (given.getD "is_consistent" (.bool true)).truthy = true ∨ ¬ Taintable item) :
    KeepsPeriod period (given.getD "is_consistent" (.bool true)) items report ↔
      EchoesPeriod period given items := by
  constructor
  · intro hkeeps
    refine ⟨?_,fun _ _ => hpresent⟩
    intro hperiod
    obtain ⟨htrue,huntouched⟩ := hkeeps.unknown hperiod
    rcases (boolField_true_iff _).mp (hflag.symm.trans htrue) with htruthy | hnull
    · exact Or.inr (Or.inl htruthy)
    · refine Or.inr (Or.inr ⟨hnull,?_⟩)
      intro item hitem
      rcases hclaims.mp huntouched item hitem with htruthy | hnot
      · rw [hnull] at htruthy
        exact absurd htruthy Bool.false_ne_true
      · exact hnot
  · intro hechoes
    refine ⟨?_,?_⟩
    · intro hperiod
      rcases hechoes.unknown hperiod with hmissing | htruthy | hnull
      · exact absurd (hpresent.symm.trans hmissing) Bool.false_ne_true
      · exact ⟨hflag.trans ((boolField_true_iff _).mpr (Or.inl htruthy)),
          hclaims.mpr (fun _ _ => Or.inl htruthy)⟩
      · exact ⟨hflag.trans ((boolField_true_iff _).mpr (Or.inr hnull.1)),
          hclaims.mpr (fun item hitem => Or.inr (hnull.2 item hitem))⟩
    · intro _ hfalse
      rw [hflag, hfalse, boolField_bool]

/-- The guard asks what the model echoes, not what the document says. -/
theorem generateSummary_period_iff {uuid4 : Nat → String} {now : Nat} {reply : ModelReply}
    {db saved : Database} {documentId rawText : String} {doc : PDFDocument} {rawJson : Json}
    {items : List Json} {post : List (String × Json)}
    (hdoc : db.document? documentId = some doc)
    (hreply : readReply reply = .ok (rawText,rawJson))
    (hitems : claimItems rawJson = .ok items)
    (h : generateSummary uuid4 now reply db documentId = .ok (saved,post)) :
    ∃ report, saved.aiReports = db.aiReports ++ [report] ∧
      (KeepsPeriod doc.period ((rawJson.getD "temporal_validation" (.obj [])).getD
          "is_consistent" (.bool true)) items report ↔
        EchoesPeriod doc.period (rawJson.getD "temporal_validation" (.obj [])) items) := by
  obtain ⟨run,rfl,-⟩ := generateSummary_eq_ok h
  obtain rfl : run.doc = doc :=
    Option.some.inj ((ingestedDocument_eq_ok run.ingested).1.symm.trans hdoc)
  obtain ⟨rfl,rfl⟩ : run.rawText = rawText ∧ run.rawJson = rawJson :=
    Prod.mk.inj (Except.ok.inj (run.read.symm.trans hreply))
  obtain ⟨chunks,note,summary,hreport⟩ := run.built
  have hflag : run.report.temporalConsistent = boolField true run.tv.temporalConsistent := by
    rw [hreport, summaryReport]
  have hclaims : List.Forall₂ Untouched items run.report.claims ↔
      ∀ item ∈ items, run.tv.temporalConsistent.truthy = true ∨ ¬ Taintable item := by
    apply forall₂_iff_of_forall₂ (run.claims_governed hitems)
    intro item c hparts
    obtain ⟨uuid,raw,implied,terms,hraw,hc⟩ := hparts
    rw [Untouched, ← governed_untouched_iff hraw run.tv.temporalConsistent.truthy implied terms,
      ← hc]
    rfl
  refine ⟨run.report,rfl,?_⟩
  have htv := validateTemporal_eq_ok run.temporal
  dsimp only at htv
  split at htv
  · rename_i hmissing
    rw [htv] at hflag hclaims
    exact keepsPeriod_missing_iff hmissing hflag (hclaims.mpr (fun _ _ => Or.inl rfl))
  · rename_i hpresent
    rw [htv] at hflag hclaims
    exact keepsPeriod_present_iff (Bool.not_eq_true _ ▸ hpresent) hflag hclaims

/-- The ingested document, uploaded without a period. -/
def undatedDb : Database := { Database.empty with
  pdfDocuments := [⟨"d1","2330","UNKNOWN","d1.pdf",1,.completed,some 0⟩]
  pdfChunks := [⟨"k1","d1","2330","UNKNOWN",1,"營收","營收成長",4⟩] }

/-- The model makes up the period that was asked for, and finds that it is not that of the
document. -/
def inventedPeriodReply : ModelReply := .text
  "\x7b\"temporal_validation\":\x7b\"requested_period\":\"2024Q1\",\"is_consistent\":false\x7d\x7d"

/-- The model does not repeat the period that was asked for. -/
def droppedPeriodReply : ModelReply := .text
  "\x7b\"temporal_validation\": \x7b\"requested_period\": \"N/A\", \"is_consistent\": false\x7d\x7d"

theorem generateSummary_period_iff_undatedDb :
    ∃ doc rawText rawJson items saved post report,
      undatedDb.document? "d1" = some doc ∧
      readReply inventedPeriodReply = .ok (rawText,rawJson) ∧ claimItems rawJson = .ok items ∧
      generateSummary (fun _ => "r1") 0 inventedPeriodReply undatedDb "d1" = .ok (saved,post) ∧
      saved.aiReports = undatedDb.aiReports ++ [report] ∧
      (KeepsPeriod doc.period ((rawJson.getD "temporal_validation" (.obj [])).getD
          "is_consistent" (.bool true)) items report ↔
        EchoesPeriod doc.period (rawJson.getD "temporal_validation" (.obj [])) items) := by
  obtain ⟨⟨saved,post⟩,h⟩ := exists_ok_of_isOk
    (x := generateSummary (fun _ => "r1") 0 inventedPeriodReply undatedDb "d1")
    (by decide +kernel)
  obtain ⟨rawText,rawJson,items,hreply,hitems⟩ := generateSummary_items h
  obtain ⟨report,hreport,hiff⟩ := generateSummary_period_iff
    (show undatedDb.document? "d1" = some ⟨"d1","2330","UNKNOWN","d1.pdf",1,.completed,some 0⟩
      by decide) hreply hitems h
  exact ⟨_,rawText,rawJson,items,saved,post,report,by decide,hreply,hitems,h,hreport,hiff⟩

/-- The undated document is reported as inconsistent, and the break of the dated one is cleared. -/
theorem echoed_period_decides :
    (∃ saved post report,
      generateSummary (fun _ => "r1") 0 inventedPeriodReply undatedDb "d1" = .ok (saved,post) ∧
      saved.aiReports = [report] ∧
      ∀ items, ¬ KeepsPeriod "UNKNOWN" (.bool false) items report) ∧
    ∃ saved post report,
      generateSummary (fun _ => "r1") 0 droppedPeriodReply ingestedDb "d1" = .ok (saved,post) ∧
      saved.aiReports = [report] ∧
      ∀ items, ¬ KeepsPeriod "2026Q1" (.bool false) items report := by
  have hundated : (fun r => r.1.aiReports.map (·.temporalConsistent)) <$>
      generateSummary (fun _ => "r1") 0 inventedPeriodReply undatedDb "d1" = .ok [false] := by
    decide +kernel
  have hdated : (fun r => r.1.aiReports.map (·.temporalConsistent)) <$>
      generateSummary (fun _ => "r1") 0 droppedPeriodReply ingestedDb "d1" = .ok [true] := by
    decide +kernel
  constructor
  · obtain ⟨⟨saved,post⟩,h,hflags⟩ := map_eq_ok.mp hundated
    obtain ⟨report,hreport,hflag⟩ := List.map_eq_singleton_iff.mp hflags
    refine ⟨saved,post,report,h,hreport,?_⟩
    intro items hkeeps
    exact absurd (hflag.symm.trans (hkeeps.unknown rfl).1) (by decide)
  · obtain ⟨⟨saved,post⟩,h,hflags⟩ := map_eq_ok.mp hdated
    obtain ⟨report,hreport,hflag⟩ := List.map_eq_singleton_iff.mp hflags
    refine ⟨saved,post,report,h,hreport,?_⟩
    intro items hkeeps
    exact absurd (hflag.symm.trans (hkeeps.supplied (by decide) rfl)) (by decide)

end FinancialPdfReader
