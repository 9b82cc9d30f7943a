import FinancialPdfReader.Services.DiffAudit

namespace FinancialPdfReader

open Py

def IsText (x : Json) : Prop := ∃ t, x = .str t

/-- What of an item is saved as a text of its own. -/
def textsOf (item : Json) : List Json :=
  item.getD "diff_id" (.str "") :: item.getD "description" (.str "") :: quotesOf item

/-- An item that names a page and has texts where texts are expected. -/
structure WellFormedItem (item : Json) : Prop where
  isObj : ∃ fields, item = .obj fields
  evidenceObj : ∃ fields, evidenceOf item = .obj fields
  hasPage : HasPage item
  texts : ∀ x ∈ textsOf item, IsText x
  diffType : IsText (item.getD "diff_type" (.str "new_language"))

/-- Every item that the loops make of the replies can be saved. -/
def StorableReplies (reply : String → SectionReply) (sections : List String) : Prop :=
  ∀ s ∈ sections, ∀ items, replyItems (reply s) = .ok items →
    (∀ item ∈ items, ReadableItem item) →
    ∀ item ∈ items, HasPage item → ∀ x ∈ textsOf item, IsText x

theorem WellFormedItem.readable {item : Json} (h : WellFormedItem item) : ReadableItem item where
  isObj := h.isObj
  evidenceObj := h.evidenceObj
  quotes := by
    intro _ x hx
    obtain ⟨t,rfl⟩ := h.texts x (List.mem_cons_of_mem _ (List.mem_cons_of_mem _ hx))
    trivial
  diffType := by
    intro _
    obtain ⟨t,ht⟩ := h.diffType
    rw [ht]
    trivial

private theorem validString_isOk_iff {field : String} {x : Json} :
    (∃ s, validString field x = .ok s) ↔ IsText x := by
  simp only [validString_eq_ok, IsText]

/-- An item can be saved exactly when its texts are texts. -/
theorem DiffItem.validate_isOk_iff {i : DiffItem Json} : (∃ v, i.validate = .ok v) ↔
    IsText i.diffId ∧ IsText i.description ∧ IsText i.currentSummary ∧ IsText i.previousSummary ∧
      IsText i.evidence.currentQuoted ∧ IsText i.evidence.previousQuoted := by
  constructor
  · intro hparts
    obtain ⟨v,h⟩ := hparts
    obtain ⟨diffId,h1,h⟩ := bind_eq_ok.mp h
    obtain ⟨description,h2,h⟩ := bind_eq_ok.mp h
    obtain ⟨currentSummary,h3,h⟩ := bind_eq_ok.mp h
    obtain ⟨previousSummary,h4,h⟩ := bind_eq_ok.mp h
    obtain ⟨evidence,h5,-⟩ := bind_eq_ok.mp h
    obtain ⟨currentQuoted,h6,h5⟩ := bind_eq_ok.mp h5
    obtain ⟨previousQuoted,h7,-⟩ := bind_eq_ok.mp h5
    exact ⟨validString_isOk_iff.mp ⟨_,h1⟩,validString_isOk_iff.mp ⟨_,h2⟩,
      validString_isOk_iff.mp ⟨_,h3⟩,validString_isOk_iff.mp ⟨_,h4⟩,
      validString_isOk_iff.mp ⟨_,h6⟩,validString_isOk_iff.mp ⟨_,h7⟩⟩
  · intro hparts
    obtain ⟨⟨t1,h1⟩,⟨t2,h2⟩,⟨t3,h3⟩,⟨t4,h4⟩,⟨t5,h5⟩,⟨t6,h6⟩⟩ := hparts
    have hevidence : i.evidence.validate = .ok
        { i.evidence with currentQuoted := t5, previousQuoted := t6 } := by
      rw [DiffEvidence.validate, h5, h6]
      rfl
    refine ⟨{ i with
      diffId := t1
      description := t2
      currentSummary := t3
      previousSummary := t4
      evidence := { i.evidence with currentQuoted := t5, previousQuoted := t6 } },?_⟩
    rw [DiffItem.validate, h1, h2, h3, h4, hevidence]
    rfl

/-- A piece of a text is a text, and a piece of anything else is none. -/
private theorem readQuote_text_iff {item y : Json} {key : String} {n : Nat}
    (h : readQuote item key n = .ok y) :
    IsText (stringField "" y) ↔ IsText (item.getD key (.str "")) := by
  obtain ⟨x,hx,hslice⟩ := bind_eq_ok.mp h
  rw [← (Json.get_eq_ok.mp hx).2]
  cases x with
  | str t =>
    obtain rfl := Except.ok.inj hslice
    exact iff_of_true ⟨_,rfl⟩ ⟨_,rfl⟩
  | arr xs =>
    obtain rfl := Except.ok.inj hslice
    simp [IsText, stringField]
  | null | bool | int | float | obj => exact absurd hslice (by simp [Json.slice])

section Item

variable {uuid sectionName currentDocumentId previousDocumentId : String} {item : Json}

/-- What the saved fields of an item are made of. -/
theorem diffItem_some {i : DiffItem Json}
    (h : diffItem uuid sectionName currentDocumentId previousDocumentId item = .ok (some i)) :
    i.sectionName = sectionName ∧
      ((∃ v, i.validate = .ok v) ↔ ∀ x ∈ textsOf item, IsText x) := by
  obtain ⟨hobj,-,hread⟩ := diffItem_eq_some h
  obtain ⟨currentQuoted,hq1,h⟩ := bind_eq_ok.mp hread
  obtain ⟨previousQuoted,hq2,h⟩ := bind_eq_ok.mp h
  obtain ⟨diffType,-,h⟩ := bind_eq_ok.mp h
  obtain ⟨diffId,hid,h⟩ := bind_eq_ok.mp h
  obtain ⟨description,hdescription,h⟩ := bind_eq_ok.mp h
  obtain ⟨currentSummary,hq3,h⟩ := bind_eq_ok.mp h
  obtain ⟨previousSummary,hq4,h⟩ := bind_eq_ok.mp h
  obtain ⟨toneOnly,-,h⟩ := bind_eq_ok.mp h
  obtain ⟨requiresHumanReview,-,h⟩ := bind_eq_ok.mp h
  cases h
  refine ⟨rfl,?_⟩
  have hdiffId : IsText diffId ↔ IsText (item.getD "diff_id" (.str "")) := by
    rw [(Json.get_eq_ok.mp hid).2, Json.getD, Json.getD]
    cases item.field? "diff_id" with
    | none => exact iff_of_true ⟨_,rfl⟩ ⟨_,rfl⟩
    | some x => rfl
  rw [DiffItem.validate_isOk_iff, hdiffId, (Json.get_eq_ok.mp hdescription).2,
    readQuote_text_iff hq1, readQuote_text_iff hq2, readQuote_text_iff hq3,
    readQuote_text_iff hq4]
  simp only [textsOf, quotesOf, List.forall_mem_cons]
  constructor
  · intro hall
    obtain ⟨h1,h2,h3,h4,h5,h6⟩ := hall
    exact ⟨h1,h2,h5,h6,h3,h4,by simp⟩
  · intro hall
    obtain ⟨h1,h2,h5,h6,h3,h4,-⟩ := hall
    exact ⟨h1,h2,h3,h4,h5,h6⟩

end Item

section Report

variable {uuid4 : String → Nat → String} {now : Nat} {reply : String → SectionReply}
  {db saved : Database} {currentDocumentId previousDocumentId s : String} {report : DiffReport}

/-- The items of a section are those that its turns find. -/
theorem mem_diffSection {items : List Json} {found : List (DiffItem Json)}
    (hitems : replyItems (reply s) = .ok items)
    (h : diffSection (uuid4 s) s currentDocumentId previousDocumentId (reply s) = .ok found)
    {i : DiffItem Json} : i ∈ found ↔ ∃ e ∈ items.zipIdx,
      diffItem (uuid4 s e.2) s currentDocumentId previousDocumentId e.1 = .ok (some i) := by
  rw [diffSection, hitems, ok_bind] at h
  obtain ⟨read,hread,h⟩ := bind_eq_ok.mp h
  cases h
  constructor
  · intro hi
    obtain ⟨f,hf,rfl⟩ := List.mem_filterMap.mp hi
    exact mapM_mem hread hf
  · intro hturn
    obtain ⟨e,he,hi⟩ := hturn
    obtain ⟨f,hf,hfe⟩ := mapM_mem_left hread he
    obtain rfl := Except.ok.inj (hi.symm.trans hfe)
    exact List.mem_filterMap.mpr ⟨some i,hf,rfl⟩

/-- An item of a shared section stands there because the section was read to its end. -/
theorem mem_sharedItems {sections : List String} {i : DiffItem Json} :
    i ∈ sharedItems uuid4 reply currentDocumentId previousDocumentId sections ↔
      ∃ s ∈ sections, ∃ found,
        diffSection (uuid4 s) s currentDocumentId previousDocumentId (reply s) = .ok found ∧
          i ∈ found := by
  rw [sharedItems, List.mem_flatMap]
  refine exists_congr fun s => and_congr_right fun _ => ?_
  cases diffSection (uuid4 s) s currentDocumentId previousDocumentId (reply s) with
  | ok items => simp
  | error e => simp

theorem sectionName_of_mem_diffSection {found : List (DiffItem Json)}
    (h : diffSection (uuid4 s) s currentDocumentId previousDocumentId (reply s) = .ok found)
    {i : DiffItem Json} (hi : i ∈ found) : i.sectionName = s := by
  obtain ⟨items,hitems,-⟩ := bind_eq_ok.mp h
  obtain ⟨e,-,hturn⟩ := (mem_diffSection hitems h).mp hi
  exact (diffItem_some hturn).1

/-- All that the shared sections give can be saved exactly when the texts of their replies are
texts. -/
theorem sharedItems_storable_iff (sections : List String) :
    (∀ i ∈ sharedItems uuid4 reply currentDocumentId previousDocumentId sections,
      ∃ v, i.validate = .ok v) ↔ StorableReplies reply sections := by
  constructor
  · intro hall s hs items hitems hreadable item hitem hpage
    have hread : ∃ found, diffSection (uuid4 s) s currentDocumentId previousDocumentId
        (reply s) = .ok found := (diffSection_isOk_iff s hitems).mpr hreadable
    obtain ⟨found,hfound⟩ := hread
    obtain ⟨e,he,rfl⟩ := exists_zipIdx_of_mem hitem
    obtain ⟨turn,hturn⟩ := diffItem_of_readable (uuid4 s e.2) s currentDocumentId
      previousDocumentId (hreadable e.1 hitem)
    cases turn with
    | none => exact absurd hpage ((diffItem_eq_ok hturn).2.1.mp rfl)
    | some i =>
      have hi := (mem_diffSection hitems hfound).mpr ⟨e,he,hturn⟩
      exact (diffItem_some hturn).2.mp (hall i (mem_sharedItems.mpr ⟨s,hs,found,hfound,hi⟩))
  · intro hstorable i hi
    obtain ⟨s,hs,found,hfound,hi⟩ := mem_sharedItems.mp hi
    obtain ⟨items,hitems,-⟩ := bind_eq_ok.mp hfound
    have hreadable := (diffSection_isOk_iff s hitems).mp ⟨found,hfound⟩
    obtain ⟨e,he,hturn⟩ := (mem_diffSection hitems hfound).mp hi
    have hitem : e.1 ∈ items := List.fst_mem_of_mem_zipIdx he
    have hpage : HasPage e.1 := by
      by_contra hno
      exact Option.some_ne_none i ((diffItem_eq_ok hturn).2.1.mpr hno)
    exact (diffItem_some hturn).2.mpr (hstorable s hs items hitems hreadable e.1 hitem hpage)

theorem mem_onlyItems {build : String → PDFChunk → DiffItem Json}
    {sections : List (String × List PDFChunk)} {i : DiffItem Json} :
    i ∈ onlyItems build sections ↔
      ∃ e ∈ sections, ∃ c ∈ e.2.head?, build e.1 c = i := by
  rw [onlyItems, List.mem_flatMap]
  refine exists_congr fun e => and_congr_right fun _ => ?_
  rw [Option.mem_toList, Option.map_eq_some_iff]
  rfl

theorem onlyCurrentItem_storable (uuid documentId sectionName : String) (first : PDFChunk) :
    ∃ v, (onlyCurrentItem uuid documentId sectionName first).validate = .ok v :=
  DiffItem.validate_isOk_iff.mpr ⟨⟨_,rfl⟩,⟨_,rfl⟩,⟨_,rfl⟩,⟨_,rfl⟩,⟨_,rfl⟩,⟨_,rfl⟩⟩

theorem onlyPreviousItem_storable (uuid documentId sectionName : String) (first : PDFChunk) :
    ∃ v, (onlyPreviousItem uuid documentId sectionName first).validate = .ok v :=
  DiffItem.validate_isOk_iff.mpr ⟨⟨_,rfl⟩,⟨_,rfl⟩,⟨_,rfl⟩,⟨_,rfl⟩,⟨_,rfl⟩,⟨_,rfl⟩⟩

/-- Two documents that can be compared give a report unless the replies hold something that
cannot be saved. -/
theorem generateDiff_isOk_iff {docs : PDFDocument × PDFDocument}
    (hdocs : comparedDocuments db currentDocumentId previousDocumentId = .ok docs)
    (hfresh : ∀ r ∈ db.diffReports, r.diffReportId ≠ uuid4 "" 0) :
    (∃ saved report, generateDiff uuid4 now reply db currentDocumentId previousDocumentId =
      .ok (saved,report)) ↔
    StorableReplies reply (sharedSections db currentDocumentId previousDocumentId) := by
  have hiff : (∀ i ∈ sharedItems uuid4 reply currentDocumentId previousDocumentId
      (sharedSections db currentDocumentId previousDocumentId), ∃ v, i.validate = .ok v) ↔
      StorableReplies reply (sharedSections db currentDocumentId previousDocumentId) :=
    sharedItems_storable_iff _
  rw [← hiff]
  constructor
  · intro hparts i hi
    obtain ⟨saved,report,h⟩ := hparts
    obtain ⟨hitems,-,-⟩ := generateDiff_eq_ok h
    obtain ⟨v,-,hv⟩ := mapM_mem_left hitems (List.mem_append_left _ (List.mem_append_left _ hi))
    exact ⟨v,hv⟩
  · intro hstorable
    have hall : ∀ i ∈ sharedItems uuid4 reply currentDocumentId previousDocumentId
          (sharedSections db currentDocumentId previousDocumentId) ++
        onlyItems (fun s => onlyCurrentItem (uuid4 s 0) currentDocumentId s)
          (onlySections db currentDocumentId previousDocumentId) ++
        onlyItems (fun s => onlyPreviousItem (uuid4 s 0) previousDocumentId s)
          (onlySections db previousDocumentId currentDocumentId),
        ∃ v, i.validate = .ok v := by
      intro i hi
      rw [List.mem_append, List.mem_append] at hi
      rcases hi with (hi | hi) | hi
      · exact hstorable i hi
      · obtain ⟨e,-,c,-,rfl⟩ := mem_onlyItems.mp hi
        exact onlyCurrentItem_storable _ _ _ c
      · obtain ⟨e,-,c,-,rfl⟩ := mem_onlyItems.mp hi
        exact onlyPreviousItem_storable _ _ _ c
    obtain ⟨items,hitems⟩ := mapM_of_forall hall
    obtain ⟨current,previous⟩ := docs
    have hsave : ∀ r : DiffReport, r.diffReportId = uuid4 "" 0 →
        db.saveDiffReport r = .ok { db with diffReports := db.diffReports ++ [r] } := by
      intro r hr
      rw [Database.saveDiffReport, Database.saveNew_eq_ok.mpr ⟨hr ▸ hfresh,rfl⟩]
      rfl
    exact ⟨_,_,bind_eq_ok.mpr ⟨_,hdocs,bind_eq_ok.mpr ⟨items,hitems,bind_eq_ok.mpr
      ⟨_,hsave _ rfl,rfl⟩⟩⟩⟩

theorem onlySections_not_shared {documentId otherId : String}
    {e : String × List PDFChunk} (he : e ∈ onlySections db documentId otherId) :
    e.1 ∈ (getSectionChunks db documentId).keys ∧
      e.1 ∉ (getSectionChunks db otherId).keys := by
  obtain ⟨hmem,hnot⟩ := List.mem_filter.mp he
  exact ⟨List.mem_map_of_mem hmem,by simpa using hnot⟩

/-- An item of a compared section stands in the report only if its section was read to its end
and something was found in it. -/
theorem section_read (hs : s ∈ sharedSections db currentDocumentId previousDocumentId)
    (h : generateDiff uuid4 now reply db currentDocumentId previousDocumentId =
      .ok (saved,report)) {v : DiffItem String} (hv : v ∈ report.items)
    (hsection : v.sectionName = s) :
    ∃ found, diffSection (uuid4 s) s currentDocumentId previousDocumentId (reply s) =
      .ok found ∧ found ≠ [] := by
  obtain ⟨hitems,-,-⟩ := generateDiff_eq_ok h
  obtain ⟨i,hi,hvalid⟩ := mapM_mem hitems hv
  have hname : i.sectionName = s := (DiffItem.validate_eq_ok hvalid).sectionName.symm.trans hsection
  obtain ⟨hnamed,hcurrent,hprevious⟩ := mem_sharedSections.mp hs
  rw [List.mem_append, List.mem_append] at hi
  rcases hi with (hi | hi) | hi
  · obtain ⟨other,-,found,hfound,hi⟩ := mem_sharedItems.mp hi
    have hsame : other = s := (sectionName_of_mem_diffSection hfound hi).symm.trans hname
    exact ⟨found,hsame ▸ hfound,List.ne_nil_of_mem hi⟩
  · obtain ⟨e,he,c,-,rfl⟩ := mem_onlyItems.mp hi
    have hname' : e.1 = s := hname
    rw [← hname'] at hnamed hprevious
    exact absurd (mem_keys_sectionChunks.mpr ⟨hnamed,hprevious⟩) (onlySections_not_shared he).2
  · obtain ⟨e,he,c,-,rfl⟩ := mem_onlyItems.mp hi
    have hname' : e.1 = s := hname
    rw [← hname'] at hnamed hcurrent
    exact absurd (mem_keys_sectionChunks.mpr ⟨hnamed,hcurrent⟩) (onlySections_not_shared he).2

end Report

section Kept

variable (uuid4 : String → Nat → String) (now : Nat) (reply : String → SectionReply)
  (db : Database) (currentDocumentId previousDocumentId : String)

/-- The saved report contains what is made of an item of a section's reply. -/
def ItemKept (s : String) (item : Json) (i : Nat) : Prop :=
  ∃ built v saved report,
    diffItem (uuid4 s i) s currentDocumentId previousDocumentId item = .ok (some built) ∧
    built.validate = .ok v ∧
    generateDiff uuid4 now reply db currentDocumentId previousDocumentId = .ok (saved,report) ∧
    report ∈ saved.diffReports ∧ v ∈ report.items

/-- That is so of every well-formed item of every section that is compared. -/
def ItemsKept : Prop :=
  ∀ s ∈ sharedSections db currentDocumentId previousDocumentId,
    ∀ items, replyItems (reply s) = .ok items → ∀ e ∈ items.zipIdx, WellFormedItem e.1 →
      ItemKept uuid4 now reply db currentDocumentId previousDocumentId s e.1 e.2

variable {uuid4 now reply db currentDocumentId previousDocumentId}

/-- A reply's well-formed items all come into the report exactly when each of its other items
can be read and all that is read can be saved. -/
theorem itemsKept_iff {docs : PDFDocument × PDFDocument}
    (hdocs : comparedDocuments db currentDocumentId previousDocumentId = .ok docs)
    (hfresh : ∀ r ∈ db.diffReports, r.diffReportId ≠ uuid4 "" 0) :
    ItemsKept uuid4 now reply db currentDocumentId previousDocumentId ↔
    ∀ s ∈ sharedSections db currentDocumentId previousDocumentId,
      ∀ items, replyItems (reply s) = .ok items → (∃ item ∈ items, WellFormedItem item) →
        (∀ item ∈ items, ReadableItem item) ∧
        StorableReplies reply (sharedSections db currentDocumentId previousDocumentId) := by
  constructor
  · intro hkept s hs items hitems hwell
    obtain ⟨item,hitem,hwell⟩ := hwell
    obtain ⟨e,he,rfl⟩ := exists_zipIdx_of_mem hitem
    obtain ⟨built,v,saved,report,hbuilt,hvalid,hrun,-,hv⟩ := hkept s hs items hitems e he hwell
    have hsection : v.sectionName = s :=
      (DiffItem.validate_eq_ok hvalid).sectionName.trans (diffItem_some hbuilt).1
    obtain ⟨found,hfound,-⟩ := section_read hs hrun hv hsection
    exact ⟨(diffSection_isOk_iff s hitems).mp ⟨found,hfound⟩,
      (generateDiff_isOk_iff hdocs hfresh).mp ⟨saved,report,hrun⟩⟩
  · intro hgood s hs items hitems e he hwell
    have hitem : e.1 ∈ items := List.fst_mem_of_mem_zipIdx he
    obtain ⟨hreadable,hstorable⟩ := hgood s hs items hitems ⟨e.1,hitem,hwell⟩
    have hrun : ∃ saved report, generateDiff uuid4 now reply db currentDocumentId
        previousDocumentId = .ok (saved,report) :=
      (generateDiff_isOk_iff hdocs hfresh).mpr hstorable
    obtain ⟨saved,report,hrun⟩ := hrun
    obtain ⟨turn,hturn⟩ := diffItem_of_readable (uuid4 s e.2) s currentDocumentId
      previousDocumentId hwell.readable
    have hread : ∃ found, diffSection (uuid4 s) s currentDocumentId previousDocumentId
        (reply s) = .ok found := (diffSection_isOk_iff s hitems).mpr hreadable
    obtain ⟨found,hfound⟩ := hread
    cases turn with
    | none => exact absurd hwell.hasPage ((diffItem_eq_ok hturn).2.1.mp rfl)
    | some built =>
      have hmem : built ∈ found := (mem_diffSection hitems hfound).mpr ⟨e,he,hturn⟩
      have hshared := mem_sharedItems.mpr ⟨s,hs,found,hfound,hmem⟩
      obtain ⟨hall,-,hsaved⟩ := generateDiff_eq_ok hrun
      obtain ⟨v,hv,hvalid⟩ := mapM_mem_left hall
        (List.mem_append_left _ (List.mem_append_left _ hshared))
      exact ⟨built,v,saved,report,hturn,hvalid,hrun,by rw [hsaved]; simp,hv⟩

end Kept

/-- A well-formed item beside one whose quote is `null`. -/
def nullQuoteReply : SectionReply := .text (String.join [
  "\x7b\"items\":[",
  "\x7b\"diff_id\":\"a\",\"description\":\"營收成長\",\"evidence\":\x7b\"current_page\":\"3\"\x7d\x7d,",
  "\x7b\"evidence\":\x7b\"current_page\":\"3\",\"current_quoted\":null\x7d\x7d]\x7d"])

def revenueGrowthItem : Json := .obj [("diff_id",.str "a"),("description",.str "營收成長"),
  ("evidence",.obj [("current_page",.str "3")])]

def nullQuoteItem : Json :=
  .obj [("evidence",.obj [("current_page",.str "3"),("current_quoted",.null)])]

theorem itemsKept_iff_nullQuote :
    ItemsKept (fun s _ => s) 0 (fun _ => nullQuoteReply) quartersDb "d1" "d2" ↔
    ∀ s ∈ sharedSections quartersDb "d1" "d2",
      ∀ items, replyItems nullQuoteReply = .ok items → (∃ item ∈ items, WellFormedItem item) →
        (∀ item ∈ items, ReadableItem item) ∧
        StorableReplies (fun _ => nullQuoteReply) (sharedSections quartersDb "d1" "d2") := by
  obtain ⟨docs,hdocs⟩ := exists_ok_of_isOk (x := comparedDocuments quartersDb "d1" "d2")
    (by decide +kernel)
  exact itemsKept_iff hdocs (fun r hr => absurd hr List.not_mem_nil)

/-- The sibling costs the well-formed item its place in the report. -/
theorem nullQuote_loses_items :
    ¬ItemsKept (fun s _ => s) 0 (fun _ => nullQuoteReply) quartersDb "d1" "d2" := by
  intro hkept
  have hshared : "營收" ∈ sharedSections quartersDb "d1" "d2" := by decide +kernel
  have hitems : replyItems nullQuoteReply = .ok [revenueGrowthItem,nullQuoteItem] := by
    decide +kernel
  have hwell : WellFormedItem revenueGrowthItem := by
    refine ⟨⟨_,rfl⟩,⟨_,rfl⟩,Or.inl (by decide +kernel),?_,⟨_,rfl⟩⟩
    simp only [textsOf, quotesOf, List.forall_mem_cons]
    exact ⟨⟨_,rfl⟩,⟨_,rfl⟩,⟨_,rfl⟩,⟨_,rfl⟩,⟨_,rfl⟩,⟨_,rfl⟩,by simp⟩
  obtain ⟨built,v,saved,report,-,-,hrun,-,hv⟩ :=
    hkept "營收" hshared _ hitems (revenueGrowthItem,0) (by simp) hwell
  have hempty : (fun r => r.2.items.length) <$>
      generateDiff (fun s _ => s) 0 (fun _ => nullQuoteReply) quartersDb "d1" "d2" = .ok 0 := by
    decide +kernel
  obtain ⟨⟨saved',report'⟩,hrun',hlength⟩ := map_eq_ok.mp hempty
  obtain ⟨-,rfl⟩ := Prod.mk.inj (Except.ok.inj (hrun.symm.trans hrun'))
  rw [List.length_eq_zero_iff.mp hlength] at hv
  exact absurd hv List.not_mem_nil

end FinancialPdfReader
