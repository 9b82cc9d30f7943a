import FinancialPdfReader.Services.Diff

namespace FinancialPdfReader

open Py

/-- What `x[:n]` takes. -/
def Sliceable : Json → Prop
  | .str _ => True
  | .arr _ => True
  | _ => False

/-- What may be looked up in a set. -/
def Hashable : Json → Prop
  | .arr _ => False
  | .obj _ => False
  | _ => True

def evidenceOf (item : Json) : Json := item.getD "evidence" (.obj [])

/-- A page is named on one side at least. -/
def HasPage (item : Json) : Prop :=
  strip ((evidenceOf item).getD "current_page" (.str "")).toStr ≠ "" ∨
    strip ((evidenceOf item).getD "previous_page" (.str "")).toStr ≠ ""

def quotesOf (item : Json) : List Json := [
  (evidenceOf item).getD "current_quoted" (.str ""),
  (evidenceOf item).getD "previous_quoted" (.str ""),
  item.getD "current_summary" (.str ""), item.getD "previous_summary" (.str "")]

/-- An item that the loop gets through. -/
structure ReadableItem (item : Json) : Prop where
  isObj : ∃ fields, item = .obj fields
  evidenceObj : ∃ fields, evidenceOf item = .obj fields
  quotes : HasPage item → ∀ x ∈ quotesOf item, Sliceable x
  diffType : HasPage item → Hashable (item.getD "diff_type" (.str "new_language"))

/-- A shift of tone that is said, by `null` or by anything false, not to be one of tone only. -/
def ToneUnmarked (item : Json) : Prop :=
  item.getD "diff_type" (.str "new_language") = .str "tone_shift" ∧
    ∃ x, item.field? "tone_only" = some x ∧ x.truthy = false

private theorem sliceable_of_slice {x y : Json} {n : Nat} (h : x.slice n = .ok y) :
    Sliceable x := by
  cases x <;> first | exact trivial | contradiction

private theorem slice_of_sliceable {x : Json} (h : Sliceable x) (n : Nat) :
    ∃ y, x.slice n = .ok y := by
  cases x <;> first | exact ⟨_,rfl⟩ | contradiction

private theorem readQuote_sliceable {item y : Json} {key : String} {n : Nat}
    (h : readQuote item key n = .ok y) : Sliceable (item.getD key (.str "")) := by
  obtain ⟨x,hx,hslice⟩ := bind_eq_ok.mp h
  rw [← (Json.get_eq_ok.mp hx).2]
  exact sliceable_of_slice hslice

private theorem readQuote_of_sliceable {item : Json} (hobj : ∃ fields, item = .obj fields)
    {key : String} (h : Sliceable (item.getD key (.str ""))) (n : Nat) :
    ∃ y, readQuote item key n = .ok y := by
  rw [readQuote, Json.get_eq_getD hobj, ok_bind]
  exact slice_of_sliceable h n

private theorem read_hashable {α : Type} [Choices α] {default a : α} {x : Json}
    (h : Choices.read default x = .ok a) : Hashable x := by
  cases x <;> first | exact trivial | contradiction

private theorem read_of_hashable {α : Type} [Choices α] (default : α) {x : Json}
    (h : Hashable x) : ∃ a, Choices.read default x = .ok a := by
  cases x <;> first | exact ⟨_,rfl⟩ | contradiction

section Items

variable {uuid sectionName currentDocumentId previousDocumentId : String} {item : Json}

private theorem no_page_iff : (strip ((evidenceOf item).getD "current_page" (.str "")).toStr = "" &&
    strip ((evidenceOf item).getD "previous_page" (.str "")).toStr = "") = true ↔
      ¬ HasPage item := by
  simp [HasPage]

private theorem hasPage_of_paged
    (h : ¬ (strip ((evidenceOf item).getD "current_page" (.str "")).toStr = "" &&
      strip ((evidenceOf item).getD "previous_page" (.str "")).toStr = "") = true) :
    HasPage item := by
  by_contra hno
  exact h (no_page_iff.mpr hno)

private theorem pagedItem_eq_ok {presence : Json} {cPage pPage : String} {i : DiffItem Json}
    (h : pagedItem uuid sectionName currentDocumentId previousDocumentId item (evidenceOf item)
      presence cPage pPage = .ok i) :
    (∀ x ∈ quotesOf item, Sliceable x) ∧
      Choices.read .newLanguage (item.getD "diff_type" (.str "new_language")) = .ok i.diffType ∧
      i.toneOnly = (item.getD "tone_only" (.bool (i.diffType == .toneShift))).truthy := by
  obtain ⟨currentQuoted,hq1,h⟩ := bind_eq_ok.mp h
  obtain ⟨previousQuoted,hq2,h⟩ := bind_eq_ok.mp h
  obtain ⟨diffType,htype,h⟩ := bind_eq_ok.mp h
  obtain ⟨diffId,-,h⟩ := bind_eq_ok.mp h
  obtain ⟨description,-,h⟩ := bind_eq_ok.mp h
  obtain ⟨currentSummary,hq3,h⟩ := bind_eq_ok.mp h
  obtain ⟨previousSummary,hq4,h⟩ := bind_eq_ok.mp h
  obtain ⟨toneOnly,htone,h⟩ := bind_eq_ok.mp h
  obtain ⟨requiresHumanReview,-,h⟩ := bind_eq_ok.mp h
  cases h
  obtain ⟨given,hgiven,htype⟩ := bind_eq_ok.mp htype
  have hgiven := (Json.get_eq_ok.mp hgiven).2
  have htone := (Json.get_eq_ok.mp htone).2
  refine ⟨?_,?_,?_⟩
  · simp only [quotesOf, List.forall_mem_cons]
    exact ⟨readQuote_sliceable hq1,readQuote_sliceable hq2,readQuote_sliceable hq3,
      readQuote_sliceable hq4,by simp⟩
  · rw [hgiven] at htype
    exact htype
  · rw [← htone, boolField_false]

/-- A shift of tone is marked unless the reply says otherwise. -/
private theorem marked_iff_of_pagedItem {presence : Json} {cPage pPage : String}
    {i : DiffItem Json} (h : pagedItem uuid sectionName currentDocumentId previousDocumentId item
      (evidenceOf item) presence cPage pPage = .ok i) :
    (i.diffType = .toneShift → i.toneOnly = true) ↔ ¬ ToneUnmarked item := by
  obtain ⟨-,htype,htone⟩ := pagedItem_eq_ok h
  have hshift := Choices.read_eq_ok_of_ne_default DiffType.newLanguage .toneShift
    (item.getD "diff_type" (.str "new_language")) (by decide)
  rw [htype, Except.ok.injEq] at hshift
  rw [ToneUnmarked, htone]
  constructor
  · intro hmarked hparts
    obtain ⟨htypeShift,x,hx,hfalse⟩ := hparts
    have htrue := hmarked (hshift.mpr htypeShift)
    rw [Json.getD, hx, Option.getD_some, hfalse] at htrue
    contradiction
  · intro hunmarked htypeShift
    rw [Json.getD]
    cases hx : item.field? "tone_only" with
    | none => simp [htypeShift]
    | some x =>
      by_contra hfalse
      exact hunmarked ⟨hshift.mp htypeShift,x,hx,by simpa using hfalse⟩

/-- A turn of the loop reads the pages, and goes on to the rest of an item with a page. -/
private theorem diffItem_turn {found : Option (DiffItem Json)}
    (h : diffItem uuid sectionName currentDocumentId previousDocumentId item = .ok found) :
    (∃ fields, item = .obj fields) ∧ (∃ fields, evidenceOf item = .obj fields) ∧
      ((found = none ∧ ¬ HasPage item) ∨ ∃ i, found = some i ∧ HasPage item ∧
        pagedItem uuid sectionName currentDocumentId previousDocumentId item (evidenceOf item)
          ((evidenceOf item).getD "presence" (.str "both"))
          (strip ((evidenceOf item).getD "current_page" (.str "")).toStr)
          (strip ((evidenceOf item).getD "previous_page" (.str "")).toStr) = .ok i) := by
  obtain ⟨evData,hev,h⟩ := bind_eq_ok.mp h
  obtain ⟨presence,hpresence,h⟩ := bind_eq_ok.mp h
  obtain ⟨cPage,hcurrent,h⟩ := bind_eq_ok.mp h
  obtain ⟨pPage,hprevious,h⟩ := bind_eq_ok.mp h
  obtain ⟨hobj,rfl⟩ := Json.get_eq_ok.mp hev
  obtain ⟨hevObj,rfl⟩ := Json.get_eq_ok.mp hpresence
  obtain ⟨current,hget,hcurrent⟩ := bind_eq_ok.mp hcurrent
  obtain rfl := (Json.get_eq_ok.mp hget).2
  obtain ⟨previous,hget,hprevious⟩ := bind_eq_ok.mp hprevious
  obtain rfl := (Json.get_eq_ok.mp hget).2
  obtain rfl := Except.ok.inj hcurrent
  obtain rfl := Except.ok.inj hprevious
  refine ⟨hobj,hevObj,?_⟩
  split at h
  · rename_i hnone
    cases h
    exact Or.inl ⟨rfl,no_page_iff.mp hnone⟩
  · rename_i hsome
    obtain ⟨i,hread,h⟩ := bind_eq_ok.mp h
    cases h
    exact Or.inr ⟨i,rfl,hasPage_of_paged hsome,hread⟩

/-- An item that is returned has a page and is the one read with its pages. -/
theorem diffItem_eq_some {i : DiffItem Json}
    (h : diffItem uuid sectionName currentDocumentId previousDocumentId item = .ok (some i)) :
    (∃ fields, item = .obj fields) ∧ HasPage item ∧
      pagedItem uuid sectionName currentDocumentId previousDocumentId item (evidenceOf item)
        ((evidenceOf item).getD "presence" (.str "both"))
        (strip ((evidenceOf item).getD "current_page" (.str "")).toStr)
        (strip ((evidenceOf item).getD "previous_page" (.str "")).toStr) = .ok i := by
  obtain ⟨hobj,-,hturn⟩ := diffItem_turn h
  rcases hturn with ⟨hnone,-⟩ | ⟨j,hj,hpage,hread⟩
  · exact absurd hnone (Option.some_ne_none i)
  · obtain rfl := Option.some.inj hj
    exact ⟨hobj,hpage,hread⟩

/-- What a turn of the loop says of its item. -/
theorem diffItem_eq_ok {found : Option (DiffItem Json)}
    (h : diffItem uuid sectionName currentDocumentId previousDocumentId item = .ok found) :
    ReadableItem item ∧ (found = none ↔ ¬ HasPage item) ∧
      ∀ i, found = some i →
        ((i.diffType = .toneShift → i.toneOnly = true) ↔ ¬ ToneUnmarked item) := by
  obtain ⟨hobj,hevObj,hturn⟩ := diffItem_turn h
  rcases hturn with ⟨rfl,hpage⟩ | ⟨i,rfl,hpage,hread⟩
  · have hreadable : ReadableItem item := {
      isObj := hobj
      evidenceObj := hevObj
      quotes := fun hp => absurd hp hpage
      diffType := fun hp => absurd hp hpage }
    refine ⟨hreadable,iff_of_true rfl hpage,?_⟩
    intro i hi
    exact absurd hi.symm (Option.some_ne_none i)
  · obtain ⟨hquotes,htype,-⟩ := pagedItem_eq_ok hread
    refine ⟨⟨hobj,hevObj,fun _ => hquotes,fun _ => read_hashable htype⟩,
      iff_of_false (by simp) (not_not.mpr hpage),?_⟩
    intro j hj
    obtain rfl := Option.some.inj hj
    exact marked_iff_of_pagedItem hread

/-- A readable item never raises. -/
theorem diffItem_of_readable (uuid sectionName currentDocumentId previousDocumentId : String)
    (h : ReadableItem item) : ∃ found,
    diffItem uuid sectionName currentDocumentId previousDocumentId item = .ok found := by
  obtain ⟨hobj,hevObj,hquotes,htype⟩ := h
  have hev : ∀ key default, (evidenceOf item).get key default =
      .ok ((evidenceOf item).getD key default) := Json.get_eq_getD hevObj
  rw [diffItem, Json.get_eq_getD hobj, ok_bind, ← evidenceOf, hev, ok_bind, readPage, hev,
    ok_bind, pure_eq_ok, ok_bind, readPage, hev, ok_bind, pure_eq_ok, ok_bind]
  split
  · exact ⟨none,rfl⟩
  · rename_i hsome
    have hpage : HasPage item := hasPage_of_paged hsome
    have hslices := hquotes hpage
    simp only [quotesOf, List.forall_mem_cons] at hslices
    obtain ⟨y1,h1⟩ := readQuote_of_sliceable hevObj hslices.1 100
    obtain ⟨y2,h2⟩ := readQuote_of_sliceable hevObj hslices.2.1 100
    obtain ⟨y3,h3⟩ := readQuote_of_sliceable hobj hslices.2.2.1 300
    obtain ⟨y4,h4⟩ := readQuote_of_sliceable hobj hslices.2.2.2.1 300
    obtain ⟨a,ha⟩ := read_of_hashable DiffType.newLanguage (htype hpage)
    have hread : readChoice item "diff_type" DiffType.newLanguage = .ok a := by
      rw [readChoice, Json.get_eq_getD hobj, ok_bind]
      exact ha
    simp only [pagedItem, h1, h2, h3, h4, hread, Json.get_eq_getD hobj, ok_bind]
    exact ⟨_,rfl⟩

end Items

/-- In every reply that is read to its end, every shift of tone that names a page is left as one
of tone only. -/
def ToneMarkedReplies (reply : String → SectionReply) (sections : List String) : Prop :=
  ∀ s ∈ sections, ∀ items, replyItems (reply s) = .ok items →
    (∀ item ∈ items, ReadableItem item) →
    ∀ item ∈ items, HasPage item → ¬ ToneUnmarked item

section Report

variable {uuid4 : String → Nat → String} {now : Nat} {reply : String → SectionReply}
  {db saved : Database} {currentDocumentId previousDocumentId : String} {report : DiffReport}

/-- A section is compared exactly when its reply can be read to its end. -/
theorem diffSection_isOk_iff (s : String) {items : List Json}
    (hitems : replyItems (reply s) = .ok items) :
    (∃ found, diffSection (uuid4 s) s currentDocumentId previousDocumentId (reply s) =
      .ok found) ↔ ∀ item ∈ items, ReadableItem item := by
  rw [diffSection, hitems, ok_bind]
  constructor
  · intro hparts item hitem
    obtain ⟨out,h⟩ := hparts
    obtain ⟨found,hfound,-⟩ := bind_eq_ok.mp h
    obtain ⟨e,he,rfl⟩ := exists_zipIdx_of_mem hitem
    obtain ⟨f,-,hread⟩ := mapM_mem_left hfound he
    exact (diffItem_eq_ok hread).1
  · intro hreadable
    have hall : ∀ e ∈ items.zipIdx, ∃ found,
        diffItem (uuid4 s e.2) s currentDocumentId previousDocumentId e.1 = .ok found :=
      fun e he => diffItem_of_readable _ _ _ _ (hreadable e.1 (List.fst_mem_of_mem_zipIdx he))
    obtain ⟨found,hfound⟩ := mapM_of_forall hall
    exact ⟨found.filterMap id,by rw [hfound]; rfl⟩

/-- The items of a compared section are marked exactly when those of its reply are left so. -/
private theorem diffSection_marked_iff (s : String) {items : List Json}
    {found : List (DiffItem Json)} (hitems : replyItems (reply s) = .ok items)
    (hsection : diffSection (uuid4 s) s currentDocumentId previousDocumentId (reply s) =
      .ok found) :
    (∀ i ∈ found, i.diffType = .toneShift → i.toneOnly = true) ↔
      ∀ item ∈ items, HasPage item → ¬ ToneUnmarked item := by
  rw [diffSection, hitems, ok_bind] at hsection
  obtain ⟨read,hread,hsection⟩ := bind_eq_ok.mp hsection
  cases hsection
  constructor
  · intro hmarked item hitem hpage
    obtain ⟨e,he,rfl⟩ := exists_zipIdx_of_mem hitem
    obtain ⟨f,hf,hturn⟩ := mapM_mem_left hread he
    obtain ⟨-,hnone,hmarks⟩ := diffItem_eq_ok hturn
    cases hcase : f with
    | none => exact absurd hpage (hnone.mp hcase)
    | some i =>
      exact (hmarks i hcase).mp (hmarked i (List.mem_filterMap.mpr ⟨f,hf,hcase⟩))
  · intro hmarked i hi
    obtain ⟨f,hf,hsome⟩ := List.mem_filterMap.mp hi
    obtain ⟨e,he,hturn⟩ := mapM_mem hread hf
    obtain ⟨-,hnone,hmarks⟩ := diffItem_eq_ok hturn
    have hpage : HasPage e.1 := by
      by_contra hno
      rw [hnone.mpr hno] at hsome
      contradiction
    exact (hmarks i hsome).mpr (hmarked e.1 (List.fst_mem_of_mem_zipIdx he) hpage)

/-- The items of all shared sections, of which those that fail give none. -/
private theorem sharedItems_marked_iff (sections : List String) :
    (∀ i ∈ sharedItems uuid4 reply currentDocumentId previousDocumentId sections,
      i.diffType = .toneShift → i.toneOnly = true) ↔ ToneMarkedReplies reply sections := by
  rw [sharedItems, List.forall_mem_flatMap]
  refine forall₂_congr fun s _ => ?_
  cases hsection : diffSection (uuid4 s) s currentDocumentId previousDocumentId (reply s) with
  | error e =>
    refine iff_of_true (by simp) ?_
    intro items hitems hreadable
    obtain ⟨found,hfound⟩ := (diffSection_isOk_iff s hitems).mpr hreadable
    rw [hsection] at hfound
    contradiction
  | ok found =>
    obtain ⟨items,hitems,-⟩ := bind_eq_ok.mp hsection
    have hreadable := (diffSection_isOk_iff s hitems).mp ⟨found,hsection⟩
    refine (diffSection_marked_iff s hitems hsection).trans ⟨?_,?_⟩
    · intro hmarked items' hitems' _
      obtain rfl := Except.ok.inj (hitems.symm.trans hitems')
      exact hmarked
    · intro hmarked
      exact hmarked items hitems hreadable

/-- No item for a section that one document lacks is a shift of tone. -/
private theorem onlyItems_marked {build : String → PDFChunk → DiffItem Json}
    (hbuild : ∀ s c, (build s c).diffType ≠ .toneShift)
    (sections : List (String × List PDFChunk)) :
    ∀ i ∈ onlyItems build sections, i.diffType = .toneShift → i.toneOnly = true := by
  intro i hi hshift
  obtain ⟨e,-,hi⟩ := List.mem_flatMap.mp hi
  obtain ⟨c,-,rfl⟩ := Option.map_eq_some_iff.mp (Option.mem_toList.mp hi)
  exact absurd hshift (hbuild e.1 c)

private theorem report_marked_iff
    (h : generateDiff uuid4 now reply db currentDocumentId previousDocumentId =
      .ok (saved,report)) :
    (∀ i ∈ report.items, i.diffType = .toneShift → i.toneOnly = true) ↔
      ToneMarkedReplies reply (sharedSections db currentDocumentId previousDocumentId) := by
  obtain ⟨hitems,-,-⟩ := generateDiff_eq_ok h
  have hkept : ∀ (i : DiffItem Json) (v : DiffItem String), i.validate = .ok v →
      ((i.diffType = .toneShift → i.toneOnly = true) ↔
        (v.diffType = .toneShift → v.toneOnly = true)) := by
    intro i v hv
    have hsaved := DiffItem.validate_eq_ok hv
    rw [hsaved.diffType, hsaved.toneOnly]
  rw [← forall_mem_iff_of_forall₂ (mapM_eq_ok.mp hitems) hkept, List.forall_mem_append,
    List.forall_mem_append]
  rw [and_iff_left (onlyItems_marked (fun _ _ => by simp [onlyPreviousItem]) _),
    and_iff_left (onlyItems_marked (fun _ _ => by simp [onlyCurrentItem]) _)]
  exact sharedItems_marked_iff _

/-- The audit of saved items passes exactly when every shift of tone is marked. -/
private theorem auditDiffItems_passed_iff (reportId documentId : String)
    (items : List (DiffItem String)) :
    ∃ result, auditDiffItems reportId documentId (items.map diffItemToDict) = .ok result ∧
      (result.passed = true ↔ ∀ i ∈ items, i.diffType = .toneShift → i.toneOnly = true) := by
  have hitem : ∀ d ∈ items, auditDiffItem (diffItemToDict d) =
      .ok (checkR6Diff (.str d.diffId) (.str (Choices.text d.diffType)) d.toneOnly) :=
    fun _ _ => rfl
  have hmap : (items.map diffItemToDict).mapM auditDiffItem = .ok (items.map (fun d =>
      checkR6Diff (.str d.diffId) (.str (Choices.text d.diffType)) d.toneOnly)) := by
    rw [List.mapM_map]
    exact mapM_eq_map hitem
  refine ⟨_,by rw [auditDiffItems, hmap, ok_bind]; rfl,?_⟩
  have htext : ∀ d : DiffType, Json.str (Choices.text d) = .str "tone_shift" ↔ d = .toneShift := by
    intro d
    cases d <;> decide
  simp only [GovernanceAuditResult.passed_iff, List.filterMap_map, List.filterMap_eq_nil_iff,
    Function.comp, id, checkR6Diff_eq_none_iff, htext]

/-- A saved comparison marks all its shifts of tone, and passes its audit, exactly when no reply
that was read took the mark away. -/
theorem generateDiff_tone_only_iff
    (h : generateDiff uuid4 now reply db currentDocumentId previousDocumentId =
      .ok (saved,report)) :
    ((∀ i ∈ report.items, i.diffType = .toneShift → i.toneOnly = true) ↔
      ToneMarkedReplies reply (sharedSections db currentDocumentId previousDocumentId)) ∧
    ∃ response, runDiffAudit saved report.diffReportId = .ok response ∧
      (response.passed = true ↔
        ToneMarkedReplies reply (sharedSections db currentDocumentId previousDocumentId)) := by
  have hmarked := report_marked_iff h
  refine ⟨hmarked,?_⟩
  have hfound : saved.diffReport? report.diffReportId = some report := by
    obtain ⟨-,hfresh,rfl⟩ := generateDiff_eq_ok h
    exact Database.diffReport?_append hfresh
  obtain ⟨result,hresult,hpassed⟩ := auditDiffItems_passed_iff report.diffReportId
    report.currentDocumentId report.items
  refine ⟨auditResponse result,?_,hpassed.trans hmarked⟩
  rw [runDiffAudit, hfound]
  simp only [hresult, ok_bind]
  rfl

end Report

/-- Two ingested quarters of one company, with one section each. -/
def quartersDb : Database := { Database.empty with
  pdfDocuments := [
    ⟨"d1","2330","2026Q1","d1.pdf",1,.completed,some 0⟩,
    ⟨"d2","2330","2025Q4","d2.pdf",1,.completed,some 0⟩]
  pdfChunks := [
    ⟨"k1","d1","2330","2026Q1",3,"營收","營收持平",4⟩,
    ⟨"k2","d2","2330","2025Q4",3,"營收","營收強勁成長",6⟩] }

/-- A shift of tone that the model does not take for one of tone only. -/
def toneShiftReply : SectionReply := .text
  "\x7b\"items\":[\x7b\"diff_type\":\"tone_shift\",\"tone_only\":false,\"evidence\":\x7b\"current_page\":\"3\"\x7d\x7d]\x7d"

theorem generateDiff_tone_only_iff_quartersDb : ∃ saved report,
    generateDiff (fun s _ => s) 0 (fun _ => toneShiftReply) quartersDb "d1" "d2" =
      .ok (saved,report) ∧
    ((∀ i ∈ report.items, i.diffType = .toneShift → i.toneOnly = true) ↔
      ToneMarkedReplies (fun _ => toneShiftReply) (sharedSections quartersDb "d1" "d2")) := by
  obtain ⟨⟨saved,report⟩,h⟩ := exists_ok_of_isOk
    (x := generateDiff (fun s _ => s) 0 (fun _ => toneShiftReply) quartersDb "d1" "d2")
    (by decide +kernel)
  exact ⟨saved,report,h,(generateDiff_tone_only_iff h).1⟩

/-- The model's word is kept, and the saved report fails its audit. -/
theorem generateDiff_keeps_unmarked_tone :
    ¬ ∀ saved report,
      generateDiff (fun s _ => s) 0 (fun _ => toneShiftReply) quartersDb "d1" "d2" =
        .ok (saved,report) →
      ∀ i ∈ report.items, i.diffType = .toneShift → i.toneOnly = true := by
  have hrun : (fun r => r.2.items.map (fun i => (i.diffType,i.toneOnly))) <$>
      generateDiff (fun s _ => s) 0 (fun _ => toneShiftReply) quartersDb "d1" "d2" =
        .ok [(.toneShift,false)] := by decide +kernel
  obtain ⟨⟨saved,report⟩,h,hitems⟩ := map_eq_ok.mp hrun
  obtain ⟨i,hi,hflags⟩ := List.map_eq_singleton_iff.mp hitems
  obtain ⟨hshift,hfalse⟩ := Prod.mk.inj hflags
  intro hall
  have htrue := hall saved report h i (by rw [show report.items = [i] from hi]; simp) hshift
  rw [hfalse] at htrue
  exact absurd htrue Bool.false_ne_true

end FinancialPdfReader
