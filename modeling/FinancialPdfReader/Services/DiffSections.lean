import FinancialPdfReader.Python.Sorted
import FinancialPdfReader.Services.DiffItems
import Mathlib.Order.Bounds.Basic

namespace FinancialPdfReader

open Py

/-- A document has a chunk of a section. -/
def OccursIn (db : Database) (documentId s : String) : Prop :=
  ∃ c ∈ db.pdfChunks, c.documentId = documentId ∧ c.sectionName = s

/-- The pages of a document on which a section occurs. -/
def pagesOf (db : Database) (documentId s : String) : Set Nat :=
  { page | ∃ c ∈ db.pdfChunks, c.documentId = documentId ∧ c.sectionName = s ∧ c.page = page }

/-- A section that takes part in a comparison. -/
def IsNamed (s : String) : Prop := s ≠ "" ∧ s ≠ "unknown"

section Sections

variable {db : Database} {documentId otherId s : String}

theorem occursIn_iff :
    OccursIn db documentId s ↔ ∃ c ∈ db.chunksByPage documentId, c.sectionName = s := by
  constructor
  · intro hparts
    obtain ⟨c,hmem,hid,hs⟩ := hparts
    exact ⟨c,Database.mem_chunksByPage.mpr ⟨hmem,hid⟩,hs⟩
  · intro hparts
    obtain ⟨c,hc,hs⟩ := hparts
    obtain ⟨hmem,hid⟩ := Database.mem_chunksByPage.mp hc
    exact ⟨c,hmem,hid,hs⟩

theorem mem_keys_iff_occursIn :
    s ∈ (getSectionChunks db documentId).keys ↔ IsNamed s ∧ OccursIn db documentId s := by
  rw [mem_keys_sectionChunks, occursIn_iff, IsNamed]

private theorem sortTexts_perm (texts : List String) : (sortTexts texts).Perm texts :=
  List.perm_insertionSort _ texts

private theorem sortTexts_pairwise (texts : List String) :
    (sortTexts texts).Pairwise (· ≤ ·) := sortBy_pairwise id texts

private theorem sortTexts_strict {texts : List String} (h : texts.Nodup) :
    (sortTexts texts).Pairwise (· < ·) := by
  have hnodup : (sortTexts texts).Nodup := (sortTexts_perm texts).nodup_iff.mpr h
  apply ((sortTexts_pairwise texts).and hnodup).imp
  intro a b hab
  exact Std.lt_of_le_of_ne hab.1 hab.2

private theorem sortTexts_eq {xs ys : List String} (hxs : xs.Nodup) (hys : ys.Nodup)
    (hsame : ∀ s, s ∈ xs ↔ s ∈ ys) : sortTexts xs = sortTexts ys := by
  have hperm : xs.Perm ys := (List.perm_ext_iff_of_nodup hxs hys).mpr hsame
  have hsorted : (sortTexts xs).Perm (sortTexts ys) :=
    (sortTexts_perm xs).trans (hperm.trans (sortTexts_perm ys).symm)
  exact hsorted.eq_of_pairwise (fun _ _ _ _ => Std.IsPartialOrder.le_antisymm _ _)
    (sortTexts_pairwise xs) (sortTexts_pairwise ys)

theorem nodup_sharedKeys (db : Database) (documentId otherId : String) :
    ((getSectionChunks db documentId).keys.filter
      (fun s => (getSectionChunks db otherId).keys.contains s)).Nodup :=
  (getSectionChunks db documentId).nodup.filter _

/-- The sections that one document has and the other lacks. -/
theorem onlySections_keys (db : Database) (documentId otherId : String) :
    (onlySections db documentId otherId).map Prod.fst =
      (getSectionChunks db documentId).keys.filter
        (fun s => !(getSectionChunks db otherId).keys.contains s) := by
  change _ = ((getSectionChunks db documentId).entries.map Prod.fst).filter _
  rw [List.filter_map]
  rfl

theorem nodup_onlySections (db : Database) (documentId otherId : String) :
    ((onlySections db documentId otherId).map Prod.fst).Nodup := by
  rw [onlySections_keys]
  exact (getSectionChunks db documentId).nodup.filter _

theorem mem_sharedSections_iff : s ∈ sharedSections db documentId otherId ↔
    IsNamed s ∧ OccursIn db documentId s ∧ OccursIn db otherId s := by
  rw [mem_sharedSections, occursIn_iff, occursIn_iff, IsNamed]

theorem mem_onlySections_iff : s ∈ (onlySections db documentId otherId).map Prod.fst ↔
    IsNamed s ∧ OccursIn db documentId s ∧ ¬OccursIn db otherId s := by
  rw [onlySections_keys, List.mem_filter, Bool.not_eq_true', ← Bool.not_eq_true,
    List.contains_iff_mem, mem_keys_iff_occursIn, mem_keys_iff_occursIn]
  constructor
  · intro hparts
    exact ⟨hparts.1.1,hparts.1.2,fun hother => hparts.2 ⟨hparts.1.1,hother⟩⟩
  · intro hparts
    exact ⟨⟨hparts.1,hparts.2.1⟩,fun hother => hparts.2.2 hother.2⟩

/-- The first chunk of a section is on the smallest of its pages. -/
theorem first_page {e : String × List PDFChunk}
    (he : e ∈ onlySections db documentId otherId) :
    ∃ c, e.2.head? = some c ∧ IsLeast (pagesOf db documentId e.1) c.page := by
  obtain ⟨hmem,-⟩ := List.mem_filter.mp he
  have hchunks : e.2 = ((db.chunksByPage documentId).filter
      (fun c => c.sectionName != "" && c.sectionName != "unknown")).filter
        (fun c => c.sectionName = e.1) := Dict.entry_group hmem
  have hkey : e.1 ∈ (getSectionChunks db documentId).keys := List.mem_map_of_mem hmem
  obtain ⟨hnamed,hoccurs⟩ := mem_keys_iff_occursIn.mp hkey
  have hiff : ∀ c, c ∈ e.2 ↔ c ∈ db.pdfChunks ∧ c.documentId = documentId ∧
      c.sectionName = e.1 := by
    intro c
    rw [hchunks, List.mem_filter, List.mem_filter, Database.mem_chunksByPage]
    simp only [Bool.and_eq_true, bne_iff_ne, decide_eq_true_eq]
    constructor
    · intro hparts
      exact ⟨hparts.1.1.1,hparts.1.1.2,hparts.2⟩
    · intro hparts
      exact ⟨⟨⟨hparts.1,hparts.2.1⟩,hparts.2.2 ▸ hnamed⟩,hparts.2.2⟩
  have hsorted : e.2.Pairwise (fun a b => a.page ≤ b.page) := by
    rw [hchunks]
    exact ((sortBy_pairwise PDFChunk.page (db.chunksOf documentId)).filter _).filter _
  cases hfirst : e.2 with
  | nil =>
    obtain ⟨c,hc⟩ := hoccurs
    have hin : c ∈ e.2 := (hiff c).mpr hc
    rw [hfirst] at hin
    exact absurd hin List.not_mem_nil
  | cons c cs =>
    refine ⟨c,rfl,?_,?_⟩
    · obtain ⟨hstored,hid,hs⟩ := (hiff c).mp (by rw [hfirst]; simp)
      exact ⟨c,hstored,hid,hs,rfl⟩
    · intro page hpage
      obtain ⟨other,hstored,hid,hs,rfl⟩ := hpage
      have hin : other ∈ e.2 := (hiff other).mpr ⟨hstored,hid,hs⟩
      rw [hfirst] at hin hsorted
      rcases List.mem_cons.mp hin with rfl | hin
      · exact Nat.le_refl _
      · exact (List.pairwise_cons.mp hsorted).1 other hin

end Sections

section OnlyItems

variable {build : String → PDFChunk → DiffItem Json} {sections : List (String × List PDFChunk)}
  {s : String}

private theorem onlyItems_filter_none (hbuild : ∀ s c, (build s c).sectionName = s)
    (hother : ∀ e ∈ sections, e.1 ≠ s) :
    (onlyItems build sections).filter (fun i => i.sectionName = s) = [] := by
  rw [List.filter_eq_nil_iff]
  intro i hi
  obtain ⟨e,he,c,-,rfl⟩ := mem_onlyItems.mp hi
  simpa [hbuild] using hother e he

/-- Of a section that only one document has there is one item, made of its first chunk. -/
theorem onlyItems_filter (hbuild : ∀ s c, (build s c).sectionName = s)
    (hnodup : (sections.map Prod.fst).Nodup) {e : String × List PDFChunk} (he : e ∈ sections)
    {first : PDFChunk} (hfirst : e.2.head? = some first) :
    (onlyItems build sections).filter (fun i => i.sectionName = e.1) = [build e.1 first] := by
  obtain ⟨before,after,rfl⟩ := List.append_of_mem he
  rw [List.map_append, List.map_cons, List.nodup_append, List.nodup_cons] at hnodup
  obtain ⟨-,⟨hafter,-⟩,hbefore⟩ := hnodup
  have hnone : (onlyItems build before).filter (fun i => i.sectionName = e.1) = [] := by
    apply onlyItems_filter_none hbuild
    intro other hother heq
    exact hbefore other.1 (List.mem_map_of_mem hother) e.1 List.mem_cons_self heq
  have hnone' : (onlyItems build after).filter (fun i => i.sectionName = e.1) = [] := by
    apply onlyItems_filter_none hbuild
    intro other hother heq
    exact hafter (heq ▸ List.mem_map_of_mem hother)
  rw [onlyItems] at hnone hnone' ⊢
  rw [List.flatMap_append, List.flatMap_cons, List.filter_append, List.filter_append, hnone,
    hnone', hfirst]
  simp [hbuild]

end OnlyItems

/-- What a section that only one of the documents has comes to in a report: a single item, of
the given type, that cites the document and the smallest page of the section. -/
structure CitedOnce (db : Database) (documentId : String) (diffType : DiffType)
    (document page : DiffItem String → String) (items : List (DiffItem String)) (s : String) :
    Prop where
  exists_item : ∃ item, items.filter (fun i => i.sectionName = s) = [item] ∧
    item.diffType = diffType ∧ document item = documentId ∧
    ∃ n, page item = toString n ∧ IsLeast (pagesOf db documentId s) n

/-- How the sections of two documents are divided in the report of their comparison. -/
structure SectionsSplit (db : Database) (currentDocumentId previousDocumentId : String)
    (report : DiffReport) : Prop where
  disjoint : report.sectionsCompared.Disjoint report.sectionsOnlyCurrent ∧
    report.sectionsCompared.Disjoint report.sectionsOnlyPrevious ∧
    report.sectionsOnlyCurrent.Disjoint report.sectionsOnlyPrevious
  sorted : report.sectionsCompared.Pairwise (· < ·) ∧
    report.sectionsOnlyCurrent.Pairwise (· < ·) ∧ report.sectionsOnlyPrevious.Pairwise (· < ·)
  all : ∀ s, s ∈ report.sectionsCompared ∨ s ∈ report.sectionsOnlyCurrent ∨
    s ∈ report.sectionsOnlyPrevious ↔
      IsNamed s ∧ (OccursIn db currentDocumentId s ∨ OccursIn db previousDocumentId s)
  onlyCurrent : ∀ s ∈ report.sectionsOnlyCurrent, CitedOnce db currentDocumentId .newLanguage
    (·.evidence.currentDocumentId) (·.evidence.currentPage) report.items s
  onlyPrevious : ∀ s ∈ report.sectionsOnlyPrevious, CitedOnce db previousDocumentId
    .removedLanguage (·.evidence.previousDocumentId) (·.evidence.previousPage) report.items s
  others : ∀ item ∈ report.items, item.sectionName ∉ report.sectionsOnlyCurrent →
    item.sectionName ∉ report.sectionsOnlyPrevious → item.sectionName ∈ report.sectionsCompared

section Report

variable {uuid4 : String → Nat → String} {now : Nat} {reply : String → SectionReply}
  {db saved : Database} {currentDocumentId previousDocumentId s : String} {report : DiffReport}

theorem generateDiff_lists
    (h : generateDiff uuid4 now reply db currentDocumentId previousDocumentId =
      .ok (saved,report)) :
    report.sectionsCompared = sharedSections db currentDocumentId previousDocumentId ∧
    report.sectionsOnlyCurrent =
      sortTexts ((onlySections db currentDocumentId previousDocumentId).map Prod.fst) ∧
    report.sectionsOnlyPrevious =
      sortTexts ((onlySections db previousDocumentId currentDocumentId).map Prod.fst) := by
  obtain ⟨⟨current,previous⟩,-,h⟩ := bind_eq_ok.mp h
  obtain ⟨items,-,h⟩ := bind_eq_ok.mp h
  obtain ⟨after,-,h⟩ := bind_eq_ok.mp h
  obtain ⟨-,rfl⟩ := Prod.mk.inj (Except.ok.inj h)
  exact ⟨rfl,rfl,rfl⟩

/-- The items of one section in a report are those that were built for it. -/
private theorem items_filter
    (h : generateDiff uuid4 now reply db currentDocumentId previousDocumentId =
      .ok (saved,report)) (s : String) :
    ((sharedItems uuid4 reply currentDocumentId previousDocumentId
        (sharedSections db currentDocumentId previousDocumentId)).filter
          (fun i => i.sectionName = s) ++
      (onlyItems (fun s => onlyCurrentItem (uuid4 s 0) currentDocumentId s)
        (onlySections db currentDocumentId previousDocumentId)).filter
          (fun i => i.sectionName = s) ++
      (onlyItems (fun s => onlyPreviousItem (uuid4 s 0) previousDocumentId s)
        (onlySections db previousDocumentId currentDocumentId)).filter
          (fun i => i.sectionName = s)).mapM DiffItem.validate =
      .ok (report.items.filter (fun i => i.sectionName = s)) := by
  obtain ⟨hitems,-,-⟩ := generateDiff_eq_ok h
  rw [← List.filter_append, ← List.filter_append]
  refine mapM_filter hitems ?_
  intro i v hv
  rw [(DiffItem.validate_eq_ok hv).sectionName]

private theorem sharedItems_filter_none {sections : List String} (hs : s ∉ sections) :
    (sharedItems uuid4 reply currentDocumentId previousDocumentId sections).filter
      (fun i => i.sectionName = s) = [] := by
  rw [List.filter_eq_nil_iff]
  intro i hi
  obtain ⟨other,hother,found,hfound,hi⟩ := mem_sharedItems.mp hi
  have hname : i.sectionName = other := sectionName_of_mem_diffSection hfound hi
  simp only [decide_eq_true_eq]
  intro heq
  exact hs (heq ▸ hname ▸ hother)

private theorem citedOnce_of_filter {i : DiffItem Json} {documentId : String}
    {diffType : DiffType} {document page : DiffItem String → String} {n : Nat}
    (hfilter : [i].mapM DiffItem.validate =
      .ok (report.items.filter (fun i => i.sectionName = s)))
    (htype : i.diffType = diffType)
    (hcited : ∀ v, i.validate = .ok v → document v = documentId ∧ page v = toString n)
    (hn : IsLeast (pagesOf db documentId s) n) :
    CitedOnce db documentId diffType document page report.items s := by
  cases hvalid : i.validate with
  | error e =>
    rw [List.mapM_cons, hvalid] at hfilter
    exact absurd hfilter (by simp)
  | ok v =>
    rw [List.mapM_cons, hvalid] at hfilter
    have hone : [v] = report.items.filter (fun i => i.sectionName = s) :=
      Except.ok.inj hfilter
    obtain ⟨hdocument,hpage⟩ := hcited v hvalid
    exact ⟨v,hone.symm,(DiffItem.validate_eq_ok hvalid).diffType.trans htype,hdocument,n,hpage,hn⟩

private theorem citedOnce_current
    (h : generateDiff uuid4 now reply db currentDocumentId previousDocumentId =
      .ok (saved,report)) {e : String × List PDFChunk}
    (he : e ∈ onlySections db currentDocumentId previousDocumentId) :
    CitedOnce db currentDocumentId .newLanguage (·.evidence.currentDocumentId)
      (·.evidence.currentPage) report.items e.1 := by
  obtain ⟨-,-,hother⟩ := mem_onlySections_iff.mp (List.mem_map_of_mem he)
  obtain ⟨first,hfirst,hleast⟩ := first_page he
  have hitems := items_filter h e.1
  rw [sharedItems_filter_none (fun hs => hother (mem_sharedSections_iff.mp hs).2.2),
    onlyItems_filter (fun _ _ => rfl) (nodup_onlySections _ _ _) he hfirst,
    onlyItems_filter_none (fun _ _ => rfl) ?_] at hitems
  · refine citedOnce_of_filter hitems rfl ?_ hleast
    intro v hv
    have hsaved := DiffItem.validate_eq_ok hv
    exact ⟨hsaved.currentDocumentId,hsaved.currentPage⟩
  · intro e' he' heq
    exact hother (heq ▸ (mem_onlySections_iff.mp (List.mem_map_of_mem he')).2.1)

private theorem citedOnce_previous
    (h : generateDiff uuid4 now reply db currentDocumentId previousDocumentId =
      .ok (saved,report)) {e : String × List PDFChunk}
    (he : e ∈ onlySections db previousDocumentId currentDocumentId) :
    CitedOnce db previousDocumentId .removedLanguage (·.evidence.previousDocumentId)
      (·.evidence.previousPage) report.items e.1 := by
  obtain ⟨-,-,hother⟩ := mem_onlySections_iff.mp (List.mem_map_of_mem he)
  obtain ⟨first,hfirst,hleast⟩ := first_page he
  have hitems := items_filter h e.1
  rw [sharedItems_filter_none (fun hs => hother (mem_sharedSections_iff.mp hs).2.1),
    onlyItems_filter_none (fun _ _ => rfl) ?_,
    onlyItems_filter (fun _ _ => rfl) (nodup_onlySections _ _ _) he hfirst] at hitems
  · refine citedOnce_of_filter hitems rfl ?_ hleast
    intro v hv
    have hsaved := DiffItem.validate_eq_ok hv
    exact ⟨hsaved.previousDocumentId,hsaved.previousPage⟩
  · intro e' he' heq
    exact hother (heq ▸ (mem_onlySections_iff.mp (List.mem_map_of_mem he')).2.1)

/-- Every item of a report is about one of the sections that the documents have. -/
private theorem section_of_item
    (h : generateDiff uuid4 now reply db currentDocumentId previousDocumentId =
      .ok (saved,report)) {item : DiffItem String} (hitem : item ∈ report.items) :
    item.sectionName ∈ sharedSections db currentDocumentId previousDocumentId ∨
    item.sectionName ∈ (onlySections db currentDocumentId previousDocumentId).map Prod.fst ∨
    item.sectionName ∈ (onlySections db previousDocumentId currentDocumentId).map Prod.fst := by
  obtain ⟨hitems,-,-⟩ := generateDiff_eq_ok h
  obtain ⟨i,hi,hvalid⟩ := mapM_mem hitems hitem
  rw [(DiffItem.validate_eq_ok hvalid).sectionName]
  rw [List.mem_append, List.mem_append] at hi
  rcases hi with (hi | hi) | hi
  · obtain ⟨s,hs,found,hfound,hi⟩ := mem_sharedItems.mp hi
    exact Or.inl (sectionName_of_mem_diffSection hfound hi ▸ hs)
  · obtain ⟨e,he,c,-,rfl⟩ := mem_onlyItems.mp hi
    exact Or.inr (Or.inl (List.mem_map_of_mem he))
  · obtain ⟨e,he,c,-,rfl⟩ := mem_onlyItems.mp hi
    exact Or.inr (Or.inr (List.mem_map_of_mem he))

private theorem mem_sortTexts {texts : List String} : s ∈ sortTexts texts ↔ s ∈ texts :=
  (sortTexts_perm texts).mem_iff

private theorem sharedSections_swap (db : Database) (documentId otherId : String) :
    sharedSections db documentId otherId = sharedSections db otherId documentId := by
  refine sortTexts_eq (nodup_sharedKeys _ _ _) (nodup_sharedKeys _ _ _) ?_
  intro s
  rw [List.mem_filter, List.mem_filter, List.contains_iff_mem, List.contains_iff_mem]
  exact and_comm

/-- The sections depend on nothing but the chunks. -/
private theorem getSectionChunks_congr {db' : Database} (h : db'.pdfChunks = db.pdfChunks)
    (documentId : String) : getSectionChunks db' documentId = getSectionChunks db documentId := by
  simp only [getSectionChunks, Database.chunksByPage, Database.chunksOf, h]

theorem sectionsSplit_of_generateDiff
    (h : generateDiff uuid4 now reply db currentDocumentId previousDocumentId =
      .ok (saved,report)) : SectionsSplit db currentDocumentId previousDocumentId report := by
  obtain ⟨hcompared,hcurrent,hprevious⟩ := generateDiff_lists h
  refine ⟨⟨?_,?_,?_⟩,⟨?_,?_,?_⟩,?_,?_,?_,?_⟩
  · rw [hcompared, hcurrent]
    intro s hs hs'
    exact (mem_onlySections_iff.mp (mem_sortTexts.mp hs')).2.2 (mem_sharedSections_iff.mp hs).2.2
  · rw [hcompared, hprevious]
    intro s hs hs'
    exact (mem_onlySections_iff.mp (mem_sortTexts.mp hs')).2.2 (mem_sharedSections_iff.mp hs).2.1
  · rw [hcurrent, hprevious]
    intro s hs hs'
    exact (mem_onlySections_iff.mp (mem_sortTexts.mp hs')).2.2
      (mem_onlySections_iff.mp (mem_sortTexts.mp hs)).2.1
  · rw [hcompared]
    exact sortTexts_strict (nodup_sharedKeys _ _ _)
  · rw [hcurrent]
    exact sortTexts_strict (nodup_onlySections _ _ _)
  · rw [hprevious]
    exact sortTexts_strict (nodup_onlySections _ _ _)
  · intro s
    rw [hcompared, hcurrent, hprevious, mem_sortTexts, mem_sortTexts, mem_sharedSections_iff,
      mem_onlySections_iff, mem_onlySections_iff]
    tauto
  · intro s hs
    rw [hcurrent] at hs
    obtain ⟨e,he,rfl⟩ := List.mem_map.mp (mem_sortTexts.mp hs)
    exact citedOnce_current h he
  · intro s hs
    rw [hprevious] at hs
    obtain ⟨e,he,rfl⟩ := List.mem_map.mp (mem_sortTexts.mp hs)
    exact citedOnce_previous h he
  · intro item hitem hnot hnot'
    rw [hcurrent, mem_sortTexts] at hnot
    rw [hprevious, mem_sortTexts] at hnot'
    rw [hcompared]
    rcases section_of_item h hitem with hshared | honly | honly
    · exact hshared
    · exact absurd honly hnot
    · exact absurd honly hnot'

/-- The report of a comparison divides the sections of the two documents, and the report of the
documents the other way round, whatever the model says there, divides them in the same way. -/
theorem generateDiff_sections
    (h : generateDiff uuid4 now reply db currentDocumentId previousDocumentId =
      .ok (saved,report)) :
    SectionsSplit db currentDocumentId previousDocumentId report ∧
    ∀ uuid4' now' reply' db' saved' report', db'.pdfChunks = db.pdfChunks →
      generateDiff uuid4' now' reply' db' previousDocumentId currentDocumentId =
        .ok (saved',report') →
      report'.sectionsCompared = report.sectionsCompared ∧
      report'.sectionsOnlyCurrent = report.sectionsOnlyPrevious ∧
      report'.sectionsOnlyPrevious = report.sectionsOnlyCurrent := by
  refine ⟨sectionsSplit_of_generateDiff h,?_⟩
  intro uuid4' now' reply' db' saved' report' hchunks h'
  obtain ⟨hcompared,hcurrent,hprevious⟩ := generateDiff_lists h
  obtain ⟨hcompared',hcurrent',hprevious'⟩ := generateDiff_lists h'
  have hsame := getSectionChunks_congr hchunks
  rw [hcompared, hcurrent, hprevious, hcompared', hcurrent', hprevious', sharedSections_swap db]
  simp only [sharedSections, onlySections, hsame, and_self]

end Report

/-- Two quarters with a section of both, with an item on it, and one of each. -/
def movedSectionsDb : Database := { Database.empty with
  pdfDocuments := quartersDb.pdfDocuments
  pdfChunks := quartersDb.pdfChunks ++ [
    ⟨"k3","d1","2330","2026Q1",4,"存貨","存貨增加",4⟩,
    ⟨"k4","d2","2330","2025Q4",5,"股利","每股配息三元",6⟩] }

theorem generateDiff_sections_movedSectionsDb : ∃ saved report saved' report',
    generateDiff (fun s _ => s) 0 (fun _ => toneShiftReply) movedSectionsDb "d1" "d2" =
      .ok (saved,report) ∧
    generateDiff (fun s _ => s) 0 (fun _ => toneShiftReply) movedSectionsDb "d2" "d1" =
      .ok (saved',report') ∧
    report.items.map (·.sectionName) = ["營收","存貨","股利"] ∧
    report.sectionsOnlyCurrent = ["存貨"] ∧ report.sectionsOnlyPrevious = ["股利"] ∧
    SectionsSplit movedSectionsDb "d1" "d2" report ∧
    report'.sectionsOnlyCurrent = report.sectionsOnlyPrevious := by
  have hrun : (fun r => (r.2.items.map (·.sectionName),r.2.sectionsOnlyCurrent,
      r.2.sectionsOnlyPrevious)) <$> generateDiff (fun s _ => s) 0 (fun _ => toneShiftReply)
        movedSectionsDb "d1" "d2" = .ok (["營收","存貨","股利"],["存貨"],["股利"]) := by
    decide +kernel
  obtain ⟨⟨saved,report⟩,h,hlists⟩ := map_eq_ok.mp hrun
  obtain ⟨hitems,honly⟩ := Prod.mk.inj hlists
  obtain ⟨hcurrent,hprevious⟩ := Prod.mk.inj honly
  obtain ⟨⟨saved',report'⟩,h'⟩ := exists_ok_of_isOk
    (x := generateDiff (fun s _ => s) 0 (fun _ => toneShiftReply) movedSectionsDb "d2" "d1")
    (by decide +kernel)
  obtain ⟨hsplit,hswapped⟩ := generateDiff_sections h
  exact ⟨saved,report,saved',report',h,h',hitems,hcurrent,hprevious,hsplit,
    (hswapped _ _ _ _ _ _ rfl h').2.1⟩

end FinancialPdfReader
