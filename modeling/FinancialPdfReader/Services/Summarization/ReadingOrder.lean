import FinancialPdfReader.Python.Order
import FinancialPdfReader.Services.Summarization.KeptSections

namespace FinancialPdfReader

open Py

/-- Where the first chunk of a section stands. -/
def firstChunk (chunks : List PDFChunk) (sectionName : String) : Nat :=
  (chunks.map sectionOf).idxOf sectionName

section Order

variable {db : Database} {documentId : String} {budget : Nat}

theorem nodup_chunksByPage (hids : (db.pdfChunks.map (·.chunkId)).Nodup) :
    (db.chunksByPage documentId).Nodup :=
  (List.perm_insertionSort _ _).nodup_iff.mpr ((List.Nodup.of_map _ hids).filter _)

theorem page_le_of_before {a b : PDFChunk} (h : Before (db.chunksByPage documentId) a b) :
    a.page ≤ b.page := by
  have hsorted := sortBy_pairwise (fun c : PDFChunk => c.page) (db.chunksOf documentId)
  exact pairwise_iff_before.mp hsorted a b h

/-- No chunk is chosen twice. -/
theorem nodup_selectedChunks (hids : (db.pdfChunks.map (·.chunkId)).Nodup) :
    (selectedChunks db documentId budget).Nodup := by
  rw [selectedChunks, List.nodup_flatMap]
  constructor
  · intro e he
    rw [Dict.entry_group he]
    exact ((nodup_chunksByPage hids).filter _).sublist (List.take_sublist _ _)
  · have hkeys : ((chunksBySection db documentId).entries).Pairwise (fun d e => d.1 ≠ e.1) :=
      List.pairwise_map.mp (chunksBySection db documentId).nodup
    apply hkeys.imp_of_mem
    intro d e hd he hne
    rw [Function.onFun, List.disjoint_iff_ne]
    intro a ha b hb heq
    subst heq
    have hsection : ∀ e ∈ (chunksBySection db documentId).entries,
        a ∈ e.2.take (retrievedOf db documentId budget e.1) → sectionOf a = e.1 := by
      intro e he ha
      have hmem := List.mem_of_mem_take ha
      rw [Dict.entry_group he] at hmem
      exact of_decide_eq_true (List.mem_filter.mp hmem).2
    exact hne ((hsection d hd ha).symm.trans (hsection e he hb))

/-- The chosen chunks of a section that opens earlier stand first. -/
theorem selected_of_firstChunk_lt {a b : PDFChunk} (ha : Chosen db documentId budget a)
    (hb : Chosen db documentId budget b)
    (hlt : firstChunk (db.chunksByPage documentId) (sectionOf a) <
      firstChunk (db.chunksByPage documentId) (sectionOf b)) :
    Before (selectedChunks db documentId budget) a b := by
  have hentry : ∀ c, Chosen db documentId budget c →
      (sectionOf c,(db.chunksByPage documentId).filter (fun d => sectionOf d = sectionOf c)) ∈
        (chunksBySection db documentId).entries :=
    fun c hc => (Dict.get?_eq_some_iff _ _ _).mp (get?_chunksBySection hc.mem)
  have hnodup : (chunksBySection db documentId).keys.Nodup := (chunksBySection db documentId).nodup
  have hkeys : Before (chunksBySection db documentId).keys (sectionOf a) (sectionOf b) := by
    rw [before_iff hnodup]
    refine ⟨(Dict.mem_keys_group _ _ _).mpr ⟨b,hb.mem,rfl⟩,?_⟩
    exact (Dict.idxOf_keys_group sectionOf _ _ _).mpr hlt
  exact (Before.of_map hnodup (hentry a ha) (hentry b hb) hkeys).flatMap ha hb

/-- Within a section the chosen chunks stand as in the document. -/
theorem selected_of_section_eq (hids : (db.pdfChunks.map (·.chunkId)).Nodup) {a b : PDFChunk}
    (ha : Chosen db documentId budget a) (hb : Chosen db documentId budget b)
    (hsection : sectionOf a = sectionOf b) (hab : Before (db.chunksByPage documentId) a b) :
    Before (selectedChunks db documentId budget) a b := by
  have hgroup : Before ((db.chunksByPage documentId).filter
      (fun d => sectionOf d = sectionOf a)) a b :=
    hab.filter_of (decide_eq_true rfl) (decide_eq_true hsection.symm)
  rw [Chosen, ← hsection] at hb
  have hchosen := hgroup.restrict ((nodup_chunksByPage hids).filter _) (List.take_sublist _ _) ha hb
  have hentry := (Dict.get?_eq_some_iff _ _ _).mp (get?_chunksBySection ha.mem)
  exact hchosen.flatMap_within hentry

/-- What is retrieved keeps the order of the document unless, of two chosen chunks of one page,
the later belongs to a section that opens before that of the earlier. -/
theorem retrieve_sublist_iff (hids : (db.pdfChunks.map (·.chunkId)).Nodup) :
    (retrieveChunksSectionAware db documentId budget).Sublist (db.chunksByPage documentId) ↔
      ∀ a b, Before (db.chunksByPage documentId) a b → a.page = b.page →
        Chosen db documentId budget a → Chosen db documentId budget b →
        ¬ firstChunk (db.chunksByPage documentId) (sectionOf b) <
          firstChunk (db.chunksByPage documentId) (sectionOf a) := by
  have hselected : (selectedChunks db documentId budget).Nodup := nodup_selectedChunks hids
  have hstored : (db.chunksByPage documentId).Nodup := nodup_chunksByPage hids
  have hretrieved : (retrieveChunksSectionAware db documentId budget).Nodup := by
    rw [retrieve_eq]
    exact (sortBy_perm _ _).nodup_iff.mpr hselected
  rw [sublist_iff_before hretrieved hstored (fun c hc => (mem_retrieve.mp hc).mem), retrieve_eq]
  constructor
  · intro hkept a b hab hpage ha hb hlt
    have hback : Before (sortBy (fun c : PDFChunk => c.page)
        (selectedChunks db documentId budget)) b a :=
      before_sortBy.mpr ⟨mem_selectedChunks.mpr hb,mem_selectedChunks.mpr ha,
        Or.inr ⟨hpage.symm,selected_of_firstChunk_lt hb ha hlt⟩⟩
    exact hab.asymm hstored (hkept b a hback)
  · intro hopen a b hab
    obtain ⟨ha,hb,hpages⟩ := before_sortBy.mp hab
    have hchosen := mem_selectedChunks.mp ha
    have hchosen' := mem_selectedChunks.mp hb
    have hne : a ≠ b := hab.ne ((sortBy_perm _ _).nodup_iff.mpr hselected)
    rcases before_total hchosen.mem hchosen'.mem hne with hin | hback
    · exact hin
    · -- `b` comes first in the document, so both stand on one page
      have hpage := page_le_of_before hback
      rcases hpages with hlt | ⟨heq,hin⟩
      · exact absurd hlt (Nat.not_lt.mpr hpage)
      · have hfirst := hopen b a hback heq.symm hchosen' hchosen
        rcases Nat.lt_trichotomy (firstChunk (db.chunksByPage documentId) (sectionOf a))
          (firstChunk (db.chunksByPage documentId) (sectionOf b)) with hlt | hsame | hgt
        · exact absurd hlt hfirst
        · have hsection : sectionOf b = sectionOf a :=
            ((List.idxOf_inj (List.mem_map_of_mem hchosen.mem)).mp hsame).symm
          exact absurd (selected_of_section_eq hids hchosen' hchosen hsection hback)
            (hin.asymm hselected)
        · exact absurd (selected_of_firstChunk_lt hchosen' hchosen hgt) (hin.asymm hselected)

end Order

def pageChunk (chunkId sectionName text : String) : PDFChunk where
  chunkId
  documentId := "d1"
  stockId := "2330"
  period := "2026Q1"
  page := 1
  sectionName
  text
  charCount := text.length

/-- One page on the revenue, on the margin and on the revenue again. -/
def mixedPageDb : Database :=
  { Database.empty with
    pdfChunks := [pageChunk "c1" "營收" "營收成長", pageChunk "c2" "毛利率" "毛利率持平",
      pageChunk "c3" "營收" "營收展望"] }

theorem retrieve_sublist_iff_mixedPageDb :
    (retrieveChunksSectionAware mixedPageDb "d1" 60).Sublist (mixedPageDb.chunksByPage "d1") ↔
      ∀ a b, Before (mixedPageDb.chunksByPage "d1") a b → a.page = b.page →
        Chosen mixedPageDb "d1" 60 a → Chosen mixedPageDb "d1" 60 b →
        ¬ firstChunk (mixedPageDb.chunksByPage "d1") (sectionOf b) <
          firstChunk (mixedPageDb.chunksByPage "d1") (sectionOf a) :=
  retrieve_sublist_iff (by decide +kernel)

/-- The last chunk of the page comes before the second. -/
theorem mixedPageDb_reordered :
    (retrieveChunksSectionAware mixedPageDb "d1" 60).map (·.chunkId) = ["c1","c3","c2"] ∧
    ¬ (retrieveChunksSectionAware mixedPageDb "d1" 60).Sublist
      (mixedPageDb.chunksByPage "d1") := by
  have hids : (retrieveChunksSectionAware mixedPageDb "d1" 60).map (·.chunkId) =
      ["c1","c3","c2"] := by decide +kernel
  have hstored : (mixedPageDb.chunksByPage "d1").map (·.chunkId) = ["c1","c2","c3"] := by
    decide +kernel
  refine ⟨hids,?_⟩
  intro hsub
  have hmap := hsub.map (·.chunkId)
  rw [hids, hstored] at hmap
  exact absurd hmap (by decide)

end FinancialPdfReader
