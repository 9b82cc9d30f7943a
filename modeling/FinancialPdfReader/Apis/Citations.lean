import FinancialPdfReader.Apis.Runs
import FinancialPdfReader.Services.PageChunks

namespace FinancialPdfReader

open Py Pool

section Words

variable (maxChars : Nat)

theorem stripBy_isInfix (p : Char → Bool) (cs : List Char) : stripBy p cs <:+: cs :=
  (List.rdropWhile_prefix p _).isInfix.trans (List.dropWhile_suffix p).isInfix

theorem segmentOfText_infix (cs : List Char) : segmentOfText maxChars cs <:+: cs := by
  rw [segmentOfText]
  split
  · exact (stripBy_isInfix isSpace _).trans (List.take_prefix _ cs).isInfix
  · exact List.infix_rfl

theorem restOfText_isInfix (cs : List Char) : restOfText maxChars cs <:+: cs := by
  rw [restOfText]
  split
  · exact (stripBy_isInfix isSpace _).trans (List.drop_suffix _ cs).isInfix
  · exact List.nil_infix

/-- Cutting a text up changes no word of it. -/
theorem infix_of_mem_chunkTexts [NeZero maxChars] {cs chunk : List Char}
    (h : chunk ∈ chunkTexts maxChars cs) : chunk <:+: cs := by
  induction hlength : cs.length using Nat.strong_induction_on generalizing cs with
  | h length ih =>
    by_cases hcs : cs = []
    · subst hcs
      rw [chunkTexts_nil] at h
      contradiction
    · rw [chunkTexts_round maxChars hcs, List.mem_append] at h
      rcases h with h | h
      · split_ifs at h with hempty
        · contradiction
        · rw [List.mem_singleton.mp h]
          exact segmentOfText_infix maxChars cs
      · have hless := length_restOfText_lt maxChars hcs
        rw [hlength] at hless
        exact (ih _ hless h rfl).trans (restOfText_isInfix maxChars cs)

end Words

/-- The words stand on that page of the document's file. -/
def OnPage (files : Files) (d : PDFDocument) (page : Nat) (words : String) : Prop :=
  ∃ p ∈ documentPages files d, p.page = page ∧ words.toList <:+: p.text.toList

section Chunks

variable {files : Files} {d : PDFDocument} {x : Store}

theorem OnPage.take {page : Nat} {words : String} (h : OnPage files d page words) (n : Nat) :
    OnPage files d page (take n words) := by
  obtain ⟨p,hp,hpage,hwords⟩ := h
  refine ⟨p,hp,hpage,?_⟩
  rw [Py.take, String.toList_ofList]
  exact (List.take_prefix n _).isInfix.trans hwords

theorem onPage_of_documentChunks {c : PDFChunk} (h : c ∈ documentChunks files d) :
    OnPage files d c.page c.text := by
  obtain ⟨chunkData,hdata,rfl⟩ := List.mem_map.mp h
  obtain ⟨p,hp,hchunk⟩ := List.mem_flatMap.mp hdata
  obtain ⟨text,htext,rfl⟩ := List.mem_map.mp hchunk
  refine ⟨p,hp,rfl,?_⟩
  change (String.ofList text).toList <:+: p.text.toList
  rw [String.toList_ofList]
  exact infix_of_mem_chunkTexts 1500 htext

theorem document_mem_iff {doc : PDFDocument} :
    .document doc ∈ x.rows ↔ ∃ d ∈ x.db.pdfDocuments, d.registered = doc := List.mem_map

/-- A chunk on record is a piece of its document's file. -/
theorem Consistent.chunk_onPage (hx : Consistent files x) {c : PDFChunk}
    (hc : .chunk c ∈ x.rows) : ∃ d ∈ x.db.pdfDocuments, d.documentId = c.documentId ∧
      OnPage files d c.page c.text := by
  obtain ⟨doc,hunder,found,hfound,hcontent⟩ : ChunkGrounds files x.rows c := hx.grounded _ hc
  obtain ⟨d,hd,rfl⟩ := document_mem_iff.mp hunder.onRecord
  refine ⟨d,hd,hunder.documentId,?_⟩
  have hfile : OnPage files d.registered found.page found.text := onPage_of_documentChunks hfound
  change OnPage files d c.content.page c.content.text
  rw [hcontent]
  exact hfile

theorem documentId_of_documentChunks {c : PDFChunk} (h : c ∈ documentChunks files d) :
    c.documentId = d.documentId := by
  obtain ⟨chunkData,-,rfl⟩ := List.mem_map.mp h
  rfl

/-- Two records of one document are one, but for what ingestions have made of it. -/
theorem Consistent.registered_of_id (hx : Consistent files x) {d e : PDFDocument}
    (hd : d ∈ x.db.pdfDocuments) (he : e ∈ x.db.pdfDocuments)
    (hid : d.documentId = e.documentId) : d.registered = e.registered := by
  have hrow : .document d.registered ∈ x.rows := List.mem_map_of_mem hd
  have hrow' : .document e.registered ∈ x.rows := List.mem_map_of_mem he
  exact Row.document.inj (hx.keyed hrow hrow' (congrArg (Prod.mk _) hid))

theorem OnPage.of_registered {d e : PDFDocument} (hsame : d.registered = e.registered)
    {page : Nat} {words : String} (h : OnPage files d page words) :
    OnPage files e page words := by
  change OnPage files e.registered page words
  rw [← hsame]
  exact h

/-- What is stored of a document is a piece of its file. -/
theorem Consistent.onPage_of_chunksOf (hx : Consistent files x) (hd : d ∈ x.db.pdfDocuments)
    {c : PDFChunk} (hc : c ∈ x.db.chunksOf d.documentId) : OnPage files d c.page c.text := by
  obtain ⟨hmem,hmine⟩ := List.mem_filter.mp hc
  have hrow : .chunk c.unlabelled ∈ x.rows := List.mem_map_of_mem hmem
  obtain ⟨e,he,heid,hpage⟩ := hx.chunk_onPage hrow
  exact hpage.of_registered (hx.registered_of_id he hd (heid.trans (of_decide_eq_true hmine)))

theorem parts_of_unlabelled {a b : PDFChunk} (h : a.unlabelled = b.unlabelled) :
    a.chunkId = b.chunkId ∧ a.documentId = b.documentId ∧ a.page = b.page := by
  have hparts := PDFChunk.mk.inj h
  exact ⟨hparts.1,hparts.2.1,hparts.2.2.2.2.1⟩

end Chunks

variable {files : Files} {s : State Store Call}

section Completed

/-- What the file of a document gives, and what is stored of it. -/
structure HoldsFile (files : Files) (db : Database) (d : PDFDocument) : Prop where
  totalPages : d.totalPages = (documentPages files d).length
  chunks : (fun c => c.unlabelled.content) '' {c | c ∈ db.chunksOf d.documentId} =
    PDFChunk.unlabelled '' {c | c ∈ documentChunks files d}

/-- Whatever else is going on, a document that is called completed is stored as a whole, and
nothing is stored that its file does not give. -/
theorem completed_holdsFile (hs : Reachable files s) {d : PDFDocument}
    (hd : d ∈ s.shared.db.pdfDocuments) (hstatus : d.status = .completed) :
    HoldsFile files s.shared.db d := by
  have hx := hs.holds.inv
  obtain ⟨htotal,hstored⟩ := hx.completed d hd hstatus
  refine ⟨htotal,?_⟩
  ext content
  constructor
  · intro hcontent
    obtain ⟨c,hc,rfl⟩ := hcontent
    obtain ⟨hmem,hmine⟩ := List.mem_filter.mp hc
    have hrow : .chunk c.unlabelled ∈ s.shared.rows := List.mem_map_of_mem hmem
    obtain ⟨doc,hunder,found,hfound,hcontent⟩ :
      ChunkGrounds files s.shared.rows c.unlabelled := hx.grounded _ hrow
    obtain ⟨e,he,rfl⟩ := document_mem_iff.mp hunder.onRecord
    have hid : d.documentId = e.documentId :=
      (of_decide_eq_true hmine).symm.trans hunder.documentId.symm
    have hfound' : found ∈ documentChunks files e.registered := hfound
    rw [← hx.registered_of_id hd he hid] at hfound'
    exact ⟨found,hfound',hcontent.symm⟩
  · intro hcontent
    obtain ⟨found,hfound,rfl⟩ := hcontent
    obtain ⟨c,hc,hsame⟩ := hstored found hfound
    obtain ⟨c,hmem,rfl⟩ := List.mem_map.mp hc
    have hid : c.unlabelled.content.documentId = found.unlabelled.documentId := by rw [hsame]
    have hid : c.documentId = found.documentId := hid
    have hmine : c ∈ s.shared.db.chunksOf d.documentId := by
      rw [Database.chunksOf, List.mem_filter, hid, documentId_of_documentChunks hfound]
      simp [hmem]
    exact ⟨c,hmine,hsame⟩

theorem completed_holdsFile_sample : ∃ s t d, SampleRun s t ∧ d ∈ s.shared.db.pdfDocuments ∧
    d.status = .completed ∧ HoldsFile quarterFiles s.shared.db d := by
  obtain ⟨s,t,sample⟩ := sample_run
  have hfirst : ("d1",true) ∈ s.shared.db.pdfDocuments.map
      (fun d => (d.documentId,decide (d.status = .completed))) := by
    rw [sample.documents]
    simp
  obtain ⟨d,hd,hsame⟩ := List.mem_map.mp hfirst
  have hstatus : d.status = .completed := of_decide_eq_true (Prod.mk.inj hsame).2
  exact ⟨s,t,d,sample,hd,hstatus,completed_holdsFile sample.reachable hd hstatus⟩

end Completed

section Reports

/-- What a summary says it was made of. -/
structure CitesFile (files : Files) (db : Database) (r : AIReport) (d : PDFDocument) : Prop where
  documentId : r.documentId = d.documentId
  stockId : r.stockId = d.stockId
  period : r.period = d.period
  nonempty : r.chunksUsed ≠ []
  distinct : r.chunksUsed.Nodup
  chunks : ∀ id ∈ r.chunksUsed, ∃ c ∈ db.chunksOf d.documentId, c.chunkId = id ∧
    OnPage files d c.page c.text
  pages : ∀ page, page ∈ r.pagesCovered ↔
    ∃ c ∈ db.chunksOf d.documentId, c.chunkId ∈ r.chunksUsed ∧ c.page = page

/-- But for its section, a chunk that was used is a stored one. -/
theorem UsedChunks.stored_chunk {x : Store} {r : AIReport} {chunks : List PDFChunk}
    (h : UsedChunks x.rows r chunks) {c : PDFChunk} (hc : c ∈ chunks) :
    ∃ stored ∈ x.db.chunksOf r.documentId, stored.unlabelled = c.unlabelled := by
  obtain ⟨hrow,hmine⟩ := h.stored c hc
  obtain ⟨stored,hmem,hsame⟩ := List.mem_map.mp hrow
  have hid := (parts_of_unlabelled hsame).2.1
  refine ⟨stored,?_,hsame⟩
  rw [Database.chunksOf, List.mem_filter, hid, hmine]
  simp [hmem]

theorem UsedChunks.page_iff {x : Store} (hx : Consistent files x) {r : AIReport}
    {chunks : List PDFChunk} (h : UsedChunks x.rows r chunks) (page : Nat) :
    page ∈ r.pagesCovered ↔
      ∃ c ∈ x.db.chunksOf r.documentId, c.chunkId ∈ r.chunksUsed ∧ c.page = page := by
  rw [h.pagesCovered, mem_pagesCovered, h.chunksUsed]
  constructor
  · intro hparts
    obtain ⟨c,hc,rfl⟩ := hparts
    obtain ⟨stored,hstored,hsame⟩ := h.stored_chunk hc
    obtain ⟨hname,-,hpage⟩ := parts_of_unlabelled hsame
    exact ⟨stored,hstored,hname ▸ List.mem_map_of_mem hc,hpage⟩
  · intro hparts
    obtain ⟨stored,hstored,hname,rfl⟩ := hparts
    obtain ⟨c,hc,hcid⟩ := List.mem_map.mp hname
    obtain ⟨found,hfound,hsame⟩ := h.stored_chunk hc
    obtain ⟨hid,-,hpage⟩ := parts_of_unlabelled hsame
    have hone : found = stored := eq_of_chunkId hx (List.mem_filter.mp hfound).1
      (List.mem_filter.mp hstored).1 (hid.trans hcid)
    exact ⟨c,hc,hpage.symm.trans (congrArg PDFChunk.page hone)⟩

/-- A stored summary was made of pieces of its document's file, each of them still there to be
looked up under the identifier and on the page that the summary names. -/
theorem report_citesFile (hs : Reachable files s) {r : AIReport}
    (hr : r ∈ s.shared.db.aiReports) :
    ∃ d ∈ s.shared.db.pdfDocuments, CitesFile files s.shared.db r d := by
  have hx := hs.holds.inv
  have hrow : .report r ∈ s.shared.rows := hr
  obtain ⟨⟨doc,hunder⟩,⟨chunks,hused⟩,-⟩ : ReportGrounds s.shared.rows r := hx.grounded _ hrow
  obtain ⟨d,hd,rfl⟩ := document_mem_iff.mp hunder.onRecord
  have hid : r.documentId = d.documentId := hunder.documentId.symm
  refine ⟨d,hd,hid,hunder.stockId.symm,hunder.period.symm,?_,?_,?_,?_⟩
  · rw [hused.chunksUsed]
    exact mt List.map_eq_nil_iff.mp hused.nonempty
  · rw [hused.chunksUsed]
    exact hused.distinct
  · intro id hname
    rw [hused.chunksUsed] at hname
    obtain ⟨c,hc,rfl⟩ := List.mem_map.mp hname
    obtain ⟨stored,hstored,hsame⟩ := hused.stored_chunk hc
    rw [hid] at hstored
    exact ⟨stored,hstored,(parts_of_unlabelled hsame).1,hx.onPage_of_chunksOf hd hstored⟩
  · rw [← hid]
    exact hused.page_iff hx

theorem report_citesFile_sample : ∃ s t r d, SampleRun s t ∧ r ∈ s.shared.db.aiReports ∧
    CitesFile quarterFiles s.shared.db r d := by
  obtain ⟨s,t,sample⟩ := sample_run
  have hfirst : ("d1","r1") ∈ s.shared.db.aiReports.map (fun r => (r.documentId,r.reportId)) := by
    rw [sample.reports]
    simp
  obtain ⟨r,hr,-⟩ := List.mem_map.mp hfirst
  obtain ⟨d,-,hcites⟩ := report_citesFile sample.reachable hr
  exact ⟨s,t,r,d,sample,hr,hcites⟩

end Reports

section Comparisons

/-- The words stand on the page of the document's file that is named beside them. -/
def QuotesFile (files : Files) (d : PDFDocument) (page quoted : String) : Prop :=
  ∃ n, page = toString n ∧ OnPage files d n quoted

/-- A section that both documents have is compared by pages that the reply names; one that only
one of them has is quoted from its file. -/
inductive ItemCites (files : Files) (current previous : PDFDocument) (r : DiffReport)
    (i : DiffItem String) : Prop where
  | compared (hsection : i.sectionName ∈ r.sectionsCompared)
      (hcurrent : NamedWithPage i.evidence.currentDocumentId i.evidence.currentPage
        current.documentId)
      (hprevious : NamedWithPage i.evidence.previousDocumentId i.evidence.previousPage
        previous.documentId)
      (hpage : i.evidence.currentPage ≠ "" ∨ i.evidence.previousPage ≠ "")
  | onlyCurrent (hsection : i.sectionName ∈ r.sectionsOnlyCurrent)
      (hcurrent : i.evidence.currentDocumentId = current.documentId)
      (hquoted : QuotesFile files current i.evidence.currentPage i.evidence.currentQuoted)
      (hprevious : i.evidence.previousPage = "")
  | onlyPrevious (hsection : i.sectionName ∈ r.sectionsOnlyPrevious)
      (hprevious : i.evidence.previousDocumentId = previous.documentId)
      (hquoted : QuotesFile files previous i.evidence.previousPage i.evidence.previousQuoted)
      (hcurrent : i.evidence.currentPage = "")

structure DiffCitesFiles (files : Files) (r : DiffReport) (current previous : PDFDocument) :
    Prop where
  documents : r.currentDocumentId = current.documentId ∧
    r.previousDocumentId = previous.documentId
  periods : r.currentPeriod = current.period ∧ r.previousPeriod = previous.period
  company : current.stockId = r.stockId ∧ previous.stockId = r.stockId
  items : ∀ i ∈ r.items, ItemCites files current previous r i

theorem QuotesChunk.quotesFile {x : Store} (hx : Consistent files x) {d : PDFDocument}
    (hd : d ∈ x.db.pdfDocuments) {page quoted : String}
    (h : QuotesChunk x.rows d.documentId page quoted) : QuotesFile files d page quoted := by
  obtain ⟨c,hc,hmine,hpage,rfl⟩ := h
  obtain ⟨e,he,heid,hfile⟩ := hx.chunk_onPage hc
  have hsame := hx.registered_of_id he hd (heid.trans hmine)
  exact ⟨c.page,hpage,(hfile.of_registered hsame).take 80⟩

/-- A stored comparison is one of two documents of one company, and what it quotes of a section
that only one of them has stands in that document's file, on the page that it names. -/
theorem diff_citesFiles (hs : Reachable files s) {r : DiffReport}
    (hr : r ∈ s.shared.db.diffReports) : ∃ current ∈ s.shared.db.pdfDocuments,
      ∃ previous ∈ s.shared.db.pdfDocuments, DiffCitesFiles files r current previous := by
  have hx := hs.holds.inv
  have hrow : .diff r ∈ s.shared.rows := hr
  obtain ⟨⟨doc,hcurrent⟩,⟨doc',hprevious⟩,hitems⟩ : DiffGrounds s.shared.rows r :=
    hx.grounded _ hrow
  obtain ⟨current,hc,rfl⟩ := document_mem_iff.mp hcurrent.onRecord
  obtain ⟨previous,hp,rfl⟩ := document_mem_iff.mp hprevious.onRecord
  have hcid : r.currentDocumentId = current.documentId := hcurrent.documentId.symm
  have hpid : r.previousDocumentId = previous.documentId := hprevious.documentId.symm
  refine ⟨current,hc,previous,hp,⟨hcid,hpid⟩,⟨hcurrent.period.symm,hprevious.period.symm⟩,
    ⟨hcurrent.stockId,hprevious.stockId⟩,?_⟩
  intro i hi
  have hground := hitems i hi
  cases hground with
  | compared hsection hnamed hnamed' hpage =>
    exact .compared hsection (hcid ▸ hnamed) (hpid ▸ hnamed') hpage
  | onlyCurrent hsection hnamed hquoted hnone =>
    rw [hcid] at hnamed hquoted
    exact .onlyCurrent hsection hnamed (hquoted.quotesFile hx hc) hnone
  | onlyPrevious hsection hnamed hquoted hnone =>
    rw [hpid] at hnamed hquoted
    exact .onlyPrevious hsection hnamed (hquoted.quotesFile hx hp) hnone

theorem diff_citesFiles_sample : ∃ s t r current previous, SampleRun s t ∧
    r ∈ s.shared.db.diffReports ∧ DiffCitesFiles quarterFiles r current previous := by
  obtain ⟨s,t,sample⟩ := sample_run
  obtain ⟨r,hr,-⟩ := List.mem_map.mp (sample.diffs ▸ List.mem_singleton_self "x0")
  obtain ⟨current,-,previous,-,hcites⟩ := diff_citesFiles sample.reachable hr
  exact ⟨s,t,r,current,previous,sample,hr,hcites⟩

end Comparisons

section Trends

end Trends

end FinancialPdfReader
