import FinancialPdfReader.Apis.Grounds
import FinancialPdfReader.Concurrency.InOrder
import FinancialPdfReader.Services.Classification.Labels

namespace FinancialPdfReader

open Py

/-- Under whatever name and in whatever section. -/
def Stored (A : Set Row) (c : PDFChunk) : Prop :=
  ∃ stored, .chunk stored ∈ A ∧ stored.content = c.unlabelled

theorem Stored.mono {A B : Set Row} (hAB : A ⊆ B) {c : PDFChunk} (h : Stored A c) :
    Stored B c := by
  obtain ⟨stored,hstored,hcontent⟩ := h
  exact ⟨stored,hAB hstored,hcontent⟩

/-- A document that was read as a whole: its pages are counted, its chunks are there. -/
structure Whole (files : Files) (A : Set Row) (d : PDFDocument) : Prop where
  totalPages : d.totalPages = (documentPages files d).length
  chunks : ∀ c ∈ documentChunks files d, Stored A c

/-- The tables of each document have come in as they stand in its file. -/
def TablesInOrder (files : Files) (x : Store) : Prop :=
  ∀ doc, .document doc ∈ x.rows → SharedLog.Follows (documentTables files doc)
    ((x.db.tablesOf doc.documentId).map PDFTable.content)

/-- Every row has a key of its own and a reason to be there, no identifier is given twice, and no
document is called completed of which something is missing. -/
structure Consistent (files : Files) (x : Store) : Prop where
  keyed : Archive.Keyed Row.key x.rows
  grounded : Archive.Grounded (Justified files) x.rows
  ids : ∀ col, (x.ids col).Nodup
  completed : ∀ d ∈ x.db.pdfDocuments, d.status = .completed → Whole files x.rows d
  tables : TablesInOrder files x
  labels : Labelled x.db

variable {files : Files} {x y : Store}

theorem consistent_empty (files : Files) : Consistent files Store.empty := by
  refine ⟨?_,?_,fun col => by cases col <;> exact List.nodup_nil,
    fun d hd => absurd hd List.not_mem_nil,fun doc _ => SharedLog.follows_nil _,
    fun c hc => absurd hc List.not_mem_nil⟩
  · rw [Store.rows_empty]
    exact fun a ha => absurd ha (Set.notMem_empty a)
  · rw [Store.rows_empty]
    exact fun a ha => absurd ha (Set.notMem_empty a)

instance : Std.Refl (Grows files) := ⟨fun _ => .refl⟩

instance : IsTrans Store (Grows files) := ⟨fun _ _ _ => .trans⟩

/-- What is on record stays on record. -/
theorem Grows.mem (h : Grows files x y) {row : Row} (hrow : row ∈ x.rows) : row ∈ y.rows :=
  Archive.Grows.subset h hrow

section Lookups

/-- A document that is on record is found, as it was uploaded. -/
theorem Consistent.document? (hx : Consistent files x) {doc : PDFDocument}
    (h : .document doc ∈ x.rows) :
    ∃ d, x.db.document? doc.documentId = some d ∧ d.registered = doc := by
  obtain ⟨d,hd,rfl⟩ := List.mem_map.mp h
  have hsome : (x.db.document? d.documentId).isSome = true := by
    rw [Database.document?, List.find?_isSome]
    exact ⟨d,hd,by simp⟩
  obtain ⟨found,hfound⟩ := Option.isSome_iff_exists.mp hsome
  obtain ⟨hmem,hid⟩ := Store.document_of_document? hfound
  have hkey : (Row.document found.registered).key = (Row.document d.registered).key :=
    congrArg (Prod.mk _) hid
  exact ⟨found,hfound,Row.document.inj (hx.keyed hmem h hkey)⟩

end Lookups

section Steps

/-- No document is called completed that was not, or else for a reason. -/
def NewlyWhole (files : Files) (x y : Store) : Prop :=
  ∀ d ∈ y.db.pdfDocuments, d.status = .completed →
    d ∈ x.db.pdfDocuments ∨ Whole files x.rows d

theorem newlyWhole_of_eq (h : y.db.pdfDocuments = x.db.pdfDocuments) : NewlyWhole files x y :=
  fun _ hd _ => .inl (h ▸ hd)

theorem Consistent.completed_of (hx : Consistent files x) (hAB : x.rows ⊆ y.rows)
    (hdocs : NewlyWhole files x y) :
    ∀ d ∈ y.db.pdfDocuments, d.status = .completed → Whole files y.rows d := by
  intro d hd hstatus
  have hwhole : Whole files x.rows d := (hdocs d hd hstatus).elim
    (fun hold => hx.completed d hold hstatus) id
  exact ⟨hwhole.totalPages,fun c hc => (hwhole.chunks c hc).mono hAB⟩

/-- A step that leaves the record as it is. -/
theorem Consistent.same (hx : Consistent files x) (hkeeps : x.Keeps y)
    (hdocs : NewlyWhole files x y) (htables : y.db.pdfTables = x.db.pdfTables)
    (hlabels : Labelled y.db) : Consistent files y ∧ Grows files x y := by
  refine ⟨⟨?_,?_,?_,hx.completed_of hkeeps.rows.ge hdocs,?_,hlabels⟩,?_⟩
  · rw [hkeeps.rows]
    exact hx.keyed
  · rw [hkeeps.rows]
    exact hx.grounded
  · intro col
    rw [hkeeps.ids]
    exact hx.ids col
  · intro doc hdoc
    rw [Database.tablesOf, htables]
    exact hx.tables doc (hkeeps.rows ▸ hdoc)
  · rw [Grows, hkeeps.rows]

/-- Other rows have no part in the tables; of a new document there are none. -/
theorem Consistent.tables_insert (hx : Consistent files x) {row : Row}
    (hadds : x.Adds y row) (hfresh : row.key.2 ∉ x.ids row.key.1)
    (htables : y.db.pdfTables = x.db.pdfTables) : TablesInOrder files y := by
  intro doc hdoc
  rw [Database.tablesOf, htables]
  rw [hadds.rows] at hdoc
  rcases hdoc with rfl | hdoc
  · have hnone : x.db.pdfTables.filter (fun t => t.documentId = doc.documentId) = [] := by
      rw [List.filter_eq_nil_iff]
      intro t ht hmine
      have hrow : .table t ∈ x.rows := ht
      obtain ⟨found,hunder,-⟩ : TableGrounds files x.rows t := hx.grounded _ hrow
      have htaken : found.documentId ∈ x.ids .documents := Store.key_mem_ids hunder.onRecord
      rw [hunder.documentId, of_decide_eq_true hmine] at htaken
      exact hfresh htaken
    rw [hnone]
    exact SharedLog.follows_nil _
  · exact hx.tables doc hdoc

/-- A step that adds one row, under an identifier that no row of its collection has. -/
theorem Consistent.add (hx : Consistent files x) {row : Row} (hadds : x.Adds y row)
    (hfresh : row.key.2 ∉ x.ids row.key.1) (hwhy : Justified files x.rows row)
    (hdocs : NewlyWhole files x y) (htables : TablesInOrder files y) (hlabels : Labelled y.db) :
    Consistent files y ∧ Grows files x y := by
  have hnew : ∀ s ∈ x.rows, s.key ≠ row.key := by
    intro s hs hkey
    have htaken := Store.key_mem_ids hs
    rw [hkey] at htaken
    exact hfresh htaken
  have hgrows : Grows files x y := by
    rw [Grows, hadds.rows]
    exact .single (.row row hnew hwhy)
  exact ⟨⟨Archive.Grows.keyed hgrows hx.keyed,
    Archive.Grows.grounded (lasting_justified files) hgrows hx.grounded,
    hadds.nodup hfresh hx.ids,
    hx.completed_of (Archive.Grows.subset hgrows) hdocs,htables,hlabels⟩,hgrows⟩

/-- What is saved under an identifier that was refused to nobody is new. -/
theorem not_mem_ids {α : Type} {saved : List α} {key : α → String} {id : String}
    (h : ∀ s ∈ saved, key s ≠ id) : id ∉ saved.map key := by
  intro hid
  obtain ⟨s,hs,hkey⟩ := List.mem_map.mp hid
  exact h s hs hkey

end Steps

end FinancialPdfReader
