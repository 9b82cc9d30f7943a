import FinancialPdfReader.Python.Dict
import FinancialPdfReader.Services.Audit
import FinancialPdfReader.Services.Summarization.Saved

namespace FinancialPdfReader

open Py

/-- What became of the call for one section: a raised error, or the text of the reply. -/
inductive SectionReply where
  | raised (error : PyError)
  | text (rawText : String)

/-- `{section: [chunks]}`; chunks of no known section take no part. -/
def getSectionChunks (db : Database) (documentId : String) : Dict String (List PDFChunk) :=
  Dict.group (·.sectionName) ((db.chunksByPage documentId).filter
    (fun c => c.sectionName != "" && c.sectionName != "unknown"))

/-- A page as it is given, without the blanks around it. -/
def readPage (evidence : Json) (key : String) : Except PyError String := do
  let page ← evidence.get key (.str "")
  pure (strip page.toStr)

/-- `item.get(key, "")[:n]` -/
def readQuote (item : Json) (key : String) (n : Nat) : Except PyError Json := do
  let quoted ← item.get key (.str "")
  quoted.slice n

/-- `presence if presence in (...) else "both"` -/
def readPresence (presence : Json) : Presence :=
  match presence with
  | .str s => (Choices.ofText? s).getD .both
  | _ => .both

/-- The rest of an item, once a page is known. -/
def pagedItem (uuid sectionName currentDocumentId previousDocumentId : String)
    (item evData presence : Json) (cPage pPage : String) : Except PyError (DiffItem Json) := do
  let currentQuoted ← readQuote evData "current_quoted" 100
  let previousQuoted ← readQuote evData "previous_quoted" 100
  let diffType ← readChoice item "diff_type" DiffType.newLanguage
  let diffId ← item.get "diff_id" (.str uuid)
  let description ← item.get "description" (.str "")
  let currentSummary ← readQuote item "current_summary" 300
  let previousSummary ← readQuote item "previous_summary" 300
  let toneOnly ← item.get "tone_only" (.bool (diffType == .toneShift))
  let requiresHumanReview ← item.get "requires_human_review" (.bool true)
  pure {
    diffId
    sectionName
    diffType
    description
    currentSummary := stringField "" currentSummary
    previousSummary := stringField "" previousSummary
    evidence := {
      currentDocumentId := if cPage = "" then "" else currentDocumentId
      currentPage := cPage
      currentQuoted := stringField "" currentQuoted
      previousDocumentId := if pPage = "" then "" else previousDocumentId
      previousPage := pPage
      previousQuoted := stringField "" previousQuoted
      presence := readPresence presence }
    requiresHumanReview := boolField true requiresHumanReview
    toneOnly := boolField false toneOnly }

/-- One item of the reply, `none` where it names no page. -/
def diffItem (uuid sectionName currentDocumentId previousDocumentId : String) (item : Json) :
    Except PyError (Option (DiffItem Json)) := do
  let evData ← item.get "evidence" (.obj [])
  let presence ← evData.get "presence" (.str "both")
  let cPage ← readPage evData "current_page"
  let pPage ← readPage evData "previous_page"
  if cPage = "" && pPage = "" then pure none
  else
    let read ← pagedItem uuid sectionName currentDocumentId previousDocumentId item evData
      presence cPage pPage
    pure (some read)

/-- `raw_json.get("items", [])`, as the loop runs over it. -/
def diffItemsOf (rawJson : Json) : Except PyError (List Json) := do
  let listed ← rawJson.get "items" (.arr [])
  listed.iter

/-- `none` for a text in which no object can be read. -/
def sectionJson (rawText : String) : Option Json := (jsonBlock rawText).bind Json.loads

/-- The items of a reply; one that cannot be parsed has none. -/
def replyItems (reply : SectionReply) : Except PyError (List Json) :=
  match reply with
  | .raised error => .error error
  | .text rawText => match sectionJson rawText with
    | none => .ok []
    | some rawJson => diffItemsOf rawJson

/-- The comparison of one section. -/
def diffSection (uuid4 : Nat → String) (sectionName currentDocumentId previousDocumentId : String)
    (reply : SectionReply) : Except PyError (List (DiffItem Json)) := do
  let items ← replyItems reply
  let found ← items.zipIdx.mapM (fun e =>
    diffItem (uuid4 e.2) sectionName currentDocumentId previousDocumentId e.1)
  pure (found.filterMap id)

/-- The item for a section that only the current document has. -/
def onlyCurrentItem (uuid documentId sectionName : String) (first : PDFChunk) : DiffItem Json where
  diffId := .str uuid
  sectionName
  diffType := .newLanguage
  description := .str ("本季新出現段落「" ++ sectionName ++ "」，上季無對應內容")
  currentSummary := .str (take 200 first.text)
  previousSummary := .str ""
  evidence :=
    ⟨documentId,toString first.page,.str (take 80 first.text),"","",.str "",.onlyInCurrent⟩
  requiresHumanReview := true
  toneOnly := false

/-- The item for a section that only the previous document has. -/
def onlyPreviousItem (uuid documentId sectionName : String) (first : PDFChunk) :
    DiffItem Json where
  diffId := .str uuid
  sectionName
  diffType := .removedLanguage
  description := .str ("上季存在段落「" ++ sectionName ++ "」，本季無對應內容")
  currentSummary := .str ""
  previousSummary := .str (take 200 first.text)
  evidence := ⟨"","",.str "",documentId,toString first.page,.str (take 80 first.text),
    .onlyInPrevious⟩
  requiresHumanReview := true
  toneOnly := false

def sortTexts (texts : List String) : List String := texts.insertionSort (· ≤ ·)

def comparedDocuments (db : Database) (currentDocumentId previousDocumentId : String) :
    Except PyError (PDFDocument × PDFDocument) :=
  match db.document? currentDocumentId, db.document? previousDocumentId with
  | none, _ => .error (.valueError ("Current document not found: " ++ currentDocumentId))
  | some _, none => .error (.valueError ("Previous document not found: " ++ previousDocumentId))
  | some current, some previous =>
      if current.stockId ≠ previous.stockId then
        .error (.valueError ("Stock ID mismatch: " ++ current.stockId ++ " vs " ++
          previous.stockId ++ ". Diff must compare same company."))
      else if current.status ≠ .completed || previous.status ≠ .completed then
        .error (.valueError
          "Both documents must be ingested (status=completed) before diff.")
      else .ok (current,previous)

def sharedSections (db : Database) (currentDocumentId previousDocumentId : String) : List String :=
  sortTexts ((getSectionChunks db currentDocumentId).keys.filter
    (fun s => (getSectionChunks db previousDocumentId).keys.contains s))

/-- The sections of the first document that the second lacks, each with its chunks. The code
takes them from a set; here they stand in the order of the document. -/
def onlySections (db : Database) (documentId otherId : String) : List (String × List PDFChunk) :=
  (getSectionChunks db documentId).entries.filter
    (fun e => !(getSectionChunks db otherId).keys.contains e.1)

/-- One item for each section, made of its first chunk. -/
def onlyItems (build : String → PDFChunk → DiffItem Json)
    (sections : List (String × List PDFChunk)) : List (DiffItem Json) :=
  sections.flatMap (fun e => (e.2.head?.map (build e.1)).toList)

/-- The items of the sections that both documents have; one that fails is passed over. -/
def sharedItems (uuid4 : String → Nat → String) (reply : String → SectionReply)
    (currentDocumentId previousDocumentId : String) (sections : List String) :
    List (DiffItem Json) :=
  sections.flatMap (fun s =>
    match diffSection (uuid4 s) s currentDocumentId previousDocumentId (reply s) with
    | .ok items => items
    | .error _ => [])

/-- `uuid4 s i` is drawn for item `i` of section `s`; the report's own is drawn under the empty
name, which no section has. -/
def generateDiff (uuid4 : String → Nat → String) (now : Nat) (reply : String → SectionReply)
    (db : Database) (currentDocumentId previousDocumentId : String) :
    Except PyError (Database × DiffReport) := do
  let (current,previous) ← comparedDocuments db currentDocumentId previousDocumentId
  let onlyCurrent := onlySections db currentDocumentId previousDocumentId
  let onlyPrevious := onlySections db previousDocumentId currentDocumentId
  let allItems :=
    sharedItems uuid4 reply currentDocumentId previousDocumentId
      (sharedSections db currentDocumentId previousDocumentId) ++
    onlyItems (fun s => onlyCurrentItem (uuid4 s 0) currentDocumentId s) onlyCurrent ++
    onlyItems (fun s => onlyPreviousItem (uuid4 s 0) previousDocumentId s) onlyPrevious
  let items ← allItems.mapM DiffItem.validate
  let report : DiffReport := {
    diffReportId := uuid4 "" 0
    currentDocumentId
    previousDocumentId
    stockId := current.stockId
    currentPeriod := current.period
    previousPeriod := previous.period
    items
    sectionsCompared := sharedSections db currentDocumentId previousDocumentId
    sectionsOnlyCurrent := sortTexts (onlyCurrent.map Prod.fst)
    sectionsOnlyPrevious := sortTexts (onlyPrevious.map Prod.fst)
    requiresHumanReview := true
    createdAt := now }
  let saved ← db.saveDiffReport report
  pure (saved,report)

/-- A run either raises or adds the report that it returns. -/
theorem generateDiff_eq_ok {uuid4 : String → Nat → String} {now : Nat}
    {reply : String → SectionReply} {db saved : Database}
    {currentDocumentId previousDocumentId : String} {report : DiffReport}
    (h : generateDiff uuid4 now reply db currentDocumentId previousDocumentId =
      .ok (saved,report)) :
    (sharedItems uuid4 reply currentDocumentId previousDocumentId
        (sharedSections db currentDocumentId previousDocumentId) ++
      onlyItems (fun s => onlyCurrentItem (uuid4 s 0) currentDocumentId s)
        (onlySections db currentDocumentId previousDocumentId) ++
      onlyItems (fun s => onlyPreviousItem (uuid4 s 0) previousDocumentId s)
        (onlySections db previousDocumentId currentDocumentId)).mapM DiffItem.validate =
      .ok report.items ∧
    (∀ s ∈ db.diffReports, s.diffReportId ≠ report.diffReportId) ∧
    saved = { db with diffReports := db.diffReports ++ [report] } := by
  obtain ⟨⟨current,previous⟩,-,h⟩ := bind_eq_ok.mp h
  obtain ⟨items,hitems,h⟩ := bind_eq_ok.mp h
  obtain ⟨after,hsave,h⟩ := bind_eq_ok.mp h
  obtain ⟨rfl,rfl⟩ := Prod.mk.inj (Except.ok.inj h)
  obtain ⟨hfresh,hsaved⟩ := Database.saveDiffReport_eq_ok hsave
  exact ⟨hitems,hfresh,hsaved⟩

/-- A pair of documents of different companies is refused. -/
theorem generateDiff_mismatch {uuid4 : String → Nat → String} {now : Nat}
    {reply : String → SectionReply} {db : Database} {currentDocumentId previousDocumentId : String}
    {current previous : PDFDocument} (hcurrent : db.document? currentDocumentId = some current)
    (hprevious : db.document? previousDocumentId = some previous)
    (hne : current.stockId ≠ previous.stockId) :
    ∃ error, generateDiff uuid4 now reply db currentDocumentId previousDocumentId =
      .error error := by
  have hrefused : ∃ error,
      comparedDocuments db currentDocumentId previousDocumentId = .error error := by
    simp only [comparedDocuments, hcurrent, hprevious, if_pos hne]
    exact ⟨_,rfl⟩
  obtain ⟨error,hrefused⟩ := hrefused
  exact ⟨error,by rw [generateDiff, hrefused, error_bind]⟩

theorem mem_keys_sectionChunks {db : Database} {documentId sectionName : String} :
    sectionName ∈ (getSectionChunks db documentId).keys ↔
      (sectionName ≠ "" ∧ sectionName ≠ "unknown") ∧
        ∃ c ∈ db.chunksByPage documentId, c.sectionName = sectionName := by
  rw [getSectionChunks, Dict.mem_keys_group]
  constructor
  · intro hfound
    obtain ⟨c,hc,rfl⟩ := hfound
    obtain ⟨hdocument,hnamed⟩ := List.mem_filter.mp hc
    exact ⟨by simpa using hnamed,c,hdocument,rfl⟩
  · intro hfound
    obtain ⟨hnamed,c,hc,rfl⟩ := hfound
    exact ⟨c,List.mem_filter.mpr ⟨hc,by simpa using hnamed⟩,rfl⟩

/-- A section is compared exactly when it has a name and both documents have a chunk of it. -/
theorem mem_sharedSections {db : Database} {currentDocumentId previousDocumentId s : String} :
    s ∈ sharedSections db currentDocumentId previousDocumentId ↔
      (s ≠ "" ∧ s ≠ "unknown") ∧
        (∃ c ∈ db.chunksByPage currentDocumentId, c.sectionName = s) ∧
        ∃ c ∈ db.chunksByPage previousDocumentId, c.sectionName = s := by
  rw [sharedSections, sortTexts, List.mem_insertionSort, List.mem_filter,
    mem_keys_sectionChunks, List.contains_iff_mem, mem_keys_sectionChunks]
  constructor
  · intro hboth
    exact ⟨hboth.1.1,hboth.1.2,hboth.2.2⟩
  · intro hboth
    exact ⟨⟨hboth.1,hboth.2.1⟩,hboth.1,hboth.2.2⟩

end FinancialPdfReader
