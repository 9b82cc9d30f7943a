import FinancialPdfReader.Models.Disclosures
import FinancialPdfReader.Services.Summarization.Generate

namespace FinancialPdfReader

open Py

def auditedDocument (db : Database) (documentId : String) : Except PyError PDFDocument :=
  match db.document? documentId with
  | none => .error (.valueError ("Document not found: " ++ documentId))
  | some doc =>
      if doc.status = .completed then .ok doc
      else .error (.valueError ("Document not ingested (status=" ++ Choices.text doc.status ++
        "). Run /ingest first."))

def auditedChunks (db : Database) (documentId : String) : Except PyError (List PDFChunk) :=
  let chunks := (db.chunksByPage documentId).take 60
  if chunks.isEmpty then .error (.valueError "No chunks found. Run /ingest first.")
  else .ok chunks

/-- The decoder's own part of the message is left out. -/
def readCoverage (rawText : String) : Except PyError Json :=
  match (jsonBlock rawText).bind Json.loads with
  | none =>
      .error (.runtimeError ("Coverage 回傳格式無法解析: \n原文: " ++ take 400 rawText))
  | some rawJson => .ok rawJson

/-- `item["key"]`, which is to become a key of a dictionary. -/
def keyedItem (item : Json) : Except PyError (Json × Json) := do
  let key ← item.subscript "key"
  if key.isHashable then pure (key,item) else .error .typeError

/-- `{item["key"]: item for item in items}` -/
def itemsByKey (items : List Json) : Except PyError (Dict Json Json) := do
  let entries ← items.mapM keyedItem
  pure (entries.foldl (fun d e => d.set e.1 e.2) .empty)

/-- The item of one registry entry; what was found under a key has a `get`. -/
def coverageDraft (byKey : Dict Json Json) (entry : String × String) : CoverageDraft :=
  let raw := (byKey.get? (.str entry.1)).getD (.obj [])
  { key := entry.1
    labelZh := entry.2
    status := stringField "ambiguous" (raw.getD "status" (.str "ambiguous"))
    evidencePages := listField (raw.getD "evidence_pages" (.arr []))
    note := stringField "" (raw.getD "note" (.str "")) }

def coverageDrafts (rawJson : Json) : Except PyError (List CoverageDraft) := do
  let found ← rawJson.get "items" (.arr [])
  let items ← found.iter
  let byKey ← itemsByKey items
  pure (disclosureRegistry.map (coverageDraft byKey))

def statusCount (drafts : List CoverageDraft) (s : CoverageStatus) : Nat :=
  drafts.countP (fun d => d.status == .str (Choices.text s))

def DisclosureCoverageItem.toJson (i : DisclosureCoverageItem) : Json := .obj [
  ("key",.str i.key), ("label_zh",.str i.labelZh), ("status",.str (Choices.text i.status)),
  ("evidence_pages",.arr (i.evidencePages.map .str)), ("note",.str i.note)]

/-- The answer to the request. -/
def coverageAnswer (r : DisclosureCoverageReport) : List (String × Json) := [
  ("coverage_id",.str r.coverageId), ("document_id",.str r.documentId),
  ("stock_id",.str r.stockId), ("period",.str r.period), ("found_count",.int r.foundCount),
  ("found_incomplete_count",.int r.foundIncompleteCount),
  ("not_found_count",.int r.notFoundCount),
  ("not_applicable_count",.int r.notApplicableCount), ("total_count",.int r.totalCount),
  ("items",.arr (r.items.map DisclosureCoverageItem.toJson))]

/-- The counts are taken of the items as they are built. -/
def coverageReport (coverageId : String) (now : Nat) (doc : PDFDocument) (documentId : String)
    (drafts : List CoverageDraft) (items : List DisclosureCoverageItem) :
    DisclosureCoverageReport where
  coverageId
  documentId
  stockId := doc.stockId
  period := doc.period
  items
  foundCount := statusCount drafts .found
  foundIncompleteCount := statusCount drafts .foundIncomplete
  notFoundCount := statusCount drafts .notFound
  notApplicableCount := statusCount drafts .notApplicable
  totalCount := 14
  createdAt := now

/-- `reply` is the text of the model's message, or what the call to it raises. A run that fails
has saved nothing. -/
def checkDisclosureCoverage (coverageId : String) (now : Nat) (reply : Except PyError String)
    (db : Database) (reports : List DisclosureCoverageReport) (documentId : String) :
    Except PyError (List DisclosureCoverageReport × List (String × Json)) := do
  let doc ← auditedDocument db documentId
  let _ ← auditedChunks db documentId
  let rawText ← reply
  let rawJson ← readCoverage rawText
  let drafts ← coverageDrafts rawJson
  let items ← drafts.mapM CoverageDraft.validate
  let report := coverageReport coverageId now doc documentId drafts items
  let saved ← Database.saveNew reports (·.coverageId) "coverage_id" report
  pure (saved,coverageAnswer report)

section Reply

/-- An item with a key that a dictionary takes. -/
def Keyed (item : Json) : Prop := ∃ key, item.field? "key" = some key ∧ key.isHashable = true

/-- Each field is missing, null or of the kind that a report takes. -/
structure Usable (item : Json) : Prop where
  status : item.getD "status" .null = .null ∨
    ∃ s : CoverageStatus, item.getD "status" .null = .str (Choices.text s)
  evidencePages : item.getD "evidence_pages" .null = .null ∨
    ∃ pages : List String, item.getD "evidence_pages" .null = .arr (pages.map .str)
  note : item.getD "note" .null = .null ∨ ∃ text, item.getD "note" .null = .str text

/-- Every item has a key, and the last one of each disclosure can be used. -/
def UsableReply (rawJson : Json) : Prop :=
  ∃ items, (rawJson.getD "items" (.arr [])).iter = .ok items ∧ (∀ item ∈ items, Keyed item) ∧
    ∀ entry ∈ disclosureRegistry, ∀ item,
      items.reverse.find? (fun i => i.field? "key" = some (.str entry.1)) = some item → Usable item

theorem keyedItem_eq_ok {item : Json} {e : Json × Json} : keyedItem item = .ok e ↔
    (item.field? "key" = some e.1 ∧ e.1.isHashable = true) ∧ e.2 = item := by
  obtain ⟨key,kept⟩ := e
  have hsub : ∀ k, item.subscript "key" = .ok k ↔ item.field? "key" = some k := by
    intro k
    cases item with
    | obj fields =>
      rw [Json.subscript, Json.field?]
      cases fields.lookup "key" <;> simp
    | _ => simp [Json.subscript, Json.field?]
  rw [keyedItem, bind_eq_ok]
  constructor
  · intro hparts
    obtain ⟨k,hk,hkept⟩ := hparts
    split_ifs at hkept with hhash
    obtain ⟨rfl,rfl⟩ := Prod.mk.inj (Except.ok.inj hkept)
    exact ⟨⟨(hsub k).mp hk,hhash⟩,rfl⟩
  · intro hparts
    obtain ⟨⟨hkey,hhash⟩,rfl⟩ := hparts
    exact ⟨key,(hsub key).mpr hkey,if_pos hhash⟩

theorem raises_keyedItem (item : Json) :
    Raises (fun e => e = .keyError ∨ e = .typeError) (keyedItem item) := by
  apply Raises.bind
  · intro e he
    cases item with
    | obj fields =>
      rw [Json.subscript] at he
      split at he
      · contradiction
      · exact Or.inl (Except.error.inj he).symm
    | _ => exact Or.inr (Except.error.inj he).symm
  · intro key e he
    split_ifs at he
    · contradiction
    · exact Or.inr (Except.error.inj he).symm

/-- The last item of a key stands for it. -/
theorem itemsByKey_get? {items : List Json} {byKey : Dict Json Json}
    (h : itemsByKey items = .ok byKey) (key : String) : byKey.get? (.str key) =
      items.reverse.find? (fun i => i.field? "key" = some (.str key)) := by
  obtain ⟨entries,hentries,hfold⟩ := bind_eq_ok.mp h
  obtain rfl := Except.ok.inj hfold
  have hmap : entries = items.map (fun i => (i.getD "key" .null,i)) := by
    have hread : items.mapM keyedItem = .ok (items.map (fun i => (i.getD "key" .null,i))) := by
      apply mapM_eq_map
      intro item hitem
      obtain ⟨e,-,he⟩ := mapM_mem_left hentries hitem
      obtain ⟨⟨hkey,-⟩,heq⟩ := keyedItem_eq_ok.mp he
      rw [he, Json.getD, hkey, ← heq]
      rfl
    exact Except.ok.inj (hentries.symm.trans hread)
  have hkey : (fun i : Json => decide (i.getD "key" .null = .str key)) =
      fun i => decide (i.field? "key" = some (.str key)) := by
    funext i
    rw [Json.getD]
    cases i.field? "key" <;> simp
  rw [hmap, List.foldl_map, Dict.get?_foldl_set, hkey]

theorem itemsByKey_isOk_iff {items : List Json} :
    (∃ byKey, itemsByKey items = .ok byKey) ↔ ∀ item ∈ items, Keyed item := by
  have hkeyed : ∀ item, (∃ e, keyedItem item = .ok e) ↔ Keyed item := by
    intro item
    constructor
    · intro hparts
      obtain ⟨e,he⟩ := hparts
      exact ⟨e.1,(keyedItem_eq_ok.mp he).1⟩
    · intro hparts
      obtain ⟨key,hkey⟩ := hparts
      exact ⟨(key,item),keyedItem_eq_ok.mpr ⟨hkey,rfl⟩⟩
  have hall : (∃ entries, items.mapM keyedItem = .ok entries) ↔ ∀ item ∈ items, Keyed item := by
    rw [mapM_isOk_iff]
    simp only [hkeyed]
  rw [← hall]
  constructor
  · intro hparts
    obtain ⟨byKey,h⟩ := hparts
    obtain ⟨entries,hentries,-⟩ := bind_eq_ok.mp h
    exact ⟨entries,hentries⟩
  · intro hparts
    obtain ⟨entries,hentries⟩ := hparts
    exact ⟨_,bind_eq_ok.mpr ⟨entries,hentries,rfl⟩⟩

/-- A value that is left out is taken like null. -/
theorem stringField_getD (raw : Json) (key default : String) :
    stringField default (raw.getD key (.str default)) =
      stringField default (raw.getD key .null) := by
  rw [Json.getD, Json.getD]
  cases raw.field? key <;> rfl

theorem listField_getD (raw : Json) (key : String) :
    listField (raw.getD key (.arr [])) = listField (raw.getD key .null) := by
  rw [Json.getD, Json.getD]
  cases raw.field? key <;> rfl

theorem coverageDraft_isOk_iff (byKey : Dict Json Json) (entry : String × String) :
    (∃ i, (coverageDraft byKey entry).validate = .ok i) ↔
      Usable ((byKey.get? (.str entry.1)).getD (.obj [])) := by
  simp only [CoverageDraft.validate_eq_ok, coverageDraft, stringField_getD, listField_getD]
  generalize (byKey.get? (.str entry.1)).getD (.obj []) = raw
  constructor
  · intro hparts
    obtain ⟨i,hi⟩ := hparts
    obtain ⟨-,-,hstatus,hpages,hnote⟩ := CoverageDraft.mk.inj hi
    refine ⟨?_,?_,?_⟩
    · by_cases hnull : raw.getD "status" .null = .null
      · exact Or.inl hnull
      · exact Or.inr ⟨i.status,(stringField_of_ne_null hnull).symm.trans hstatus⟩
    · by_cases hnull : raw.getD "evidence_pages" .null = .null
      · exact Or.inl hnull
      · exact Or.inr ⟨i.evidencePages,(listField_of_ne_null hnull).symm.trans hpages⟩
    · by_cases hnull : raw.getD "note" .null = .null
      · exact Or.inl hnull
      · exact Or.inr ⟨i.note,(stringField_of_ne_null hnull).symm.trans hnote⟩
  · intro h
    have hstatus : ∃ s : CoverageStatus,
        stringField "ambiguous" (raw.getD "status" .null) = .str (Choices.text s) := by
      rcases h.status with hnull | ⟨s,hs⟩
      · exact ⟨.ambiguous,by rw [hnull]; rfl⟩
      · exact ⟨s,by rw [hs]; rfl⟩
    have hpages : ∃ pages : List String,
        listField (raw.getD "evidence_pages" .null) = .arr (pages.map .str) := by
      rcases h.evidencePages with hnull | ⟨pages,hpages⟩
      · exact ⟨[],by rw [hnull]; rfl⟩
      · exact ⟨pages,by rw [hpages]; rfl⟩
    have hnote : ∃ text, stringField "" (raw.getD "note" .null) = .str text := by
      rcases h.note with hnull | ⟨text,htext⟩
      · exact ⟨"",by rw [hnull]; rfl⟩
      · exact ⟨text,by rw [htext]; rfl⟩
    obtain ⟨s,hs⟩ := hstatus
    obtain ⟨pages,hp⟩ := hpages
    obtain ⟨text,ht⟩ := hnote
    exact ⟨⟨entry.1,entry.2,s,pages,text⟩,by rw [hs, hp, ht]⟩

end Reply

section Block

/-- Members make an object. -/
theorem scanMembers_obj {fuel : Nat} {fields : Dict String Json} {cs rest : List Char} {x : Json}
    (h : JsonLoads.scanMembers fuel fields cs = some (x,rest)) : ∃ entries, x = .obj entries := by
  induction fuel generalizing fields cs with
  | zero => simp [JsonLoads.scanMembers] at h
  | succ fuel ih =>
    unfold JsonLoads.scanMembers at h
    split at h
    · contradiction
    · rename_i hfuel
      obtain rfl := Nat.succ.inj hfuel
      obtain ⟨⟨key,afterKey⟩,-,h⟩ := Option.bind_eq_some_iff.mp h
      dsimp only at h
      split at h
      · obtain ⟨⟨value,afterValue⟩,-,h⟩ := Option.bind_eq_some_iff.mp h
        dsimp only at h
        split at h
        · exact ih h
        · exact ⟨_,(Prod.mk.inj (Option.some.inj h)).1.symm⟩
        · contradiction
      · contradiction
    · contradiction

theorem loads_brace {cs : List Char} {x : Json}
    (h : Json.loads (String.ofList ('{' :: cs)) = some x) : ∃ entries, x = .obj entries := by
  have hskip : JsonLoads.skipBlanks ('{' :: cs) = '{' :: cs :=
    List.dropWhile_cons_of_neg (by decide)
  rw [Json.loads, String.toList_ofList, hskip] at h
  obtain ⟨⟨value,rest⟩,hvalue,h⟩ := Option.bind_eq_some_iff.mp h
  dsimp only at h
  split_ifs at h with hrest
  obtain rfl := Option.some.inj h
  rw [JsonLoads.scanValue] at hvalue
  split at hvalue
  · exact ⟨[],(Prod.mk.inj (Option.some.inj hvalue)).1.symm⟩
  · exact scanMembers_obj hvalue

/-- What is cut out of a reply begins with a brace, so it can only decode to an object. -/
theorem object_of_jsonBlock {rawText : String} {rawJson : Json}
    (h : (jsonBlock rawText).bind Json.loads = some rawJson) :
    ∃ fields, rawJson = .obj fields := by
  obtain ⟨block,hblock,hloads⟩ := Option.bind_eq_some_iff.mp h
  unfold jsonBlock at hblock
  dsimp only at hblock
  split_ifs at hblock with hbraces
  obtain rfl := Option.some.inj hblock
  rw [Bool.and_eq_true, List.contains_iff_mem, List.contains_iff_mem] at hbraces
  have hstart := List.idxOf_lt_length_iff.mpr hbraces.1
  rw [List.drop_take, List.drop_eq_getElem_cons hstart, List.getElem_idxOf hstart] at hloads
  generalize rawText.toList.length - rawText.toList.reverse.idxOf '}' -
    rawText.toList.idxOf '{' = n at hloads
  cases n with
  | zero =>
    have hempty : Json.loads (String.ofList []) = none := by decide
    rw [List.take_zero, hempty] at hloads
    contradiction
  | succ n => exact loads_brace hloads

end Block

section Contract

/-- The exceptions that the route turns into an answer of its own. -/
def Translated (e : PyError) : Prop :=
  (∃ message, e = .valueError message) ∨ ∃ message, e = .runtimeError message

/-- The registry's items in its order, and counts that leave only the ambiguous ones out. -/
structure CompleteReport (r : DisclosureCoverageReport) : Prop where
  items : r.items.map (fun i => (i.key,i.labelZh)) = disclosureRegistry
  counts : r.foundCount + r.foundIncompleteCount + r.notFoundCount + r.notApplicableCount +
    r.items.countP (fun i => i.status == .ambiguous) = 14

/-- A run fails with an exception that is translated, or it saves a complete report and answers
with it. -/
def KeepsContract (reports : List DisclosureCoverageReport) :
    Except PyError (List DisclosureCoverageReport × List (String × Json)) → Prop
  | .error e => Translated e
  | .ok (saved,answer) => ∃ r, saved = reports ++ [r] ∧ answer = coverageAnswer r ∧ CompleteReport r

theorem coverageDrafts_eq_ok {rawJson : Json} (hobject : ∃ fields, rawJson = .obj fields)
    {drafts : List CoverageDraft} : coverageDrafts rawJson = .ok drafts ↔
      ∃ items byKey, (rawJson.getD "items" (.arr [])).iter = .ok items ∧
        itemsByKey items = .ok byKey ∧ drafts = disclosureRegistry.map (coverageDraft byKey) := by
  rw [coverageDrafts, Json.get_eq_getD hobject, ok_bind]
  constructor
  · intro h
    obtain ⟨items,hitems,h⟩ := bind_eq_ok.mp h
    obtain ⟨byKey,hbyKey,h⟩ := bind_eq_ok.mp h
    exact ⟨items,byKey,hitems,hbyKey,(Except.ok.inj h).symm⟩
  · intro hparts
    obtain ⟨items,byKey,hitems,hbyKey,rfl⟩ := hparts
    exact bind_eq_ok.mpr ⟨items,hitems,bind_eq_ok.mpr ⟨byKey,hbyKey,rfl⟩⟩

/-- A report can be built and saved of a usable reply and of no other. -/
theorem coverageDrafts_isOk_iff {rawJson : Json} (hobject : ∃ fields, rawJson = .obj fields) :
    (∃ drafts items, coverageDrafts rawJson = .ok drafts ∧
      drafts.mapM CoverageDraft.validate = .ok items) ↔ UsableReply rawJson := by
  have hnone : Usable (.obj []) := ⟨Or.inl rfl,Or.inl rfl,Or.inl rfl⟩
  have hfound : ∀ found : Option Json,
      Usable (found.getD (.obj [])) ↔ ∀ item, found = some item → Usable item := by
    intro found
    cases found <;> simp [hnone]
  have hvalid : ∀ byKey : Dict Json Json, (∃ items,
      (disclosureRegistry.map (coverageDraft byKey)).mapM CoverageDraft.validate = .ok items) ↔
        ∀ entry ∈ disclosureRegistry, Usable ((byKey.get? (.str entry.1)).getD (.obj [])) := by
    intro byKey
    rw [mapM_isOk_iff, List.forall_mem_map]
    simp only [coverageDraft_isOk_iff]
  constructor
  · intro hparts
    obtain ⟨drafts,valid,hdrafts,hvalidated⟩ := hparts
    obtain ⟨items,byKey,hitems,hbyKey,rfl⟩ := (coverageDrafts_eq_ok hobject).mp hdrafts
    refine ⟨items,hitems,itemsByKey_isOk_iff.mp ⟨byKey,hbyKey⟩,?_⟩
    intro entry hentry item hitem
    have husable := (hvalid byKey).mp ⟨valid,hvalidated⟩ entry hentry
    rw [itemsByKey_get? hbyKey, hfound] at husable
    exact husable item hitem
  · intro hparts
    obtain ⟨items,hitems,hkeyed,husable⟩ := hparts
    obtain ⟨byKey,hbyKey⟩ := itemsByKey_isOk_iff.mpr hkeyed
    obtain ⟨valid,hvalidated⟩ := (hvalid byKey).mpr (by
      intro entry hentry
      rw [itemsByKey_get? hbyKey, hfound]
      exact husable entry hentry)
    exact ⟨_,valid,(coverageDrafts_eq_ok hobject).mpr ⟨items,byKey,hitems,hbyKey,rfl⟩,hvalidated⟩

theorem not_translated_of_lookup {e : PyError} (h : e = .keyError ∨ e = .typeError) :
    ¬ Translated e := by
  intro htranslated
  rcases h with rfl | rfl <;> rcases htranslated with ⟨message,heq⟩ | ⟨message,heq⟩ <;>
    contradiction

theorem not_translated_of_validation {e : PyError} (h : ∃ field, e = .validationError field) :
    ¬ Translated e := by
  intro htranslated
  obtain ⟨field,rfl⟩ := h
  rcases htranslated with ⟨message,heq⟩ | ⟨message,heq⟩ <;> contradiction

/-- Items that cannot be looked up stop the run with an exception that nobody translates. -/
theorem raises_coverageDrafts {rawJson : Json} (hobject : ∃ fields, rawJson = .obj fields) :
    Raises (fun e => ¬ Translated e) (coverageDrafts rawJson) := by
  rw [coverageDrafts, Json.get_eq_getD hobject, ok_bind]
  have hiter : ∀ x : Json, Raises (fun e => e = .keyError ∨ e = .typeError) x.iter := by
    intro x e he
    cases x <;> simp [Json.iter] at he
    all_goals exact Or.inr he.symm
  have hdrafts : Raises (fun e => e = .keyError ∨ e = .typeError) (do
      let items ← (rawJson.getD "items" (.arr [])).iter
      let byKey ← itemsByKey items
      pure (disclosureRegistry.map (coverageDraft byKey))) := by
    refine (hiter _).bind (fun items => ?_)
    refine Raises.bind ?_ (fun byKey => raises_ok _)
    exact (raises_mapM raises_keyedItem items).bind (fun entries => raises_ok _)
  exact hdrafts.imp (fun e => not_translated_of_lookup)

/-- Every status counts for one of the five. -/
theorem countP_status (items : List DisclosureCoverageItem) :
    items.countP (fun i => i.status == .found) +
      items.countP (fun i => i.status == .foundIncomplete) +
      items.countP (fun i => i.status == .notFound) +
      items.countP (fun i => i.status == .notApplicable) +
      items.countP (fun i => i.status == .ambiguous) = items.length := by
  induction items with
  | nil => rfl
  | cons i items ih =>
    simp only [List.countP_cons, List.length_cons]
    cases i.status <;> simp <;> omega

section Built

variable {drafts : List CoverageDraft} {items : List DisclosureCoverageItem}

theorem statusCount_eq (h : drafts.mapM CoverageDraft.validate = .ok items) (s : CoverageStatus) :
    statusCount drafts s = items.countP (fun i => i.status == s) := by
  have hstatus : List.Forall₂ (fun d i => (i.status == s) =
      (d.status == Json.str (Choices.text s))) drafts items := by
    apply (mapM_eq_ok.mp h).imp
    intro d i hi
    rw [CoverageDraft.validate_eq_ok.mp hi, Bool.eq_iff_iff, beq_iff_eq, beq_iff_eq]
    exact (Choices.str_text_eq_iff i.status s).symm
  exact (countP_eq_of_forall₂ hstatus).symm

theorem entries_eq (h : drafts.mapM CoverageDraft.validate = .ok items) :
    items.map (fun i => (i.key,i.labelZh)) = drafts.map (fun d => (d.key,d.labelZh)) := by
  have hentries : List.Forall₂ (fun d i => (d.key,d.labelZh) = (i.key,i.labelZh)) drafts items := by
    apply (mapM_eq_ok.mp h).imp
    intro d i hi
    rw [CoverageDraft.validate_eq_ok.mp hi]
  have hmaps : List.Forall₂ (· = ·) (drafts.map (fun d => (d.key,d.labelZh)))
      (items.map (fun i => (i.key,i.labelZh))) :=
    List.forall₂_map_left_iff.mpr (List.forall₂_map_right_iff.mpr hentries)
  rw [List.forall₂_eq_eq_eq] at hmaps
  exact hmaps.symm

theorem completeReport {rawJson : Json} (hobject : ∃ fields, rawJson = .obj fields)
    (hdrafts : coverageDrafts rawJson = .ok drafts)
    (hitems : drafts.mapM CoverageDraft.validate = .ok items) (coverageId : String) (now : Nat)
    (doc : PDFDocument) (documentId : String) :
    CompleteReport (coverageReport coverageId now doc documentId drafts items) := by
  obtain ⟨found,byKey,-,-,hregistry⟩ := (coverageDrafts_eq_ok hobject).mp hdrafts
  have hentries : items.map (fun i => (i.key,i.labelZh)) = disclosureRegistry := by
    rw [entries_eq hitems, hregistry, List.map_map]
    exact List.map_id' disclosureRegistry
  have hlength : items.length = 14 := by
    rw [← List.length_map (fun i : DisclosureCoverageItem => (i.key,i.labelZh)), hentries]
    rfl
  refine ⟨hentries,?_⟩
  simp only [coverageReport, statusCount_eq hitems]
  rw [countP_status, hlength]

end Built

/-- The contract holds of a reply that has no object in it, as the run then fails with a message of
its own, and of an object that can be used. -/
theorem checkDisclosureCoverage_keepsContract_iff {db : Database} {documentId : String}
    {doc : PDFDocument} (hdoc : db.document? documentId = some doc)
    (hdone : doc.status = .completed) (hchunks : db.chunksByPage documentId ≠ [])
    {reports : List DisclosureCoverageReport} {coverageId : String}
    (hfresh : ∀ r ∈ reports, r.coverageId ≠ coverageId) (now : Nat) (rawText : String) :
    KeepsContract reports
        (checkDisclosureCoverage coverageId now (.ok rawText) db reports documentId) ↔
      ∀ rawJson, (jsonBlock rawText).bind Json.loads = some rawJson → UsableReply rawJson := by
  have hdocument : auditedDocument db documentId = .ok doc := by
    rw [auditedDocument, hdoc]
    exact if_pos hdone
  have hpages : auditedChunks db documentId = .ok ((db.chunksByPage documentId).take 60) := by
    have hsome : ((db.chunksByPage documentId).take 60).isEmpty = false := by
      cases hlist : db.chunksByPage documentId with
      | nil => exact absurd hlist hchunks
      | cons c cs => rfl
    rw [auditedChunks, hsome]
    rfl
  rw [checkDisclosureCoverage, hdocument, hpages, ok_bind, ok_bind, ok_bind]
  cases hread : (jsonBlock rawText).bind Json.loads with
  | none =>
    rw [readCoverage, hread]
    simp only [error_bind]
    constructor
    · intro _ rawJson hsome
      contradiction
    · intro _
      exact Or.inr ⟨_,rfl⟩
  | some rawJson =>
    have hobject := object_of_jsonBlock hread
    have hvalidate := raises_mapM (fun d : CoverageDraft => d.raises_validate)
    rw [readCoverage, hread]
    simp only [ok_bind]
    constructor
    · intro hkeeps rawJson' hsame
      obtain rfl := Option.some.inj hsame
      rw [← coverageDrafts_isOk_iff hobject]
      cases hdrafts : coverageDrafts rawJson with
      | error e =>
        rw [hdrafts] at hkeeps
        exact absurd hkeeps (raises_coverageDrafts hobject e hdrafts)
      | ok drafts =>
        rw [hdrafts, ok_bind] at hkeeps
        cases hitems : drafts.mapM CoverageDraft.validate with
        | error e =>
          rw [hitems] at hkeeps
          exact absurd hkeeps (not_translated_of_validation (hvalidate drafts e hitems))
        | ok items => exact ⟨drafts,items,rfl,hitems⟩
    · intro hall
      obtain ⟨drafts,items,hdrafts,hitems⟩ :=
        (coverageDrafts_isOk_iff hobject).mpr (hall rawJson rfl)
      have hsaved : Database.saveNew reports (·.coverageId) "coverage_id"
          (coverageReport coverageId now doc documentId drafts items) =
            .ok (reports ++ [coverageReport coverageId now doc documentId drafts items]) :=
        Database.saveNew_eq_ok.mpr ⟨hfresh,rfl⟩
      rw [hdrafts, ok_bind, hitems, ok_bind, hsaved]
      exact ⟨_,rfl,rfl,completeReport hobject hdrafts hitems coverageId now doc documentId⟩

def auditedDatabase : Database :=
  { Database.empty with
    pdfDocuments := [⟨"doc-1","2330","2025Q1","2330.pdf",1,.completed,some 0⟩]
    pdfChunks := [⟨"chunk-1","doc-1","2330","2025Q1",1,"notes","股利分配",4⟩] }

/-- One disclosure found, one under no key of the registry. -/
def dividendReply : String :=
  "\x7b\"items\": [\x7b\"key\": \"dividends\", \"status\": \"found\", " ++
    "\"evidence_pages\": [\"1\"]\x7d, \x7b\"key\": \"other\"\x7d]\x7d"

def dividendItems : List Json := [
  .obj [("key",.str "dividends"),("status",.str "found"),("evidence_pages",.arr [.str "1"])],
  .obj [("key",.str "other")]]

/-- What an earlier run has saved that found nothing. -/
def earlierCoverage : DisclosureCoverageReport :=
  coverageReport "cov-1" 0 ⟨"doc-1","2330","2025Q1","2330.pdf",1,.completed,some 0⟩ "doc-1" []
    (disclosureRegistry.map (fun entry => ⟨entry.1,entry.2,.ambiguous,[],""⟩))

theorem checkDisclosureCoverage_keepsContract_dividends : KeepsContract [earlierCoverage]
    (checkDisclosureCoverage "cov-2" 1 (.ok dividendReply) auditedDatabase [earlierCoverage]
      "doc-1") := by
  have hread : (jsonBlock dividendReply).bind Json.loads =
      some (.obj [("items",.arr dividendItems)]) := by decide +kernel
  have hdoc : auditedDatabase.document? "doc-1" =
      some ⟨"doc-1","2330","2025Q1","2330.pdf",1,.completed,some 0⟩ := rfl
  have hfresh : ∀ r ∈ [earlierCoverage], r.coverageId ≠ "cov-2" := by
    simp [earlierCoverage, coverageReport]
  rw [checkDisclosureCoverage_keepsContract_iff hdoc rfl (by decide) hfresh, hread]
  intro rawJson hsome
  obtain rfl := Option.some.inj hsome
  refine ⟨dividendItems,rfl,?_,?_⟩
  · simp only [dividendItems, List.forall_mem_cons]
    exact ⟨⟨.str "dividends",rfl,rfl⟩,⟨.str "other",rfl,rfl⟩,by simp⟩
  · have husable : ∀ item ∈ dividendItems, Usable item := by
      simp only [dividendItems, List.forall_mem_cons]
      exact ⟨⟨.inr ⟨.found,rfl⟩,.inr ⟨["1"],rfl⟩,.inl rfl⟩,⟨.inl rfl,.inl rfl,.inl rfl⟩,by simp⟩
    intro entry _ item hitem
    exact husable item (List.mem_reverse.mp (List.mem_of_find?_eq_some hitem))

def unknownStatusReply : String :=
  "\x7b\"items\": [\x7b\"key\": \"dividends\", \"status\": \"partial\"\x7d]\x7d"

/-- A status that is not one of the five stops the run when the report is saved. -/
theorem unknownStatusReply_untranslated :
    checkDisclosureCoverage "cov-1" 0 (.ok unknownStatusReply) auditedDatabase [] "doc-1" =
        .error (.validationError "status") ∧
      ¬ KeepsContract [] (checkDisclosureCoverage "cov-1" 0 (.ok unknownStatusReply)
        auditedDatabase [] "doc-1") := by
  have hrun : checkDisclosureCoverage "cov-1" 0 (.ok unknownStatusReply) auditedDatabase []
      "doc-1" = .error (.validationError "status") := by decide +kernel
  refine ⟨hrun,?_⟩
  rw [hrun]
  exact not_translated_of_validation ⟨"status",rfl⟩

end Contract

end FinancialPdfReader
