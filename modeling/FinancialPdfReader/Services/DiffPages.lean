import FinancialPdfReader.Services.DiffItems

namespace FinancialPdfReader

open Py

def NullPage (item : Json) (key : String) : Prop := (evidenceOf item).field? key = some .null

/-- The reply gives a page: not `null`, and with something else than blanks in it. -/
def PageGiven (item : Json) (key : String) : Prop :=
  ∃ page, (evidenceOf item).field? key = some page ∧ page ≠ .null ∧ strip page.toStr ≠ ""

/-- The presence says which of the two sides are given. -/
def Presence.Says (currentGiven previousGiven : Prop) : Presence → Prop
  | .both => currentGiven ∧ previousGiven
  | .onlyInCurrent => currentGiven ∧ ¬previousGiven
  | .onlyInPrevious => ¬currentGiven ∧ previousGiven

/-- The document is named where the side is given, and only there. -/
def SideSet (id documentId : String) (given : Prop) : Prop :=
  (given → id = documentId) ∧ (¬given → id = "")

/-- What is made of an item of the reply has the sources that the item gives. -/
structure PagesBacked (currentDocumentId previousDocumentId : String) (item : Json)
    (i : DiffItem Json) : Prop where
  somePage : PageGiven item "current_page" ∨ PageGiven item "previous_page"
  currentSide : SideSet i.evidence.currentDocumentId currentDocumentId
    (PageGiven item "current_page")
  previousSide : SideSet i.evidence.previousDocumentId previousDocumentId
    (PageGiven item "previous_page")
  presence : i.evidence.presence.Says (PageGiven item "current_page")
    (PageGiven item "previous_page")

/-- The item says `null` for no page, and its presence is the one of the sides that it gives. -/
structure SidesTold (item : Json) : Prop where
  currentPage : ¬NullPage item "current_page"
  previousPage : ¬NullPage item "previous_page"
  presence : (readPresence ((evidenceOf item).getD "presence" (.str "both"))).Says
    (PageGiven item "current_page") (PageGiven item "previous_page")

/-- Every item returned for a section has the sources of the item of the reply that it is made
of. -/
def ItemsBacked (uuid4 : Nat → String) (s currentDocumentId previousDocumentId : String)
    (reply : SectionReply) : Prop :=
  ∀ items, replyItems reply = .ok items →
    ∀ found, diffSection uuid4 s currentDocumentId previousDocumentId reply = .ok found →
      ∀ i ∈ found, ∀ e ∈ items.zipIdx,
        diffItem (uuid4 e.2) s currentDocumentId previousDocumentId e.1 = .ok (some i) →
          PagesBacked currentDocumentId previousDocumentId e.1 i

section Page

variable {item : Json} {key : String}

/-- What is read as a page is a page given, unless it is the name of `null`. -/
theorem pageGiven_iff (hnull : ¬NullPage item key) :
    PageGiven item key ↔ strip ((evidenceOf item).getD key (.str "")).toStr ≠ "" := by
  rw [Json.getD, PageGiven]
  cases hpage : (evidenceOf item).field? key with
  | none => exact iff_of_false (by simp) (not_not.mpr (by decide +kernel))
  | some page =>
    have hne : page ≠ .null := by
      intro heq
      rw [heq] at hpage
      exact hnull hpage
    simp [hne]

theorem NullPage.not_given (hnull : NullPage item key) : ¬PageGiven item key := by
  intro hgiven
  obtain ⟨page,hpage,hne,-⟩ := hgiven
  exact hne (Option.some.inj (hpage.symm.trans hnull))

theorem NullPage.read (hnull : NullPage item key) :
    strip ((evidenceOf item).getD key (.str "")).toStr = "None" := by
  rw [Json.getD, hnull]
  decide +kernel

theorem PageGiven.read (hgiven : PageGiven item key) :
    strip ((evidenceOf item).getD key (.str "")).toStr ≠ "" :=
  (pageGiven_iff (fun hnull => hnull.not_given hgiven)).mp hgiven

end Page

section Item

variable {uuid s currentDocumentId previousDocumentId : String} {item : Json} {i : DiffItem Json}

private theorem pagedItem_evidence {evData presence : Json} {cPage pPage : String}
    (h : pagedItem uuid s currentDocumentId previousDocumentId item evData presence cPage pPage =
      .ok i) :
    i.evidence.currentDocumentId = (if cPage = "" then "" else currentDocumentId) ∧
      i.evidence.previousDocumentId = (if pPage = "" then "" else previousDocumentId) ∧
      i.evidence.presence = readPresence presence := by
  obtain ⟨currentQuoted,-,h⟩ := bind_eq_ok.mp h
  obtain ⟨previousQuoted,-,h⟩ := bind_eq_ok.mp h
  obtain ⟨diffType,-,h⟩ := bind_eq_ok.mp h
  obtain ⟨diffId,-,h⟩ := bind_eq_ok.mp h
  obtain ⟨description,-,h⟩ := bind_eq_ok.mp h
  obtain ⟨currentSummary,-,h⟩ := bind_eq_ok.mp h
  obtain ⟨previousSummary,-,h⟩ := bind_eq_ok.mp h
  obtain ⟨toneOnly,-,h⟩ := bind_eq_ok.mp h
  obtain ⟨requiresHumanReview,-,h⟩ := bind_eq_ok.mp h
  cases h
  exact ⟨rfl,rfl,rfl⟩

/-- The sources of an item are those of the pages read. -/
theorem diffItem_evidence
    (h : diffItem uuid s currentDocumentId previousDocumentId item = .ok (some i)) :
    i.evidence.currentDocumentId =
        (if strip ((evidenceOf item).getD "current_page" (.str "")).toStr = "" then ""
          else currentDocumentId) ∧
      i.evidence.previousDocumentId =
        (if strip ((evidenceOf item).getD "previous_page" (.str "")).toStr = "" then ""
          else previousDocumentId) ∧
      i.evidence.presence = readPresence ((evidenceOf item).getD "presence" (.str "both")) :=
  pagedItem_evidence (diffItem_eq_some h).2.2

/-- A side is set as the page is given exactly when the page is not said to be `null`. -/
private theorem sideSet_iff {key documentId : String} (hid : documentId ≠ "") :
    SideSet (if strip ((evidenceOf item).getD key (.str "")).toStr = "" then "" else documentId)
      documentId (PageGiven item key) ↔ ¬NullPage item key := by
  constructor
  · intro hset hnull
    have hempty := hset.2 hnull.not_given
    rw [hnull.read, if_neg (by decide)] at hempty
    exact hid hempty
  · intro hnull
    have hgiven : PageGiven item key ↔ strip ((evidenceOf item).getD key (.str "")).toStr ≠ "" :=
      pageGiven_iff hnull
    rw [SideSet, hgiven]
    exact ⟨fun hread => if_neg hread,fun hread => if_pos (not_not.mp hread)⟩

/-- What is made of one item of a reply. -/
theorem backed_iff (hcurrent : currentDocumentId ≠ "") (hprevious : previousDocumentId ≠ "")
    (h : diffItem uuid s currentDocumentId previousDocumentId item = .ok (some i)) :
    PagesBacked currentDocumentId previousDocumentId item i ↔ SidesTold item := by
  obtain ⟨hcurrentId,hpreviousId,hpresence⟩ := diffItem_evidence h
  have hpage : HasPage item := by
    by_contra hno
    exact Option.some_ne_none i ((diffItem_eq_ok h).2.1.mpr hno)
  constructor
  · intro hbacked
    obtain ⟨-,hcurrentSide,hpreviousSide,hspeaks⟩ := hbacked
    rw [hcurrentId, sideSet_iff hcurrent] at hcurrentSide
    rw [hpreviousId, sideSet_iff hprevious] at hpreviousSide
    rw [hpresence] at hspeaks
    exact ⟨hcurrentSide,hpreviousSide,hspeaks⟩
  · intro htold
    refine ⟨hpage.imp (pageGiven_iff htold.currentPage).mpr (pageGiven_iff htold.previousPage).mpr,
      ?_,?_,?_⟩
    · rw [hcurrentId, sideSet_iff hcurrent]
      exact htold.currentPage
    · rw [hpreviousId, sideSet_iff hprevious]
      exact htold.previousPage
    · rw [hpresence]
      exact htold.presence

end Item

/-- The items of a section have the sources that the reply gives exactly when each item of a
reply that is read to its end tells the sides it gives, if it names a page at all. -/
theorem itemsBacked_iff (uuid4 : String → Nat → String) (reply : String → SectionReply) (s : String)
    {currentDocumentId previousDocumentId : String} (hcurrent : currentDocumentId ≠ "")
    (hprevious : previousDocumentId ≠ "") :
    ItemsBacked (uuid4 s) s currentDocumentId previousDocumentId (reply s) ↔
      ∀ items, replyItems (reply s) = .ok items → (∀ item ∈ items, ReadableItem item) →
        ∀ item ∈ items, HasPage item → SidesTold item := by
  constructor
  · intro hbacked items hitems hreadable item hitem hpage
    have hread : ∃ found, diffSection (uuid4 s) s currentDocumentId previousDocumentId
        (reply s) = .ok found := (diffSection_isOk_iff s hitems).mpr hreadable
    obtain ⟨found,hfound⟩ := hread
    obtain ⟨e,he,rfl⟩ := exists_zipIdx_of_mem hitem
    obtain ⟨turn,hturn⟩ := diffItem_of_readable (uuid4 s e.2) s currentDocumentId
      previousDocumentId (hreadable e.1 hitem)
    cases turn with
    | none => exact absurd hpage ((diffItem_eq_ok hturn).2.1.mp rfl)
    | some i =>
      have hi : i ∈ found := (mem_diffSection hitems hfound).mpr ⟨e,he,hturn⟩
      exact (backed_iff hcurrent hprevious hturn).mp (hbacked items hitems found hfound i hi e he
        hturn)
  · intro htold items hitems found hfound i _ e he hturn
    have hreadable := (diffSection_isOk_iff s hitems).mp ⟨found,hfound⟩
    have hpage : HasPage e.1 := by
      by_contra hno
      exact Option.some_ne_none i ((diffItem_eq_ok hturn).2.1.mpr hno)
    exact (backed_iff hcurrent hprevious hturn).mpr
      (htold items hitems hreadable e.1 (List.fst_mem_of_mem_zipIdx he) hpage)

def pageReply (evidence : String) : SectionReply := .text (String.join [
  "\x7b\"items\":[\x7b\"evidence\":",evidence,"\x7d]\x7d"])

/-- One item, which gives a page of the current document. -/
def onePageReply : SectionReply :=
  pageReply "\x7b\"current_page\":\"3\",\"presence\":\"only_in_current\"\x7d"

theorem itemsBacked_iff_onePage :
    ItemsBacked (fun _ => "") "營收" "d1" "d2" onePageReply ↔
      ∀ items, replyItems onePageReply = .ok items → (∀ item ∈ items, ReadableItem item) →
        ∀ item ∈ items, HasPage item → SidesTold item :=
  itemsBacked_iff (fun _ _ => "") (fun _ => onePageReply) "營收" (by decide) (by decide)

def nullPageItem : Json := .obj [("evidence",.obj [("current_page",.null)])]

/-- A page that is said to be `null` becomes the page `None`. -/
theorem nullPage_kept : ¬ItemsBacked (fun _ => "") "營收" "d1" "d2"
    (pageReply "\x7b\"current_page\":null\x7d") := by
  intro hbacked
  have hitems : replyItems (pageReply "\x7b\"current_page\":null\x7d") = .ok [nullPageItem] := by
    decide +kernel
  obtain ⟨found,hfound,hpages⟩ := map_eq_ok.mp
    (show (fun found => found.map (fun i => i.evidence.currentPage)) <$>
      diffSection (fun _ => "") "營收" "d1" "d2" (pageReply "\x7b\"current_page\":null\x7d") =
        .ok ["None"] by decide +kernel)
  obtain ⟨i,hi,-⟩ := List.map_eq_singleton_iff.mp hpages
  have hmem : i ∈ found := by
    rw [hi]
    exact List.mem_singleton_self i
  have hturns : ∃ e ∈ [nullPageItem].zipIdx, diffItem "" "營收" "d1" "d2" e.1 = .ok (some i) :=
    (@mem_diffSection (fun _ _ => "") (fun _ => pageReply "\x7b\"current_page\":null\x7d")
      "d1" "d2" "營收" _ found hitems hfound i).mp hmem
  obtain ⟨e,he,hturn⟩ := hturns
  have htold : SidesTold e.1 := (backed_iff (by decide) (by decide) hturn).mp
    (hbacked _ hitems found hfound i hmem e he hturn)
  rw [List.mem_singleton.mp (List.fst_mem_of_mem_zipIdx he)] at htold
  exact htold.currentPage rfl

end FinancialPdfReader
