import FinancialPdfReader.Algorithms.PrefixCode
import FinancialPdfReader.Python.Numeral
import FinancialPdfReader.Static.Signals

namespace FinancialPdfReader

open Py PrefixCode

section Banner

/-- What can be told apart in the markup around it. -/
structure Signal.Plain (s : Signal) : Prop where
  icon : '>' ∉ s.icon.toList
  value : '>' ∉ s.value.toList
  cls : ' ' ∉ s.cls.toList

/-- A signal is read off the end of what is shown. -/
theorem Signal.html_inj {s t : Signal} (hs : s.Plain) (ht : t.Plain) {label x y : String}
    (h : x ++ s.html label "" "" = y ++ t.html label "" "") : x = y ∧ s = t := by
  unfold Signal.html at h
  simp only [← String.append_assoc] at h
  rw [String.append_left_inj] at h
  obtain ⟨h,hvalue⟩ := Text.tag_field_inj (by decide +kernel) hs.value ht.value h
  rw [String.append_left_inj, String.append_left_inj, String.append_left_inj,
    String.append_left_inj] at h
  obtain ⟨h,hicon⟩ := Text.tag_field_inj (by decide +kernel) hs.icon ht.icon h
  rw [String.append_left_inj, String.append_left_inj] at h
  obtain ⟨h,hcls⟩ := Text.tag_field_inj (by decide +kernel) hs.cls ht.cls h
  refine ⟨h,?_⟩
  rw [Signal.mk.injEq]
  exact ⟨hicon,hvalue,hcls⟩

theorem decisionBanner_inj {p q : ResultsPage} (hperiod : p.periodSignal = q.periodSignal)
    (hadvice : p.advSignal = q.advSignal) (hp : p.revSignal.Plain ∧ p.covSignal.Plain)
    (hq : q.revSignal.Plain ∧ q.covSignal.Plain) {x y : String}
    (h : x ++ p.decisionBanner = y ++ q.decisionBanner) :
    x = y ∧ p.revSignal = q.revSignal ∧ p.covSignal = q.covSignal := by
  unfold ResultsPage.decisionBanner at h
  rw [hperiod, hadvice] at h
  simp only [← String.append_assoc] at h
  rw [String.append_left_inj, String.append_left_inj, String.append_left_inj] at h
  obtain ⟨h,hcov⟩ := Signal.html_inj hp.2 hq.2 h
  rw [String.append_left_inj] at h
  obtain ⟨h,hrev⟩ := Signal.html_inj hp.1 hq.1 h
  rw [String.append_left_inj, String.append_left_inj, String.append_left_inj] at h
  exact ⟨h,hrev,hcov⟩

end Banner

section Card

/-- The items of a list, and what ends it. -/
def listCode : Set String := insert "</ul>" (listItem '' {text | '<' ∉ text.toList})

theorem toList_listItem (text : String) :
    (listItem text).toList = '<' :: 'l' :: 'i' :: '>' :: (text.toList ++ '<' :: "/li>".toList) := by
  simp [listItem]

theorem listItem_ne (text : String) : listItem text ≠ "</ul>" := by
  intro h
  have hchars := (toList_listItem text).symm.trans (congrArg String.toList h)
  simp at hchars

theorem listItem_injective : Function.Injective listItem := by
  intro a b h
  unfold listItem at h
  rw [String.append_left_inj, String.append_right_inj] at h
  exact h

theorem listCode_prefixFree : PrefixFree (String.toList '' listCode) := by
  intro u hu v hv hfront
  obtain ⟨s,hs,rfl⟩ := hu
  obtain ⟨t,ht,rfl⟩ := hv
  rcases hs with rfl | ⟨a,ha,rfl⟩
  · rcases ht with rfl | ⟨b,-,rfl⟩
    · rfl
    · rw [toList_listItem] at hfront
      simp at hfront
  · rcases ht with rfl | ⟨b,hb,rfl⟩
    · rw [toList_listItem] at hfront
      simp at hfront
    · obtain ⟨rest,hrest⟩ := hfront
      rw [toList_listItem, toList_listItem] at hrest
      simp only [List.cons_append, List.append_assoc, List.cons.injEq, true_and] at hrest
      have hab : a = b := String.toList_injective (field_append_inj ha hb hrest).1
      rw [hab]

/-- A card in which all but the reasons, the claims and the conflicts follows from the type. -/
structure NarrativeCard.Typed (card : NarrativeCard) : Prop where
  icon : card.icon = card.type.icon
  colorCls : card.colorCls = card.type.colorCls
  label : card.label = "系統主結論"
  sublabel : card.sublabel = card.type.sublabel
  confidence : card.confidence = card.type.confidence
  watchPoints : card.watchPoints = card.type.watchPoints

theorem NarrativeCard.html_congr {c d : NarrativeCard} (hc : c.Typed) (hd : d.Typed)
    (htype : c.type = d.type) (hreasons : c.reasons = d.reasons) (hevidence : c.evHtml = d.evHtml) :
    c.html = d.html := by
  unfold NarrativeCard.html
  rw [hc.icon, hc.colorCls, hc.label, hc.sublabel, hc.confidence, hc.watchPoints, hd.icon,
    hd.colorCls, hd.label, hd.sublabel, hd.confidence, hd.watchPoints, htype, hreasons, hevidence]

theorem NarrativeCard.html_inj {c d : NarrativeCard} (hc : c.Typed) (hd : d.Typed)
    (hcreasons : ∀ r ∈ c.reasons, '<' ∉ r.toList) (hdreasons : ∀ r ∈ d.reasons, '<' ∉ r.toList)
    {x y : String} (h : c.html ++ x = d.html ++ y) :
    c.type = d.type ∧ c.reasons = d.reasons ∧
      c.evHtml ++ "\n    </div>\n  </div>" ++ x = d.evHtml ++ "\n    </div>\n  </div>" ++ y := by
  have hcolor : ∀ t : NarrativeType, '"' ∉ t.colorCls.toList := by
    intro t
    cases t <;> decide
  have hcolors : ∀ t u : NarrativeType, t.colorCls = u.colorCls → t = u := by
    intro t u
    cases t <;> cases u <;> decide
  have hitems : ∀ rs : List String, (∀ r ∈ rs, '<' ∉ r.toList) →
      ∀ item ∈ rs.map listItem, item ∈ listCode ∧ item ≠ "</ul>" := by
    intro rs hrs item hitem
    obtain ⟨r,hr,rfl⟩ := List.mem_map.mp hitem
    exact ⟨Or.inr ⟨r,hrs r hr,rfl⟩,listItem_ne r⟩
  unfold NarrativeCard.html at h
  rw [hc.icon, hc.colorCls, hc.label, hc.sublabel, hc.confidence, hc.watchPoints, hd.icon,
    hd.colorCls, hd.label, hd.sublabel, hd.confidence, hd.watchPoints] at h
  simp only [String.append_assoc, String.append_right_inj] at h
  obtain ⟨hsame,h⟩ := Text.field_tag_inj (by decide +kernel) (hcolor c.type) (hcolor d.type) h
  have htype := hcolors c.type d.type hsame
  rw [htype] at h
  simp only [String.append_right_inj] at h
  obtain ⟨hreasons,h⟩ := Text.join_inj listCode_prefixFree (Or.inl rfl)
    (hitems c.reasons hcreasons) (hitems d.reasons hdreasons) h
  simp only [String.append_right_inj] at h
  refine ⟨htype,List.map_injective_iff.mpr listItem_injective hreasons,?_⟩
  rw [String.append_assoc, String.append_assoc]
  exact h

/-- Every claim that is shown ends in the same tags. -/
theorem join_evidenceItem {claims : List Json} (hne : claims ≠ []) :
    ∃ front, String.join (claims.map evidenceItem) = front ++ "</" ++ "span>" ++ "</div>" := by
  obtain ⟨claims,c,rfl⟩ := (List.eq_nil_or_concat claims).resolve_left hne
  have hitem : ∃ front, evidenceItem c = front ++ "</" ++ "span>" ++ "</div>" := by
    have htag : "</span></div>" = "</" ++ "span>" ++ "</div>" := rfl
    unfold evidenceItem
    rw [htag, ← String.append_assoc, ← String.append_assoc]
    exact ⟨_,rfl⟩
  obtain ⟨front,hfront⟩ := hitem
  refine ⟨String.join (claims.map evidenceItem) ++ front,?_⟩
  rw [List.concat_eq_append, List.map_append, String.join_append, List.map_singleton]
  simp [hfront, String.append_assoc]

/-- What the conflicts are shown as: nothing, or one line in a box. -/
def conflictBox (text : String) : String :=
  "<div class=\"narr-conflict\"><span class=\"narr-conflict-label\">衝突訊號</span>" ++
    "<div class=\"narr-conflict-item\">" ++ ("· " ++ text) ++ "</div>" ++ "</div>"

theorem conflictBox_ne {claims : List Json} (hne : claims ≠ []) (x text : String) :
    String.join (claims.map evidenceItem) ≠ x ++ conflictBox text := by
  intro h
  obtain ⟨front,hfront⟩ := join_evidenceItem hne
  have hbox : conflictBox text =
      "<div class=\"narr-conflict\"><span class=\"narr-conflict-label\">衝突訊號</span>" ++
        "<div class=\"narr-conflict-item\">" ++ ("· " ++ text) ++ ("</" ++ "div>") ++
          "</div>" := rfl
  rw [hfront, hbox] at h
  simp only [← String.append_assoc] at h
  rw [String.append_left_inj] at h
  have hslash : "</".toList.getLast? = some '/' := by decide
  have htags := (Text.tag_field_inj hslash (by decide) (by decide) h).2
  exact absurd htags (by decide)

theorem conflictHtml_singleton {card : NarrativeCard} {text : String}
    (h : card.conflictSignals = [text]) : card.conflictHtml = conflictBox text := by
  unfold NarrativeCard.conflictHtml conflictBox
  have hitem : "<div class=\"narr-conflict-item\">· " =
      "<div class=\"narr-conflict-item\">" ++ "· " := rfl
  rw [h, hitem]
  simp only [List.isEmpty_cons, Bool.not_false, htmlIf, if_true, List.map_cons, List.map_nil,
    String.join_cons, String.join_nil, String.append_empty, String.append_assoc]

theorem conflictHtml_nil {card : NarrativeCard} (h : card.conflictSignals = []) :
    card.conflictHtml = "" := by
  unfold NarrativeCard.conflictHtml
  rw [h]
  rfl

/-- At most one conflict, which does not look like markup. -/
structure NarrativeCard.PlainConflict (card : NarrativeCard) : Prop where
  one : card.conflictSignals.length ≤ 1
  plain : ∀ text ∈ card.conflictSignals, '>' ∉ text.toList

theorem conflictHtml_inj {c d : NarrativeCard} (hc : c.PlainConflict) (hd : d.PlainConflict)
    (hcne : c.drivingClaims ≠ []) (hdne : d.drivingClaims ≠ [])
    (h : String.join (c.drivingClaims.map evidenceItem) ++ c.conflictHtml =
      String.join (d.drivingClaims.map evidenceItem) ++ d.conflictHtml) :
    String.join (c.drivingClaims.map evidenceItem) =
      String.join (d.drivingClaims.map evidenceItem) ∧ c.conflictSignals = d.conflictSignals := by
  cases hcs : c.conflictSignals with
  | nil =>
    rw [conflictHtml_nil hcs, String.append_empty] at h
    cases hds : d.conflictSignals with
    | nil =>
      rw [conflictHtml_nil hds, String.append_empty] at h
      exact ⟨h,rfl⟩
    | cons text rest =>
      obtain rfl : rest = [] := by simpa [hds] using hd.one
      rw [conflictHtml_singleton hds] at h
      exact absurd h (conflictBox_ne hcne _ text)
  | cons text rest =>
    obtain rfl : rest = [] := by simpa [hcs] using hc.one
    rw [conflictHtml_singleton hcs] at h
    cases hds : d.conflictSignals with
    | nil =>
      rw [conflictHtml_nil hds, String.append_empty] at h
      exact absurd h.symm (conflictBox_ne hdne _ text)
    | cons text' rest =>
      obtain rfl : rest = [] := by simpa [hds] using hd.one
      rw [conflictHtml_singleton hds] at h
      have hplain : ∀ s : String, '>' ∉ s.toList → '>' ∉ ("· " ++ s).toList := by
        intro s hs
        simpa using hs
      have hline := hplain text (hc.plain text (by simp [hcs]))
      have hline' := hplain text' (hd.plain text' (by simp [hds]))
      unfold conflictBox at h
      generalize hs : "· " ++ text = line at h hline
      generalize ht : "· " ++ text' = line' at h hline'
      simp only [← String.append_assoc] at h
      rw [String.append_left_inj, String.append_left_inj] at h
      obtain ⟨h,hlines⟩ := Text.tag_field_inj (by decide +kernel) hline hline' h
      rw [← hs, ← ht, String.append_right_inj] at hlines
      rw [String.append_left_inj] at h
      exact ⟨h,by rw [hlines]⟩

/-- The evidence of a conclusion is shown alike: as many claims, which read the same, and beside
them the same conflict. -/
theorem evHtml_eq_iff {c d : NarrativeCard} (hc : c.PlainConflict) (hd : d.PlainConflict) :
    c.evHtml = d.evHtml ↔ c.drivingClaims.length = d.drivingClaims.length ∧
      (c.drivingClaims ≠ [] → String.join (c.drivingClaims.map evidenceItem) =
        String.join (d.drivingClaims.map evidenceItem) ∧
          c.conflictSignals = d.conflictSignals) := by
  have hnone : ∀ card : NarrativeCard, card.drivingClaims = [] → card.evHtml = "" := by
    intro card hcard
    unfold NarrativeCard.evHtml
    rw [hcard]
    rfl
  have hsome : ∀ card : NarrativeCard, card.drivingClaims ≠ [] → card.evHtml =
      "<button class=\"narr-ev-toggle\" onclick=\"toggleNarrEv('narr-ev-panel')\">▶ 主結論依據（" ++
        (toString card.drivingClaims.length ++
        (" 條）</button><div class=\"narr-ev-panel\" id=\"narr-ev-panel\">" ++
          (String.join (card.drivingClaims.map evidenceItem) ++ card.conflictHtml ++
            "</div>"))) := by
    intro card hcard
    unfold NarrativeCard.evHtml
    simp only [List.isEmpty_eq_false_iff.mpr hcard, Bool.not_false, htmlIf, if_true,
      String.append_assoc]
  have hshown : ∀ card : NarrativeCard, card.drivingClaims ≠ [] → card.evHtml ≠ "" := by
    intro card hcard hempty
    rw [hsome card hcard] at hempty
    exact absurd (String.append_eq_empty_iff.mp hempty).1 (by decide)
  by_cases hcne : c.drivingClaims = []
  · by_cases hdne : d.drivingClaims = []
    · simp [hnone c hcne, hnone d hdne, hcne, hdne]
    · rw [hnone c hcne, hcne]
      constructor
      · intro h
        exact absurd h.symm (hshown d hdne)
      · intro hparts
        exact absurd (List.length_eq_zero_iff.mp hparts.1.symm) hdne
  · by_cases hdne : d.drivingClaims = []
    · rw [hnone d hdne, hdne]
      constructor
      · intro h
        exact absurd h (hshown c hcne)
      · intro hparts
        exact absurd (List.length_eq_zero_iff.mp hparts.1) hcne
    · rw [hsome c hcne, hsome d hdne, String.append_right_inj]
      constructor
      · intro h
        have hdigits : ∀ n : Nat, ' ' ∉ (toString n).toList := by
          intro n hspace
          exact absurd (toString_nat_digits hspace) (by decide)
        obtain ⟨hcount,h⟩ := Text.field_tag_inj (by decide +kernel) (hdigits _) (hdigits _) h
        rw [String.append_left_inj] at h
        exact ⟨toString_nat_inj hcount,fun _ => conflictHtml_inj hc hd hcne hdne h⟩
      · intro hparts
        obtain ⟨hcount,hrest⟩ := hparts
        obtain ⟨hitems,hconflicts⟩ := hrest hcne
        have hbox : c.conflictHtml = d.conflictHtml := by
          unfold NarrativeCard.conflictHtml
          rw [hconflicts]
        rw [hcount, hitems, hbox]

end Card

end FinancialPdfReader
