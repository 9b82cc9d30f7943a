import FinancialPdfReader.Services.PdfIngestion
import Mathlib.Logic.Function.Iterate

namespace FinancialPdfReader

open Py

/-- A text without its blanks. -/
def inked (cs : List Char) : List Char := cs.filter (fun c => !isSpace c)

theorem inked_append (xs ys : List Char) : inked (xs ++ ys) = inked xs ++ inked ys :=
  List.filter_append ..

theorem inked_eq_nil {cs : List Char} (h : ∀ c ∈ cs, isSpace c = true) : inked cs = [] := by
  rw [inked, List.filter_eq_nil_iff]
  intro c hc
  simp [h c hc]

/-- Stripping takes blanks only. -/
theorem inked_stripBy (cs : List Char) : inked (stripBy isSpace cs) = inked cs := by
  have hfront : inked (cs.takeWhile isSpace) = [] := by
    apply inked_eq_nil
    intro c hc
    exact List.mem_takeWhile_imp hc
  have hback : inked ((cs.dropWhile isSpace).rtakeWhile isSpace) = [] := by
    apply inked_eq_nil
    intro c hc
    exact List.mem_rtakeWhile_imp hc
  calc inked (stripBy isSpace cs)
      = inked (cs.takeWhile isSpace) ++ (inked (stripBy isSpace cs) ++
          inked ((cs.dropWhile isSpace).rtakeWhile isSpace)) := by
        rw [hfront, hback, List.append_nil, List.nil_append]
    _ = inked (cs.takeWhile isSpace ++ (stripBy isSpace cs ++
          (cs.dropWhile isSpace).rtakeWhile isSpace)) := by
        rw [inked_append, inked_append]
    _ = inked cs := by
        rw [stripBy, List.rdropWhile_append_rtakeWhile, List.takeWhile_append_dropWhile]

section Rounds

variable (maxChars : Nat) [NeZero maxChars]

/-- The last newline of a segment stands within it. -/
theorem breakAt_le (cs : List Char) : breakAt maxChars cs ≤ maxChars := by
  have hmax : 0 < maxChars := Nat.pos_of_neZero maxChars
  have hlength : (cs.take maxChars).length ≤ maxChars := List.length_take_le _ _
  rw [breakAt]
  split
  · dsimp only
    split
    · exact Nat.le_refl _
    · omega
  · exact Nat.le_refl _

/-- What one round of the loop leaves of the text. -/
def restOfText (cs : List Char) : List Char :=
  if maxChars < cs.length then stripBy isSpace (cs.drop (breakAt maxChars cs)) else []

/-- What one round cuts off. -/
def segmentOfText (cs : List Char) : List Char :=
  if maxChars < cs.length then stripBy isSpace (cs.take (breakAt maxChars cs)) else cs

theorem chunkTexts_nil : chunkTexts maxChars [] = [] := by
  rw [chunkTexts]
  simp

/-- The chunks of a text are what a round cuts off, if anything, and the chunks of the rest. -/
theorem chunkTexts_round {cs : List Char} (hcs : cs ≠ []) :
    chunkTexts maxChars cs = (if (segmentOfText maxChars cs).isEmpty then []
      else [segmentOfText maxChars cs]) ++ chunkTexts maxChars (restOfText maxChars cs) := by
  rw [chunkTexts, segmentOfText, restOfText]
  by_cases hlong : maxChars < cs.length
  · rw [dif_pos hlong, if_pos hlong, if_pos hlong]
    split
    · simp [*]
    · simp [*]
  · have hsome : cs.isEmpty = false := by simpa using hcs
    rw [dif_neg hlong, if_neg hlong, if_neg hlong, hsome, chunkTexts_nil]
    rfl

/-- Every round takes at least one character. -/
theorem length_restOfText_lt {cs : List Char} (hcs : cs ≠ []) :
    (restOfText maxChars cs).length < cs.length := by
  have hpos : 0 < cs.length := List.length_pos_iff.mpr hcs
  rw [restOfText]
  split
  · have hcut := breakAt_pos maxChars cs
    have hstrip := length_stripBy_le isSpace (cs.drop (breakAt maxChars cs))
    rw [List.length_drop] at hstrip
    omega
  · exact hpos

omit [NeZero maxChars] in
theorem inked_round (cs : List Char) :
    inked (segmentOfText maxChars cs) ++ inked (restOfText maxChars cs) = inked cs := by
  rw [segmentOfText, restOfText]
  split
  · rw [inked_stripBy, inked_stripBy, ← inked_append, List.take_append_drop]
  · exact List.append_nil _

theorem length_segmentOfText_le (cs : List Char) :
    (segmentOfText maxChars cs).length ≤ maxChars := by
  rw [segmentOfText]
  split
  · have hstrip := length_stripBy_le isSpace (cs.take (breakAt maxChars cs))
    have htake := List.length_take_le (breakAt maxChars cs) cs
    have hcut := breakAt_le maxChars cs
    omega
  · omega

/-- The loop comes to an end, after one round for each character at most. -/
theorem restOfText_iterate (cs : List Char) :
    ∃ n ≤ cs.length, (restOfText maxChars)^[n] cs = [] := by
  induction hlength : cs.length using Nat.strong_induction_on generalizing cs with
  | h length ih =>
    by_cases hcs : cs = []
    · exact ⟨0,Nat.zero_le _,hcs⟩
    · have hless := length_restOfText_lt maxChars hcs
      rw [hlength] at hless
      obtain ⟨n,hn,hend⟩ := ih _ hless _ rfl
      exact ⟨n + 1,by omega,hend⟩

/-- Every chunk is a segment of bounded length, and the chunks hold all that is inked. -/
theorem chunkTexts_spec (cs : List Char) :
    (∀ chunk ∈ chunkTexts maxChars cs, chunk ≠ [] ∧ chunk.length ≤ maxChars) ∧
      inked (chunkTexts maxChars cs).flatten = inked cs := by
  induction hlength : cs.length using Nat.strong_induction_on generalizing cs with
  | h length ih =>
    by_cases hcs : cs = []
    · subst hcs
      rw [chunkTexts_nil]
      simp
    · have hless := length_restOfText_lt maxChars hcs
      rw [hlength] at hless
      obtain ⟨hchunks,hinked⟩ := ih _ hless _ rfl
      rw [chunkTexts_round maxChars hcs]
      constructor
      · intro chunk hchunk
        rcases List.mem_append.mp hchunk with hhere | hrest
        · split at hhere
          · contradiction
          · rename_i hsome
            obtain rfl := List.mem_singleton.mp hhere
            exact ⟨by simpa using hsome,length_segmentOfText_le maxChars cs⟩
        · exact hchunks chunk hrest
      · rw [List.flatten_append, inked_append, hinked, ← inked_round maxChars cs]
        congr 1
        split
        · rename_i hnone
          rw [List.isEmpty_iff.mp hnone]
          rfl
        · simp

end Rounds

/-- What is made of a page: chunks of its number, none empty and none too long, that hold every
character that is no blank once and in order; and the loop that makes them ends. -/
structure ChunksOfPage (pageNum : Nat) (text : String) (maxChars : Nat)
    (chunks : List PageData) : Prop where
  ends : ∃ n ≤ text.length, (restOfText maxChars)^[n] text.toList = []
  page : ∀ c ∈ chunks, c.page = pageNum
  nonempty : ∀ c ∈ chunks, c.text ≠ ""
  bounded : ∀ c ∈ chunks, c.text.length ≤ maxChars
  lossless : inked (chunks.flatMap (fun c => c.text.toList)) = inked text.toList

theorem chunkPage_chunksOfPage (pageNum : Nat) (text : String) (maxChars : Nat)
    [NeZero maxChars] :
    ChunksOfPage pageNum text maxChars (chunkPage pageNum text maxChars) := by
  obtain ⟨hchunks,hinked⟩ := chunkTexts_spec maxChars text.toList
  have hmade : ∀ c ∈ chunkPage pageNum text maxChars, c.page = pageNum ∧
      ∃ chunk ∈ chunkTexts maxChars text.toList, c.text = String.ofList chunk := by
    intro c hc
    obtain ⟨chunk,hchunk,rfl⟩ := List.mem_map.mp hc
    exact ⟨rfl,chunk,hchunk,rfl⟩
  refine ⟨?_,?_,?_,?_,?_⟩
  · exact restOfText_iterate maxChars text.toList
  · intro c hc
    exact (hmade c hc).1
  · intro c hc hempty
    obtain ⟨chunk,hchunk,htext⟩ := (hmade c hc).2
    apply (hchunks chunk hchunk).1
    rw [← String.toList_ofList (l := chunk), ← htext, hempty]
    rfl
  · intro c hc
    obtain ⟨chunk,hchunk,htext⟩ := (hmade c hc).2
    rw [htext, String.length_ofList]
    exact (hchunks chunk hchunk).2
  · rw [chunkPage, List.flatMap_map]
    simp only [String.toList_ofList]
    change inked ((chunkTexts maxChars text.toList).flatMap id) = _
    rw [List.flatMap_id, hinked]

theorem chunkPage_chunksOfPage_short :
    ChunksOfPage 3 "營收\n成長 10%" 4 (chunkPage 3 "營收\n成長 10%" 4) :=
  chunkPage_chunksOfPage 3 "營收\n成長 10%" 4

end FinancialPdfReader
