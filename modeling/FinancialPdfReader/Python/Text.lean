import FinancialPdfReader.Python.Unicode
import Mathlib.Data.List.DropRight
import Mathlib.Data.List.Infix

namespace Py

/-- `str.lower`. -/
def lower (s : String) : String := String.ofList (s.toList.flatMap lowerChar)

/-- `needle in text`. -/
def isIn (needle text : String) : Bool := decide (needle.toList <:+: text.toList)

/-- `any(p in text for p in phrases)`. -/
def anyIn (phrases : List String) (text : String) : Bool := phrases.any (isIn · text)

/-- `[p for p in phrases if p in text]`. -/
def hits (phrases : List String) (text : String) : List String := phrases.filter (isIn · text)

theorem isIn_trans {needle text whole : String} (h : isIn needle text = true)
    (h' : isIn text whole = true) : isIn needle whole = true :=
  decide_eq_true ((of_decide_eq_true h).trans (of_decide_eq_true h'))

theorem hits_eq_nil_iff (phrases : List String) (text : String) :
    hits phrases text = [] ↔ anyIn phrases text = false := by
  simp [hits, anyIn, List.filter_eq_nil_iff]

/-- `cs.strip(chars)`, with the characters to remove as a predicate. -/
def stripBy (p : Char → Bool) (cs : List Char) : List Char := (cs.dropWhile p).rdropWhile p

/-- `str.strip()`. -/
def strip (s : String) : String := String.ofList (stripBy isSpace s.toList)

/-- `text[:n]`. -/
def take (n : Nat) (s : String) : String := String.ofList (s.toList.take n)

/-- `text[n:]`. -/
def drop (n : Nat) (s : String) : String := String.ofList (s.toList.drop n)

/-- `text.replace(c, "")`. -/
def without (c : Char) (s : String) : String := String.ofList (s.toList.filter (fun d => d ≠ c))

/-- `str.splitlines`, reading with the current line in reverse. -/
def splitLinesFrom : List Char → List Char → List (List Char)
  | acc, [] => if acc.isEmpty then [] else [acc.reverse]
  | acc, '\r' :: '\n' :: cs => acc.reverse :: splitLinesFrom [] cs
  | acc, c :: cs =>
      if isLineBreak c then acc.reverse :: splitLinesFrom [] cs else splitLinesFrom (c :: acc) cs

def splitLines (cs : List Char) : List (List Char) := splitLinesFrom [] cs

private theorem isLineBreak_cr : isLineBreak '\r' = true := by decide

private theorem splitLinesFrom_plain {c : Char} (hc : isLineBreak c = false) (acc cs : List Char) :
    splitLinesFrom acc (c :: cs) = splitLinesFrom (c :: acc) cs := by
  rw [splitLinesFrom.eq_def]
  split
  · contradiction
  · rename_i heq
    obtain ⟨rfl, rfl⟩ := List.cons.inj heq
    simp [isLineBreak_cr] at hc
  · rename_i heq
    obtain ⟨rfl, rfl⟩ := List.cons.inj heq
    simp [hc]

/-- A stretch without line breaks is read into the current line. -/
theorem splitLinesFrom_append {line : List Char} (h : ∀ c ∈ line, isLineBreak c = false)
    (acc rest : List Char) :
    splitLinesFrom acc (line ++ rest) = splitLinesFrom (line.reverse ++ acc) rest := by
  induction line generalizing acc with
  | nil => rfl
  | cons c line ih =>
    rw [List.cons_append, splitLinesFrom_plain (h c (by simp)),
      ih (fun d hd => h d (by simp [hd]))]
    simp

private theorem splitLinesFrom_newline (acc cs : List Char) :
    splitLinesFrom acc ('\n' :: cs) = acc.reverse :: splitLinesFrom [] cs := by
  rw [splitLinesFrom.eq_def]
  split
  · contradiction
  · rename_i heq
    exact absurd (List.cons.inj heq).1 (by decide)
  · rename_i heq
    obtain ⟨rfl, rfl⟩ := List.cons.inj heq
    simp [show isLineBreak '\n' = true from by decide]

/-- Joining lines with newlines and splitting them again gives the lines back. -/
theorem splitLines_intercalate (lines : List (List Char)) (hne : ∀ l ∈ lines, l ≠ [])
    (hbr : ∀ l ∈ lines, ∀ c ∈ l, isLineBreak c = false) :
    splitLines (['\n'].intercalate lines) = lines := by
  induction lines with
  | nil => rfl
  | cons l ls ih =>
    have htail := ih (fun m hm => hne m (by simp [hm])) (fun m hm => hbr m (by simp [hm]))
    cases ls with
    | nil =>
      have hl : l ≠ [] := hne l (by simp)
      have hread := splitLinesFrom_append (hbr l (by simp)) [] []
      simp only [List.append_nil] at hread
      rw [List.intercalate_singleton, splitLines, hread, splitLinesFrom]
      simp [hl]
    | cons m ms =>
      rw [List.intercalate_cons_cons, List.append_assoc, splitLines,
        splitLinesFrom_append (hbr l (by simp)), List.singleton_append, splitLinesFrom_newline]
      simp only [List.append_nil, List.reverse_reverse]
      exact congrArg (l :: ·) htail

/-- No line break survives inside a line that `splitLines` returns. -/
theorem isLineBreak_of_mem_splitLines {cs line : List Char} (h : line ∈ splitLines cs) :
    ∀ c ∈ line, isLineBreak c = false := by
  suffices hacc : ∀ acc cs, (∀ c ∈ acc, isLineBreak c = false) →
      ∀ line ∈ splitLinesFrom acc cs, ∀ c ∈ line, isLineBreak c = false from
    hacc [] cs (by simp) line h
  intro acc cs hacc
  induction acc, cs using splitLinesFrom.induct with
  | case1 acc hnil => simp [splitLinesFrom, hnil]
  | case2 acc hcons => simpa [splitLinesFrom, hcons] using hacc
  | case3 acc cs ih =>
    intro line hline
    rw [splitLinesFrom] at hline
    rcases List.mem_cons.mp hline with rfl | hline
    · simpa using hacc
    · exact ih (by simp) line hline
  | case4 acc c cs hcrlf hbreak ih =>
    intro line hline
    rw [splitLinesFrom, if_pos hbreak] at hline
    · rcases List.mem_cons.mp hline with rfl | hline
      · simpa using hacc
      · exact ih (by simp) line hline
    · exact hcrlf
  | case5 acc c cs hcrlf hplain ih =>
    have hplain' : isLineBreak c = false := by simpa using hplain
    intro line hline
    rw [splitLinesFrom_plain hplain'] at hline
    refine ih ?_ line hline
    intro d hd
    rcases List.mem_cons.mp hd with rfl | hd
    · exact hplain'
    · exact hacc d hd

/-- A separator never appears inside a field of the split. -/
theorem not_mem_of_mem_splitOn {sep : Char} {cs field : List Char}
    (h : field ∈ cs.splitOn sep) : sep ∉ field := by
  induction cs generalizing field with
  | nil =>
    simp only [List.splitOn_nil, List.mem_singleton] at h
    simp [h]
  | cons c cs ih =>
    rw [List.splitOn_cons_eq_if_modifyHead] at h
    split at h
    · rcases List.mem_cons.mp h with rfl | h
      · simp
      · exact ih h
    · rename_i hc
      cases hs : cs.splitOn sep with
      | nil => exact absurd hs (List.splitOn_ne_nil sep cs)
      | cons first others =>
        rw [hs, List.modifyHead_cons, List.mem_cons] at h
        rcases h with rfl | h
        · have hfirst : sep ∉ first := ih (by simp [hs])
          simp only [List.mem_cons, not_or]
          exact ⟨fun heq => hc (by simp [heq]), hfirst⟩
        · exact ih (by simp [hs, h])

theorem infix_intercalate_of_mem {α : Type} {sep l : List α} {ls : List (List α)}
    (hl : l ∈ ls) : l <:+: sep.intercalate ls := by
  induction ls with
  | nil => contradiction
  | cons m ms ih =>
    cases ms with
    | nil =>
      obtain rfl := List.mem_singleton.mp hl
      rw [List.intercalate_singleton]
    | cons n ns =>
      rw [List.intercalate_cons_cons]
      rcases List.mem_cons.mp hl with rfl | hl
      · rw [List.append_assoc]
        exact (List.prefix_append l _).isInfix
      · exact (ih hl).trans (List.suffix_append _ _).isInfix

/-- What is joined comes from the parts or from what stands between them. -/
theorem mem_of_mem_intercalate {α : Type} {sep : List α} {ls : List (List α)} {x : α}
    (h : x ∈ sep.intercalate ls) : x ∈ sep ∨ ∃ l ∈ ls, x ∈ l := by
  induction ls with
  | nil => contradiction
  | cons m ms ih =>
    cases ms with
    | nil =>
      rw [List.intercalate_singleton] at h
      exact Or.inr ⟨m,by simp,h⟩
    | cons n ns =>
      rw [List.intercalate_cons_cons, List.mem_append, List.mem_append] at h
      rcases h with (h | h) | h
      · exact Or.inr ⟨m,by simp,h⟩
      · exact Or.inl h
      · rcases ih h with h | ⟨l,hl,hx⟩
        · exact Or.inl h
        · exact Or.inr ⟨l,List.mem_cons_of_mem m hl,hx⟩

/-- A field of the split is a piece of the text. -/
theorem infix_of_mem_splitOn {sep : Char} {cs field : List Char} (h : field ∈ cs.splitOn sep) :
    field <:+: cs := by
  have hjoin : [sep].intercalate (cs.splitOn sep) = cs := List.intercalate_splitOn sep
  have hfield : field <:+: [sep].intercalate (cs.splitOn sep) := infix_intercalate_of_mem h
  rwa [hjoin] at hfield

/-- What is no separator may be dropped before the split or after it. -/
theorem splitOn_filter {sep : Char} {p : Char → Bool} (hsep : p sep = true) (cs : List Char) :
    (cs.filter p).splitOn sep = (cs.splitOn sep).map (List.filter p) := by
  induction cs with
  | nil => rfl
  | cons c cs ih =>
    obtain ⟨first,others,hsplit⟩ := List.exists_cons_of_ne_nil (List.splitOn_ne_nil sep cs)
    rw [List.splitOn_cons_eq_if_modifyHead]
    by_cases hc : c = sep
    · subst hc
      rw [List.filter_cons_of_pos hsep, List.splitOn_cons_eq_if_modifyHead, ih]
      simp
    · cases hkept : p c with
      | true =>
        rw [List.filter_cons_of_pos hkept, List.splitOn_cons_eq_if_modifyHead, ih]
        simp [hc, hsplit, hkept]
      | false =>
        rw [List.filter_cons_of_neg (by simp [hkept]), ih]
        simp [hc, hsplit, hkept]

/-- The fields of what a text begins with are its own, the last of them perhaps cut off. -/
theorem prefix_of_mem_zip_splitOn {sep : Char} {front cs : List Char} (h : front <+: cs) :
    ∀ e ∈ (front.splitOn sep).zip (cs.splitOn sep), e.1 <+: e.2 := by
  induction front generalizing cs with
  | nil =>
    intro e he
    have hnil : e.1 = [] := by simpa using (List.of_mem_zip he).1
    rw [hnil]
    exact List.nil_prefix
  | cons c front ih =>
    obtain ⟨rest,rfl⟩ := h
    have hcells := ih (List.prefix_append front rest)
    obtain ⟨first,others,hsplit⟩ := List.exists_cons_of_ne_nil (List.splitOn_ne_nil sep front)
    obtain ⟨first',others',hsplit'⟩ :=
      List.exists_cons_of_ne_nil (List.splitOn_ne_nil sep (front ++ rest))
    intro e he
    rw [List.cons_append, List.splitOn_cons_eq_if_modifyHead,
      List.splitOn_cons_eq_if_modifyHead] at he
    rw [hsplit, hsplit'] at hcells he
    split at he
    · rcases List.mem_cons.mp he with rfl | he
      · exact List.nil_prefix
      · exact hcells e he
    · rcases List.mem_cons.mp he with rfl | he
      · exact List.cons_prefix_cons.mpr ⟨rfl,hcells (first,first') List.mem_cons_self⟩
      · exact hcells e (List.mem_cons_of_mem _ he)

theorem mem_of_mem_stripBy {p : Char → Bool} {cs : List Char} {c : Char}
    (h : c ∈ stripBy p cs) : c ∈ cs :=
  (List.dropWhile_suffix p).subset ((List.rdropWhile_prefix p _).subset h)

theorem length_stripBy_le (p : Char → Bool) (cs : List Char) :
    (stripBy p cs).length ≤ cs.length :=
  Nat.le_trans (List.rdropWhile_prefix p _).length_le (List.dropWhile_suffix p).length_le

/-- What is removed from the end stands behind the last character that is kept. -/
theorem rdropWhile_append_kept {p : Char → Bool} {d : Char} (hd : p d = false)
    (front tail : List Char) :
    (front ++ d :: tail).rdropWhile p = front ++ d :: tail.rdropWhile p := by
  induction tail using List.reverseRecOn with
  | nil => rw [List.rdropWhile_concat_neg _ _ _ (by simp [hd]), List.rdropWhile_nil]
  | append_singleton tail e ih =>
    have hsplit : front ++ d :: (tail ++ [e]) = (front ++ d :: tail) ++ [e] := by simp
    rw [hsplit]
    by_cases he : p e = true
    · rw [List.rdropWhile_concat_pos _ _ _ he, List.rdropWhile_concat_pos _ _ _ he, ih]
    · rw [List.rdropWhile_concat_neg _ _ _ he, List.rdropWhile_concat_neg _ _ _ he, hsplit]

/-- Text that neither begins nor ends with a removable character is not changed. -/
theorem stripBy_eq_self {p : Char → Bool} {cs : List Char}
    (hhead : ∀ c ∈ cs.head?, p c = false) (hlast : ∀ c ∈ cs.getLast?, p c = false) :
    stripBy p cs = cs := by
  have hdrop : cs.dropWhile p = cs := by
    cases cs with
    | nil => rfl
    | cons c cs => simp [hhead c (by simp)]
  rw [stripBy, hdrop, List.rdropWhile_eq_self_iff]
  intro hne
  simpa using hlast _ (List.getLast?_eq_getLast_of_ne_nil hne)

/-- Removable characters around a text make no difference to what is left of it. -/
theorem stripBy_wrap {p : Char → Bool} {a b : Char} (ha : p a = true) (hb : p b = true)
    (cs : List Char) : stripBy p (a :: cs ++ [b]) = stripBy p cs := by
  have hfront : (a :: cs ++ [b]).dropWhile p = (cs ++ [b]).dropWhile p := by
    rw [List.cons_append, List.dropWhile_cons_of_pos ha]
  rw [stripBy, stripBy, hfront, List.dropWhile_append]
  cases hdrop : cs.dropWhile p with
  | nil => simp [hb]
  | cons c rest =>
    simp only [List.isEmpty_cons, Bool.false_eq_true, if_false]
    exact List.rdropWhile_concat_pos _ _ _ hb

/-- A text is stripped to nothing only if all of it can be removed. -/
theorem stripBy_ne_nil {p : Char → Bool} {cs : List Char} {c : Char} (hc : c ∈ cs)
    (hp : p c = false) : stripBy p cs ≠ [] := by
  intro hnil
  rw [stripBy, List.rdropWhile_eq_nil_iff] at hnil
  cases hdrop : cs.dropWhile p with
  | nil =>
    rw [List.dropWhile_eq_nil_iff.mp hdrop c hc] at hp
    contradiction
  | cons d ds =>
    have hhead := List.head?_dropWhile_not p cs
    rw [hdrop] at hhead hnil
    have hkept : p d = false := hhead
    rw [hnil d List.mem_cons_self] at hkept
    contradiction

theorem stripBy_eq_nil_iff {p : Char → Bool} {cs : List Char} :
    stripBy p cs = [] ↔ ∀ c ∈ cs, p c = true := by
  constructor
  · intro hnil c hc
    by_contra hp
    exact stripBy_ne_nil hc (by simpa using hp) hnil
  · intro hall
    rw [stripBy, List.dropWhile_eq_nil_iff.mpr hall]
    rfl

/-- Something is left of a text exactly when there is more than blanks in it. -/
theorem strip_ne_empty_iff {s : String} : strip s ≠ "" ↔ ∃ c ∈ s.toList, isSpace c = false := by
  have hempty : strip s = "" ↔ stripBy isSpace s.toList = [] := by
    rw [strip]
    exact ⟨fun h => by simpa using congrArg String.toList h,fun h => by rw [h]⟩
  rw [ne_eq, hempty, stripBy_eq_nil_iff]
  simp

/-- Nothing is left to remove once a text is stripped. -/
theorem stripBy_stripBy (p : Char → Bool) (cs : List Char) :
    stripBy p (stripBy p cs) = stripBy p cs := by
  apply stripBy_eq_self
  · intro c hc
    have hfront : stripBy p cs <+: cs.dropWhile p := List.rdropWhile_prefix p _
    have hhead : (cs.dropWhile p).head? = some c := by
      obtain ⟨rest,hrest⟩ := hfront
      rw [← hrest, List.head?_append, Option.mem_def.mp hc]
      rfl
    have hnot := List.head?_dropWhile_not p cs
    rw [hhead] at hnot
    simpa using hnot
  · intro c hc
    have hne : stripBy p cs ≠ [] := by
      intro hnil
      rw [hnil] at hc
      contradiction
    have hlast := List.rdropWhile_last_not p (cs.dropWhile p) hne
    rw [List.getLast?_eq_getLast_of_ne_nil hne, Option.mem_some_iff] at hc
    rw [← hc]
    exact Bool.not_eq_true _ ▸ hlast

end Py
