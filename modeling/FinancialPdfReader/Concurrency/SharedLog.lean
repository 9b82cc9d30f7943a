import Mathlib.Data.List.Perm.Subperm
import Mathlib.Logic.Relation

/- Several writers append to one log, in any order and as far as they get. -/

namespace SharedLog

variable {α : Type}

/-- A writer appends the entries of its plan one after the other. -/
structure Writer (α : Type) where
  plan : List α
  done : Nat

structure State (α : Type) where
  log : List α
  writers : List (Writer α)

namespace Writer

def written (w : Writer α) : List α := w.plan.take w.done

def next (w : Writer α) : Writer α := { w with done := w.done + 1 }

def Finished (w : Writer α) : Prop := w.plan.length ≤ w.done

theorem written_next {w : Writer α} {a : α} (h : w.plan[w.done]? = some a) :
    w.next.written = w.written ++ [a] := by
  rw [written, next, List.take_add_one, h]
  rfl

theorem Finished.written {w : Writer α} (h : w.Finished) : w.written = w.plan :=
  List.take_of_length_le h

end Writer

/-- Someone new begins, or one of the writers appends its next entry. A writer may stop for
good at any point: nothing forces it to take a step. -/
inductive Step : State α → State α → Prop where
  | join (s : State α) (plan : List α) : Step s ⟨s.log,s.writers ++ [⟨plan,0⟩]⟩
  | write {log : List α} {before after : List (Writer α)} {w : Writer α} {a : α}
      (h : w.plan[w.done]? = some a) :
      Step ⟨log,before ++ w :: after⟩ ⟨log ++ [a],before ++ w.next :: after⟩

abbrev Run : State α → State α → Prop := Relation.ReflTransGen Step

/-- The log holds what was there at first and what its writers have written, nothing else and
nothing less. -/
def Accounted (base : List α) (s : State α) : Prop :=
  s.log.Perm (base ++ s.writers.flatMap Writer.written)

theorem Accounted.step {base : List α} {s t : State α} (h : Accounted base s) (hstep : Step s t) :
    Accounted base t := by
  cases hstep with
  | join _ plan =>
    have hnew : Writer.written ⟨plan,0⟩ = [] := List.take_zero
    rw [Accounted, List.flatMap_append, List.flatMap_singleton, hnew, List.append_nil]
    exact h
  | @write log before after w a hnext =>
    rw [Accounted, List.flatMap_append, List.flatMap_cons] at h ⊢
    rw [Writer.written_next hnext]
    have hmove : (w.written ++ [a] ++ after.flatMap Writer.written).Perm
        (w.written ++ after.flatMap Writer.written ++ [a]) := by
      rw [List.append_assoc, List.append_assoc]
      exact List.perm_append_comm.append_left _
    have hlog : (log ++ [a]).Perm
        ((base ++ (before.flatMap Writer.written ++
          (w.written ++ after.flatMap Writer.written))) ++ [a]) := h.append_right [a]
    apply hlog.trans
    rw [List.append_assoc, List.append_assoc]
    exact (hmove.symm.append_left _).append_left base

theorem Accounted.run {base : List α} {s t : State α} (h : Accounted base s) (hrun : Run s t) :
    Accounted base t := by
  induction hrun with
  | refl => exact h
  | tail _ hstep ih => exact ih.step hstep

theorem accounted_start (base : List α) : Accounted base ⟨base,[]⟩ := by
  rw [Accounted, List.flatMap_nil, List.append_nil]

namespace Accounted

variable {base : List α} {s : State α}

/-- Who has finished has left a whole copy of its plan in the log. -/
theorem plan_subperm (h : Accounted base s) {w : Writer α} (hw : w ∈ s.writers)
    (hdone : w.Finished) : w.plan.Subperm s.log := by
  have hpart : w.written.Sublist (base ++ s.writers.flatMap Writer.written) := by
    obtain ⟨before,after,hsplit⟩ := List.append_of_mem hw
    rw [hsplit, List.flatMap_append, List.flatMap_cons]
    refine List.Sublist.trans ?_ (List.sublist_append_right _ _)
    refine List.Sublist.trans ?_ (List.sublist_append_right _ _)
    exact List.sublist_append_left _ _
  rw [hdone.written] at hpart
  exact hpart.subperm.trans h.symm.subperm

/-- With a single writer that has finished, its plan was added once. -/
theorem single (h : Accounted base s) {w : Writer α} (hone : s.writers = [w])
    (hdone : w.Finished) : s.log.Perm (base ++ w.plan) := by
  rw [Accounted, hone, List.flatMap_singleton, hdone.written] at h
  exact h

end Accounted

section Processes

variable {C : Type} (mine : C → Bool) (writer : C → Writer α)

/-- The log of some processes: those that are its own are its writers. -/
def ofProcesses (log : List α) (processes : List C) : State α :=
  ⟨log,(processes.filter mine).map writer⟩

theorem run_join (log : List α) (processes : List C) {c : C}
    (hnew : mine c = true → (writer c).done = 0) :
    Run (ofProcesses mine writer log processes)
      (ofProcesses mine writer log (processes ++ [c])) := by
  cases hmine : mine c with
  | false =>
    have hsame : ofProcesses mine writer log (processes ++ [c]) =
        ofProcesses mine writer log processes := by
      simp [ofProcesses, hmine]
    rw [hsame]
  | true =>
    have hjoin : ofProcesses mine writer log (processes ++ [c]) =
        ⟨log,(processes.filter mine).map writer ++ [⟨(writer c).plan,0⟩]⟩ := by
      rw [← hnew hmine]
      simp [ofProcesses, hmine]
    rw [hjoin]
    exact Relation.ReflTransGen.single (.join _ _)

/-- One process goes on: if the log is its own it may write its next entry, or else the log does
not change. -/
theorem run_process {log log' : List α} (before after : List C) {c c' : C}
    (hmine : mine c' = mine c)
    (hown : mine c = true → log' = log ∧ writer c' = writer c ∨
      ∃ a ∈ (writer c).plan[(writer c).done]?, log' = log ++ [a] ∧ writer c' = (writer c).next)
    (hother : mine c = false → log' = log) :
    Run (ofProcesses mine writer log (before ++ c :: after))
      (ofProcesses mine writer log' (before ++ c' :: after)) := by
  cases hc : mine c with
  | false =>
    have hsame : ofProcesses mine writer log' (before ++ c' :: after) =
        ofProcesses mine writer log (before ++ c :: after) := by
      simp [ofProcesses, hmine, hc, hother hc]
    rw [hsame]
  | true =>
    have hfrom : ofProcesses mine writer log (before ++ c :: after) =
        ⟨log,(before.filter mine).map writer ++ writer c :: (after.filter mine).map writer⟩ := by
      simp [ofProcesses, hc]
    have hto : ofProcesses mine writer log' (before ++ c' :: after) =
        ⟨log',(before.filter mine).map writer ++ writer c' ::
          (after.filter mine).map writer⟩ := by
      simp [ofProcesses, hmine, hc]
    rw [hfrom, hto]
    rcases hown hc with ⟨rfl,hsame⟩ | ⟨a,ha,rfl,hnext⟩
    · rw [hsame]
    · rw [hnext]
      exact Relation.ReflTransGen.single (.write ha)

variable {mine writer} {log : List α} {processes : List C}

/-- Of a log that was empty at first, each process has written its own part. -/
theorem Accounted.perm_written (h : Accounted [] (ofProcesses mine writer log processes)) :
    log.Perm ((processes.filter mine).flatMap (fun c => (writer c).written)) := by
  have hlog : log.Perm ([] ++ ((processes.filter mine).map writer).flatMap Writer.written) := h
  rwa [List.nil_append, List.flatMap_map] at hlog

/-- The part of a process that has finished is its whole plan, and with no other process it is
the whole log. -/
theorem Accounted.finished (h : Accounted [] (ofProcesses mine writer log processes)) {c : C}
    (hc : c ∈ processes.filter mine) (hdone : (writer c).Finished) :
    (writer c).plan.Subperm log ∧
      ((processes.filter mine).length = 1 → log.Perm (writer c).plan) := by
  constructor
  · exact h.plan_subperm (List.mem_map_of_mem hc) hdone
  · intro hone
    obtain ⟨only,honly⟩ := List.length_eq_one_iff.mp hone
    rw [honly, List.mem_singleton] at hc
    have hwriters : (ofProcesses mine writer log processes).writers = [writer c] := by
      simp only [ofProcesses, honly, List.map_singleton, hc]
    exact h.single hwriters hdone

end Processes

end SharedLog
