import Mathlib.Data.List.Basic

/-!
# Programs that read

A program reads collections from a source, and what it reads next depends on what it has
read. The source may answer a read in part, or fail; the program goes on after an answer
in part. Who runs the program keeps a flag that falls when a read that counts was not
completed.

Results:
* `run_reads`: a run adds to the reads, and the flag is left up when each of them that
  counts was completed.
-/
namespace AccessKit.Core

/-- A program that asks for collections of `V` by requests `Q`. -/
inductive Reading (Q V : Type) (α : Type) where
  | done (a : α)
  | read (q : Q) (next : List V → Reading Q V α)

namespace Reading

variable {Q V σ α β : Type}

def bind (f : α → Reading Q V β) : Reading Q V α → Reading Q V β
  | .done a => f a
  | .read q next => .read q fun values => bind f (next values)

instance : Monad (Reading Q V) where
  pure := .done
  bind r f := bind f r

/-- One collection. -/
def ask (q : Q) : Reading Q V (List V) := .read q .done

end Reading

/-- A read that was made. -/
structure Read (Q V : Type) where
  request : Q
  values : List V
  completed : Bool

/-- Where a run is. -/
structure Progress (σ Q V : Type) where
  source : σ
  complete : Bool
  reads : List (Read Q V) := []

/-- What answers the reads, and which of them count. -/
structure Answers (σ Q V : Type) where
  answer : σ → Q → σ × Except String (List V × Bool)
  counts : Q → Bool

namespace Answers

variable {Q V σ α β : Type} (answers : Answers σ Q V)

/-- Run a program up to its end, or to a read that throws. -/
def run : Reading Q V α → Progress σ Q V → Progress σ Q V × Except String α
  | .done a, p => (p, .ok a)
  | .read q next, p =>
    match answers.answer p.source q with
    | (source, .error message) => ({ p with source }, .error message)
    | (source, .ok (values, completed)) =>
      run (next values)
        { source
          complete := p.complete && (completed || !answers.counts q)
          reads := p.reads ++ [⟨q, values, completed⟩] }

/-- Every read that counts was completed. -/
def allComplete (reads : List (Read Q V)) : Bool :=
  reads.all fun r => r.completed || !answers.counts r.request

theorem allComplete_eq_false (reads : List (Read Q V)) : answers.allComplete reads = false ↔
    ∃ r ∈ reads, answers.counts r.request = true ∧ r.completed = false := by
  simp [allComplete, and_comm]

/-- **A run** reads on, and the flag tells whether what counts was completed. -/
theorem run_reads (program : Reading Q V α) (p : Progress σ Q V) :
    ∃ reads, (answers.run program p).1.reads = p.reads ++ reads ∧
      (answers.run program p).1.complete = (p.complete && answers.allComplete reads) := by
  induction program generalizing p with
  | done a => exact ⟨[], by simp [run], by simp [run, allComplete]⟩
  | read q next ih =>
    unfold run
    rcases hanswer : answers.answer p.source q with ⟨source, message | ⟨values, completed⟩⟩
    · exact ⟨[], by simp, by simp [allComplete]⟩
    · obtain ⟨reads, hreads, hcomplete⟩ := ih values
        { source
          complete := p.complete && (completed || !answers.counts q)
          reads := p.reads ++ [⟨q, values, completed⟩] }
      refine ⟨⟨q, values, completed⟩ :: reads, ?_, ?_⟩
      · rw [hreads, List.append_assoc]
        rfl
      · rw [hcomplete, Bool.and_assoc]
        rfl

theorem run_complete (program : Reading Q V α) (source : σ) :
    (answers.run program { source, complete := true }).1.complete =
      answers.allComplete (answers.run program { source, complete := true }).1.reads := by
  obtain ⟨reads, hreads, hcomplete⟩ := answers.run_reads program { source, complete := true }
  rw [hreads, hcomplete]
  simp

end Answers

end AccessKit.Core
