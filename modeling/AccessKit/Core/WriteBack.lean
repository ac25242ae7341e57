import Mathlib.Data.List.Basic
import Mathlib.Logic.Function.Basic

/-!
# Writers that write a store back

Writers work on one store. Each keeps in memory what the store held when it was last read or
written by it; a call changes the entities it is about there, and writes all of it back. What a
call acknowledges is an entity that it has written.

Results:
* `Lawful.nothingLost`: while each call meets in memory what the store holds, no entity that was
  acknowledged is lost before a call that is about it.
* `Lawful.lost`: a call that is acknowledged and does not, loses an entity.
-/
namespace AccessKit.Core

/-- Writers with what they have in memory, the calls that write it back, and the entities that
a call is about. -/
structure WriteBack (ι M D Op K R : Type*) where
  cached : M → K → Option R
  stored : D → K → Option R
  call : ι → Op → M → D → M × D × Option (K × R)
  writes : Op → Prop
  about : Op → K → Prop

namespace WriteBack

section
variable {ι M D Op K R : Type*} [DecidableEq ι] (W : WriteBack ι M D Op K R)

/-- A call of one of the writers. -/
def perform (s : (ι → M) × D) (c : ι × Op) : (ι → M) × D :=
  let outcome := W.call c.1 c.2 (s.1 c.1) s.2
  (Function.update s.1 c.1 outcome.1, outcome.2.1)

def run (s : (ι → M) × D) (calls : List (ι × Op)) : (ι → M) × D := calls.foldl W.perform s

/-- What the call acknowledges. -/
def acknowledged (s : (ι → M) × D) (c : ι × Op) : Option (K × R) :=
  (W.call c.1 c.2 (s.1 c.1) s.2).2.2

/-- **Nothing is lost**: what was acknowledged is stored as long as no later call is about it. -/
def NothingLost (start : (ι → M) × D) (calls : List (ι × Op)) : Prop :=
  ∀ before c after k r, calls = before ++ c :: after →
    W.acknowledged (W.run start before) c = some (k, r) → (∀ c' ∈ after, ¬ W.about c'.2 k) →
      W.stored (W.run start calls).2 k = some r

/-- A writer that writes has in memory what is stored of the other entities. -/
def UpToDate (s : (ι → M) × D) (c : ι × Op) : Prop :=
  W.writes c.2 → ∀ k, ¬ W.about c.2 k → ∀ r, W.stored s.2 k = some r → W.cached (s.1 c.1) k = some r

def AllUpToDate : (ι → M) × D → List (ι × Op) → Prop
  | _, [] => True
  | s, c :: calls => W.UpToDate s c ∧ AllUpToDate (W.perform s c) calls

/-- What is written back. A call leaves the store, or writes what is in memory over it. -/
def Lawful : Prop :=
  ∀ i op m d, (W.stored (W.call i op m d).2.1 = W.stored d ∧ (W.call i op m d).2.2 = none) ∨
    W.writes op ∧ (∀ k, ¬ W.about op k → W.stored (W.call i op m d).2.1 k = W.cached m k) ∧
      ∀ k r, (W.call i op m d).2.2 = some (k, r) →
        W.about op k ∧ W.stored (W.call i op m d).2.1 k = some r

variable {W} {s : (ι → M) × D} {c : ι × Op} {k : K} {r : R}

theorem perform_store (i : ι) (op : Op) :
    (W.perform s (i, op)).2 = (W.call i op (s.1 i) s.2).2.1 := rfl

omit [DecidableEq ι] in
theorem acknowledged_call (i : ι) (op : Op) :
    W.acknowledged s (i, op) = (W.call i op (s.1 i) s.2).2.2 := rfl

theorem allUpToDate_append {before after : List (ι × Op)} :
    W.AllUpToDate s (before ++ after) ↔
      W.AllUpToDate s before ∧ W.AllUpToDate (W.run s before) after := by
  induction before generalizing s with
  | nil => exact (iff_of_eq (true_and _)).symm
  | cons c before ih =>
    rw [List.cons_append, AllUpToDate, AllUpToDate, ih, and_assoc]
    rfl

/-- **One call** keeps what it is not about. -/
theorem Lawful.kept (h : W.Lawful) (hupToDate : W.UpToDate s c) (hk : ¬ W.about c.2 k)
    (hr : W.stored s.2 k = some r) : W.stored (W.perform s c).2 k = some r := by
  rcases h c.1 c.2 (s.1 c.1) s.2 with ⟨hstored, -⟩ | ⟨hwrites, hwritten, -⟩
  · exact (congrFun hstored k).trans hr
  · exact (hwritten k hk).trans (hupToDate hwrites k hk r hr)

theorem Lawful.stored_acknowledged (h : W.Lawful) (hr : W.acknowledged s c = some (k, r)) :
    W.stored (W.perform s c).2 k = some r := by
  rcases h c.1 c.2 (s.1 c.1) s.2 with ⟨-, hnone⟩ | ⟨-, -, hsome⟩
  · rw [acknowledged, hnone] at hr
    cases hr
  · exact (hsome k r hr).2

/-- **Any calls** keep what they are not about. -/
theorem Lawful.kept_run (h : W.Lawful) {calls : List (ι × Op)} (hupToDate : W.AllUpToDate s calls)
    (hk : ∀ c ∈ calls, ¬ W.about c.2 k) (hr : W.stored s.2 k = some r) :
    W.stored (W.run s calls).2 k = some r := by
  induction calls generalizing s with
  | nil => exact hr
  | cons c calls ih =>
    obtain ⟨hc, hcalls⟩ := List.forall_mem_cons.1 hk
    exact ih hupToDate.2 hcalls (h.kept hupToDate.1 hc hr)

theorem Lawful.nothingLost (h : W.Lawful) {calls : List (ι × Op)}
    (hupToDate : W.AllUpToDate s calls) : W.NothingLost s calls := by
  rintro before c after k r rfl hr hafter
  obtain ⟨-, -, hrest⟩ := allUpToDate_append.1 hupToDate
  rw [run, List.foldl_append]
  show W.stored (W.run (W.perform (W.run s before) c) after).2 k = some r
  exact h.kept_run hrest hafter (h.stored_acknowledged hr)

/-- **What is written over**: an acknowledged call leaves of the other entities what its writer
has in memory. -/
theorem Lawful.written (h : W.Lawful) {answer : K × R} (hanswer : W.acknowledged s c = some answer)
    (hk : ¬ W.about c.2 k) : W.stored (W.perform s c).2 k = W.cached (s.1 c.1) k := by
  rcases h c.1 c.2 (s.1 c.1) s.2 with ⟨-, hnone⟩ | ⟨-, hwritten, -⟩
  · rw [acknowledged, hnone] at hanswer
    cases hanswer
  · exact hwritten k hk

/-- **The entity that is lost** by a call whose writer does not have it in memory. -/
theorem Lawful.lost (h : W.Lawful) {answer : K × R} (hanswer : W.acknowledged s c = some answer)
    (hstale : ¬ W.UpToDate s c) : ∃ k r, ¬ W.about c.2 k ∧ W.stored s.2 k = some r ∧
      W.stored (W.perform s c).2 k ≠ some r := by
  obtain ⟨k, hk, r, hr, hcached⟩ : ∃ k, ¬ W.about c.2 k ∧ ∃ r, W.stored s.2 k = some r ∧
      W.cached (s.1 c.1) k ≠ some r := by
    by_contra hnone
    refine hstale fun _ k hk r hr => ?_
    by_contra hcached
    exact hnone ⟨k, hk, r, hr, hcached⟩
  exact ⟨k, r, hk, hr, fun hkept => hcached ((h.written hanswer hk).symm.trans hkept)⟩

end

end WriteBack

end AccessKit.Core
