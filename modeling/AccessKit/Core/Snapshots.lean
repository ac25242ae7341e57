import AccessKit.Core.Replica

/-!
# Snapshots, and the memory of one

A snapshot holds records under keys of their own. It is searched and written record by
record, and copied as a whole. Whoever works on a snapshot keeps it in memory, changes it
there and then persists it; what is in memory is made of copies.

Results:
* `Memory.upsert_eq_iff`: the writes that change nothing.
* `changeThenPersist_failed`, `changeThenPersist_kept`: what a persist that throws leaves in
  memory.
-/
namespace AccessKit.Core

/-- Snapshots that hold records under keys. -/
structure Snapshots (S R K : Type*) [DecidableEq K] extends Filing R K where
  find : S → K → Option R
  upsert : S → R → S
  copyAll : S → S
  find_upsert : ∀ s r k, find (upsert s r) k = if key r = k then some r else find s k
  upsert_found : ∀ s r, find s (key r) = some r → upsert s r = s
  find_copyAll : ∀ s k, find (copyAll s) k = (find s k).map copy
  copyAll_upsert : ∀ s r, copyAll (upsert s r) = upsert (copyAll s) (copy r)
  copyAll_copyAll : ∀ s, copyAll (copyAll s) = copyAll s

section
variable {S R K : Type*} [DecidableEq K] {P : Snapshots S R K}

/-- **A write that changes nothing** writes what is there. -/
theorem Snapshots.upsert_eq_iff {s : S} {r : R} :
    P.upsert s r = s ↔ P.find s (P.key r) = some r := by
  refine ⟨fun h => ?_, P.upsert_found s r⟩
  have hfound := P.find_upsert s r (P.key r)
  rwa [if_pos rfl, h] at hfound

variable (P) in
/-- A snapshot of copies. -/
@[ext] structure Memory where
  snapshot : S
  copied : P.copyAll snapshot = snapshot

namespace Memory

variable (P) in
/-- The copy of a snapshot, whatever it is made of. -/
def load (s : S) : Memory P := ⟨P.copyAll s, P.copyAll_copyAll s⟩

/-- A copy of the record, in the place of what has its key. -/
def upsert (m : Memory P) (r : R) : Memory P where
  snapshot := P.upsert m.snapshot (P.copy r)
  copied := by rw [P.copyAll_upsert, m.copied, P.copy_copy]

def find (m : Memory P) (k : K) : Option R := P.find m.snapshot k

theorem load_snapshot (m : Memory P) : load P m.snapshot = m := Memory.ext m.copied

theorem copy_of_find {m : Memory P} {k : K} {r : R} (h : m.find k = some r) : P.copy r = r := by
  have hcopy := P.find_copyAll m.snapshot k
  rw [m.copied] at hcopy
  unfold find at h
  rw [h] at hcopy
  exact (Option.some.inj hcopy).symm

theorem find_upsert (m : Memory P) (r : R) (k : K) :
    (m.upsert r).find k = if P.key r = k then some (P.copy r) else m.find k := by
  refine (P.find_upsert m.snapshot (P.copy r) k).trans ?_
  rw [P.key_copy]
  rfl

/-- **The writes that change nothing.** -/
theorem upsert_eq_iff {m : Memory P} {r : R} :
    m.upsert r = m ↔ m.find (P.key r) = some (P.copy r) := by
  rw [Memory.ext_iff]
  refine Snapshots.upsert_eq_iff.trans ?_
  rw [P.key_copy]
  rfl

end Memory

end

/-! ## Changing and persisting -/

section
variable {M D ε α β : Type*}

/-- Change what is in memory and persist it. A change that is refused is not persisted; one
that is made stays in memory when persisting throws. -/
def changeThenPersist (persist : M → D → M × D × Except ε α) (change : M → Except ε M)
    (answer : α → β) (m : M) (d : D) : M × D × Except ε β :=
  match change m with
  | .error e => (m, d, .error e)
  | .ok m' =>
    let (m, d, persisted) := persist m' d
    (m, d, persisted.map answer)

/-- A persist that throws changes nothing itself. -/
def FailsClean (persist : M → D → M × D × Except ε α) : Prop :=
  ∀ m d e, (persist m d).2.2 = .error e → persist m d = (m, d, .error e)

section
variable {persist : M → D → M × D × Except ε α} {change : M → Except ε M} {answer : α → β}
  {m m' : M} {d : D} {e : ε}

theorem changeThenPersist_refused (hchange : change m = .error e) :
    changeThenPersist persist change answer m d = (m, d, .error e) := by
  unfold changeThenPersist
  rw [hchange]

theorem changeThenPersist_made (hchange : change m = .ok m') :
    changeThenPersist persist change answer m d =
      ((persist m' d).1, (persist m' d).2.1, (persist m' d).2.2.map answer) := by
  unfold changeThenPersist
  rw [hchange]

/-- **What a persist that throws leaves in memory** is the change. -/
theorem changeThenPersist_failed (hpersist : FailsClean persist) (hchange : change m = .ok m')
    (hfailed : (changeThenPersist persist change answer m d).2.2 = .error e) :
    changeThenPersist persist change answer m d = (m', d, .error e) := by
  unfold changeThenPersist at hfailed ⊢
  rw [hchange] at hfailed ⊢
  cases hresult : (persist m' d).2.2 with
  | error e' =>
    dsimp only at hfailed ⊢
    rw [hpersist m' d e' hresult] at hfailed ⊢
    exact congrArg (fun answered => (m', d, answered)) hfailed
  | ok a =>
    dsimp only at hfailed
    rw [hresult] at hfailed
    cases hfailed

/-- **When a call that throws leaves nothing**: the change was refused, or was none. -/
theorem changeThenPersist_kept (hpersist : FailsClean persist)
    (hfailed : (changeThenPersist persist change answer m d).2.2 = .error e) :
    (changeThenPersist persist change answer m d).2.1 = d ∧
      ((changeThenPersist persist change answer m d).1 = m ↔ ∀ m', change m = .ok m' → m' = m) := by
  cases hchange : change m with
  | error e' =>
    rw [changeThenPersist_refused hchange]
    exact ⟨rfl, fun _ _ h => (by cases h), fun _ => rfl⟩
  | ok m' =>
    rw [changeThenPersist_failed hpersist hchange hfailed]
    exact ⟨rfl, fun h _ h' => (Except.ok.inj h').symm.trans h, fun h => h m' rfl⟩

end

end

end AccessKit.Core
