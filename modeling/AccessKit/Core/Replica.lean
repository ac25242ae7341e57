import Mathlib.Data.List.Basic

/-!
# A store and its replica

Records that are filed under a key of their own. A store holds one record for each key. A
replica is written record by record, keeps copies, and may refuse a write; a snapshot of
the store is written as a whole. A start takes the replica when it holds every key of the
snapshot, and the snapshot otherwise.

Results:
* `load_ne_none`, `load_eq`: what a list of records comes to.
* `writeAll_agrees`: a replica that accepts every write holds what was written.
* `start_agrees`: a start gives back a store that its replica agrees with.
* `start_replica`: a replica with every key of the snapshot is taken, whatever it holds.
-/
namespace AccessKit.Core

/-- How records are filed, and copied. -/
structure Filing (R K : Type*) where
  key : R → K
  copy : R → R
  key_copy : ∀ r, key (copy r) = key r
  copy_copy : ∀ r, copy (copy r) = copy r

/-- A repository of records: each write is accepted or refused. -/
structure Repository (S R : Type*) where
  write : S → R → S × Except String Unit
  records : S → List R

namespace Repository

variable {S R : Type*} (repository : Repository S R)

/-- Write one record after the other, with the messages of the writes that are refused. -/
def writeAll : S → List R → S × List String
  | s, [] => (s, [])
  | s, r :: rs =>
    let (s, result) := repository.write s r
    let (s, messages) := writeAll s rs
    match result with
    | .ok () => (s, messages)
    | .error message => (s, message :: messages)

/-- Write up to the first record that is refused. -/
def writeUntil : S → List R → S × List String
  | s, [] => (s, [])
  | s, r :: rs =>
    match repository.write s r with
    | (s, .ok ()) => writeUntil s rs
    | (s, .error message) => (s, [message])

end Repository

namespace Filing

section
variable {R K : Type*} {F : Filing R K}

/-- Two stores hold the same copies. -/
def Agree (F : Filing R K) (view view' : K → Option R) : Prop :=
  ∀ k, (view k).map F.copy = (view' k).map F.copy

theorem Agree.refl (view : K → Option R) : F.Agree view view := fun _ => rfl

theorem Agree.symm {view view' : K → Option R} (h : F.Agree view view') : F.Agree view' view :=
  fun k => (h k).symm

theorem Agree.trans {view view' view'' : K → Option R} (h : F.Agree view view')
    (h' : F.Agree view' view'') : F.Agree view view'' :=
  fun k => (h k).trans (h' k)

theorem Agree.ne_none {view view' : K → Option R} (h : F.Agree view view') (k : K) :
    view k ≠ none ↔ view' k ≠ none := by
  have hk := congrArg Option.isSome (h k)
  rw [Option.isSome_map, Option.isSome_map] at hk
  rw [← Option.isSome_iff_ne_none, ← Option.isSome_iff_ne_none, hk]

end

variable {R K S : Type*} [DecidableEq K] (F : Filing R K)

/-- The store after a write. -/
def put (view : K → Option R) (r : R) : K → Option R :=
  fun k => if F.key r = k then some r else view k

def putAll (view : K → Option R) (rs : List R) : K → Option R := rs.foldl F.put view

/-- The store that a list of records makes. -/
def load (rs : List R) : K → Option R := F.putAll (fun _ => none) rs

/-- The replica is not empty and has every key of the snapshot. -/
def prefers (replica snapshot : List R) : Bool :=
  !replica.isEmpty && snapshot.all fun r => replica.any fun r' => F.key r' = F.key r

/-- The records that a start takes. -/
def start (replica snapshot : List R) : List R :=
  if F.prefers replica snapshot then replica else snapshot

/-- What a repository holds is what it accepted. -/
structure Keeps (repository : Repository S R) : Prop where
  accepted : ∀ s r, (repository.write s r).2 = .ok () →
    F.load (repository.records (repository.write s r).1) =
      F.put (F.load (repository.records s)) (F.copy r)
  refused : ∀ s r message, (repository.write s r).2 = .error message →
    F.load (repository.records (repository.write s r).1) = F.load (repository.records s)

variable {F}

/-! ## Lists of records -/

@[simp] theorem putAll_nil (view : K → Option R) : F.putAll view [] = view := rfl

@[simp] theorem putAll_cons (view : K → Option R) (r : R) (rs : List R) :
    F.putAll view (r :: rs) = F.putAll (F.put view r) rs := rfl

theorem putAll_append (view : K → Option R) (rs rs' : List R) :
    F.putAll view (rs ++ rs') = F.putAll (F.putAll view rs) rs' :=
  List.foldl_append ..

theorem put_of_ne {view : K → Option R} {r : R} {k : K} (h : F.key r ≠ k) :
    F.put view r k = view k :=
  if_neg h

theorem putAll_some {view : K → Option R} {rs : List R} {k : K} {r : R}
    (h : F.putAll view rs k = some r) : view k = some r ∨ r ∈ rs ∧ F.key r = k := by
  induction rs generalizing view with
  | nil => exact .inl h
  | cons r' rs ih =>
    rcases ih h with hput | ⟨hmem, hkey⟩
    · by_cases hk : F.key r' = k
      · rw [put, if_pos hk, Option.some.injEq] at hput
        subst hput
        exact .inr ⟨List.mem_cons_self, hk⟩
      · rw [put_of_ne hk] at hput
        exact .inl hput
    · exact .inr ⟨List.mem_cons_of_mem _ hmem, hkey⟩

theorem putAll_ne_none {view : K → Option R} {rs : List R} {k : K} :
    F.putAll view rs k ≠ none ↔ view k ≠ none ∨ ∃ r ∈ rs, F.key r = k := by
  induction rs generalizing view with
  | nil => simp
  | cons r' rs ih =>
    rw [putAll_cons, ih]
    by_cases hk : F.key r' = k
    · simp [put, hk]
    · simp [put, hk]

theorem load_ne_none {rs : List R} {k : K} : F.load rs k ≠ none ↔ ∃ r ∈ rs, F.key r = k := by
  rw [load, putAll_ne_none]
  simp

theorem load_some {rs : List R} {k : K} {r : R} (h : F.load rs k = some r) :
    r ∈ rs ∧ F.key r = k := by
  rcases putAll_some h with h | h
  · cases h
  · exact h

theorem putAll_eq_or (view : K → Option R) (rs : List R) (k : K) :
    F.putAll view rs k = (F.load rs k).or (view k) := by
  have hall : ∀ view' : K → Option R, F.putAll (fun k => (view' k).or (view k)) rs k =
      (F.putAll view' rs k).or (view k) := by
    intro view'
    induction rs generalizing view' with
    | nil => rfl
    | cons r rs ih =>
      rw [putAll_cons, putAll_cons, ← ih]
      congr 1
      funext a
      unfold put
      split <;> rfl
  exact hall fun _ => none

theorem load_eq {rs : List R} {view : K → Option R} (hkey : ∀ k r, view k = some r → F.key r = k)
    (hmem : ∀ r, r ∈ rs ↔ view (F.key r) = some r) : F.load rs = view := by
  funext k
  cases hload : F.load rs k with
  | some r =>
    obtain ⟨hr, rfl⟩ := load_some hload
    exact ((hmem r).1 hr).symm
  | none =>
    cases hview : view k with
    | none => rfl
    | some r =>
      have hk := hkey k r hview
      exact absurd hload (load_ne_none.2 ⟨r, (hmem r).2 (by rw [hk, hview]), hk⟩)

/-! ## Copies -/

theorem Agree.put {view view' : K → Option R} (h : F.Agree view view') {r r' : R}
    (hkey : F.key r = F.key r') (hcopy : F.copy r = F.copy r') :
    F.Agree (F.put view r) (F.put view' r') := by
  intro k
  unfold Filing.put
  rw [hkey]
  split
  · simp [hcopy]
  · exact h k

theorem Agree.putAll {view view' : K → Option R} (h : F.Agree view view') (rs : List R) :
    F.Agree (F.putAll view rs) (F.putAll view' rs) := by
  induction rs generalizing view view' with
  | nil => exact h
  | cons r rs ih => exact ih (h.put rfl rfl)

/-- Taking records away is seen after a list of writes, unless each is written again. -/
theorem agree_putAll_filter {view : K → Option R} {keep : R → Bool} {rs : List R} :
    F.Agree (F.putAll (fun k => (view k).filter keep) rs) (F.putAll view rs) ↔
      ∀ k r, view k = some r → keep r = false → F.load rs k ≠ none := by
  have hk : ∀ k, (F.putAll (fun k => (view k).filter keep) rs k).map F.copy =
      (F.putAll view rs k).map F.copy ↔
        ∀ r, view k = some r → keep r = false → F.load rs k ≠ none := by
    intro k
    rw [putAll_eq_or, putAll_eq_or]
    cases F.load rs k with
    | some r => simp
    | none =>
      cases view k with
      | none => simp
      | some r => cases hr : keep r <;> simp [Option.filter, hr]
  exact forall_congr' hk

theorem load_map_copy (rs : List R) (k : K) :
    F.load (rs.map F.copy) k = (F.load rs k).map F.copy := by
  have hall : ∀ view : K → Option R,
      F.putAll (fun k => (view k).map F.copy) (rs.map F.copy) k =
        (F.putAll view rs k).map F.copy := by
    intro view
    induction rs generalizing view with
    | nil => rfl
    | cons r rs ih =>
      rw [List.map_cons, putAll_cons, putAll_cons, ← ih]
      congr 1
      funext a
      unfold put
      rw [F.key_copy]
      split <;> rfl
  exact hall fun _ => none

/-! ## Writing to a repository -/

theorem writeAll_agrees {repository : Repository S R} (hkeeps : F.Keeps repository) {s : S}
    {rs : List R} (h : (repository.writeAll s rs).2 = []) :
    F.Agree (F.load (repository.records (repository.writeAll s rs).1))
      (F.putAll (F.load (repository.records s)) rs) := by
  induction rs generalizing s with
  | nil => exact .refl _
  | cons r rs ih =>
    unfold Repository.writeAll at h ⊢
    have haccepted := hkeeps.accepted s r
    generalize repository.write s r = written at h haccepted ⊢
    obtain ⟨s', result⟩ := written
    cases result with
    | error message => cases h
    | ok _ =>
      dsimp only at h haccepted ⊢
      refine (ih h).trans ?_
      rw [haccepted rfl, putAll_cons]
      exact (Agree.put (.refl _) (F.key_copy r) (F.copy_copy r)).putAll rs

theorem writeUntil_eq {repository : Repository S R} {s : S} {rs : List R}
    (h : (repository.writeUntil s rs).2 = []) :
    repository.writeAll s rs = repository.writeUntil s rs := by
  induction rs generalizing s with
  | nil => rfl
  | cons r rs ih =>
    unfold Repository.writeAll
    unfold Repository.writeUntil at h ⊢
    generalize repository.write s r = written at h ⊢
    obtain ⟨s', result⟩ := written
    cases result with
    | error message => cases h
    | ok _ => exact ih h

/-! ## Starts -/

theorem prefers_iff {replica snapshot : List R} : F.prefers replica snapshot = true ↔
    replica ≠ [] ∧ ∀ k, F.load snapshot k ≠ none → F.load replica k ≠ none := by
  simp only [prefers, Bool.and_eq_true, Bool.not_eq_true', List.isEmpty_eq_false_iff,
    List.all_eq_true, List.any_eq_true, decide_eq_true_eq, load_ne_none]
  constructor
  · rintro ⟨hne, hall⟩
    refine ⟨hne, ?_⟩
    rintro k ⟨r, hr, rfl⟩
    exact hall r hr
  · rintro ⟨hne, hall⟩
    exact ⟨hne, fun r hr => hall (F.key r) ⟨r, hr, rfl⟩⟩

/-- A replica with every key of the snapshot is taken. -/
theorem start_replica {replica snapshot : List R} (hne : replica ≠ [])
    (hkeys : ∀ k, F.load snapshot k ≠ none → F.load replica k ≠ none) :
    F.start replica snapshot = replica :=
  if_pos (prefers_iff.2 ⟨hne, hkeys⟩)

/-- **A start** gives back a store that the replica agrees with, when the snapshot has no
key that the store has not. -/
theorem start_agrees {replica snapshot : List R} {view : K → Option R}
    (hreplica : F.Agree (F.load replica) view)
    (hkeys : ∀ k, F.load snapshot k ≠ none → view k ≠ none) :
    F.Agree (F.load (F.start replica snapshot)) view := by
  by_cases hne : replica = []
  · subst hne
    have hview : ∀ k, view k = none := by
      intro k
      by_contra hk
      exact (hreplica.ne_none k).2 hk rfl
    have hsnapshot : ∀ k, F.load snapshot k = none := by
      intro k
      by_contra hk
      exact hkeys k hk (hview k)
    intro k
    rw [start, if_neg (by simp [prefers]), hsnapshot, hview]
  · rw [start_replica hne fun k hk => (hreplica.ne_none k).2 (hkeys k hk)]
    exact hreplica

end Filing

end AccessKit.Core
