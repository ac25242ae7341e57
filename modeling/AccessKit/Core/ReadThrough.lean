import AccessKit.Core.Loop
import AccessKit.Core.OrderedMap

/-!
# Reading through a memo table

A table that remembers what a function returned: a read of a key that is in
the table is served from it, any other read computes the value and enters it.
`Reads` also notes what was served, in order, so that one can speak about it.

Results:
* `readThrough_served`: a read returns what the table holds, or the value.
* `Coherent.served`: a table that holds nothing but values serves values.
* `worklistThrough_eq`: a worklist that reads through the table is the
  worklist that reads what the table serves.
* `worklistThrough_keeps`, `Faithful.readThrough`: a faithful table stays so.
-/
namespace AccessKit.Core

variable {K V α ε τ ρ : Type*} [DecidableEq K]

/-- The table and what was read through it so far. -/
structure Reads (K V : Type*) where
  table : OrderedMap K V
  log : List (K × V)

/-- What a read of the key returns. -/
def served (fresh : K → V) (table : OrderedMap K V) (k : K) : V := (table.get? k).getD (fresh k)

/-- The table holds values of the function, and nothing else. -/
def Coherent (fresh : K → V) (table : OrderedMap K V) : Prop :=
  ∀ k v, table.get? k = some v → v = fresh k

def readThrough (fresh : K → V) (k : K) (c : Reads K V) : V × Reads K V :=
  match c.table.get? k with
  | some v => (v, ⟨c.table, c.log ++ [(k, v)]⟩)
  | none => (fresh k, ⟨c.table.set k (fresh k), c.log ++ [(k, fresh k)]⟩)

section
variable {fresh : K → V} {k : K} {c : Reads K V} {table : OrderedMap K V}

theorem readThrough_served : (readThrough fresh k c).1 = served fresh c.table k := by
  unfold readThrough served
  cases h : c.table.get? k <;> rfl

theorem readThrough_log :
    (readThrough fresh k c).2.log = c.log ++ [(k, served fresh c.table k)] := by
  unfold readThrough served
  cases h : c.table.get? k <;> rfl

/-- A read does not change what the table serves. -/
theorem served_readThrough :
    served fresh (readThrough fresh k c).2.table = served fresh c.table := by
  funext a
  unfold readThrough served
  cases h : c.table.get? k with
  | some v => rfl
  | none =>
    by_cases ha : k = a
    · subst ha
      simp [h]
    · simp [OrderedMap.get?_set, ha]

theorem coherent_empty : Coherent fresh (.empty : OrderedMap K V) := by
  intro k v h
  cases h

theorem Coherent.served (h : Coherent fresh table) : served fresh table = fresh := by
  funext k
  unfold Core.served
  cases hk : table.get? k with
  | none => rfl
  | some v => exact h k v hk

theorem coherent_of_served (h : Core.served fresh table = fresh) : Coherent fresh table := by
  intro k v hk
  have := congrFun h k
  unfold Core.served at this
  rw [hk] at this
  exact this

end

/-! ## A worklist that reads through a table -/

/-- `worklist`, with the elements of each entry read through the table. -/
def worklistThrough (fresh : K → List ε) (key : α → K)
    (body : α → ε → Agenda α τ → Flow (Agenda α τ) ρ) :
    Nat → Reads K (List ε) → Agenda α τ → Option (Flow (Agenda α τ) ρ × Reads K (List ε))
  | 0, _, _ => none
  | n + 1, c, w =>
    match w.queue with
    | [] => some (.step w, c)
    | a :: q =>
      let read := readThrough fresh (key a) c
      match forOf (body a) read.1 ⟨q, w.memo⟩ with
      | .step w' => worklistThrough fresh key body n read.2 w'
      | .stop w' r => some (.stop w' r, read.2)

section
variable {fresh : K → List ε} {key : α → K} {body : α → ε → Agenda α τ → Flow (Agenda α τ) ρ}

/-- **Reading through a table** is reading what the table serves. -/
theorem worklistThrough_eq (n : Nat) (c : Reads K (List ε)) (w : Agenda α τ) :
    (worklistThrough fresh key body n c w).map Prod.fst =
      worklist (fun a => forOf (body a) (served fresh c.table (key a))) n w := by
  induction n generalizing c w with
  | zero => rfl
  | succ n ih =>
    obtain ⟨q, m⟩ := w
    cases q with
    | nil => rfl
    | cons a q =>
      simp only [worklistThrough, worklist, readThrough_served]
      cases forOf (body a) (served fresh c.table (key a)) ⟨q, m⟩ with
      | step w' =>
        have h := ih (readThrough fresh (key a) c).2 w'
        rw [served_readThrough] at h
        exact h
      | stop w' r => rfl

/-- What holds of the reads is kept by one more read is kept by the loop. -/
theorem worklistThrough_keeps {P : Reads K (List ε) → Prop}
    (hread : ∀ k c, P c → P (readThrough fresh k c).2) {n : Nat} {c : Reads K (List ε)}
    {w : Agenda α τ} {out : Flow (Agenda α τ) ρ × Reads K (List ε)} (h : P c)
    (hout : worklistThrough fresh key body n c w = some out) : P out.2 := by
  induction n generalizing c w with
  | zero => cases hout
  | succ n ih =>
    obtain ⟨q, m⟩ := w
    cases q with
    | nil =>
      cases hout
      exact h
    | cons a q =>
      have ha := hread (key a) c h
      simp only [worklistThrough] at hout
      cases hb : forOf (body a) (readThrough fresh (key a) c).1 ⟨q, m⟩ with
      | step w' =>
        rw [hb] at hout
        exact ih ha hout
      | stop w' r =>
        rw [hb] at hout
        cases hout
        exact ha

end

/-- Everything served so far came from the function, and so will everything
that is served next. -/
structure Faithful (fresh : K → V) (c : Reads K V) : Prop where
  table : Coherent fresh c.table
  log : ∀ p ∈ c.log, p.2 = fresh p.1

theorem Faithful.readThrough {fresh : K → V} {c : Reads K V} (h : Faithful fresh c) (k : K) :
    Faithful fresh (readThrough fresh k c).2 where
  table := coherent_of_served (served_readThrough.trans h.table.served)
  log := by
    rw [readThrough_log, h.table.served]
    intro p hp
    rcases List.mem_append.1 hp with hp | hp
    · exact h.log p hp
    · rw [List.mem_singleton] at hp
      subst hp
      rfl

end AccessKit.Core
