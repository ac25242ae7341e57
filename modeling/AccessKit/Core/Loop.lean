import Mathlib.Data.List.Basic

/-!
# Loops with an early return

The two loop shapes of an imperative search, as functions on an explicit
state: `forOf` is `for (const x of xs) { … }` and `worklist` is
`for (let i = 0; i < queue.length; i += 1) { … }` over an array that the body
appends to. A body either falls through (or `continue`s) with the new state,
or `return`s out of the function. The entries before `i` are never read
again, so the array is represented by its part from `i` on.

`worklist` is fuelled: `none` means that the loop had not ended yet.

Results:
* `forOf_holds`, `worklist_holds`: the invariant rules, with the elements
  already handled as a ghost argument; `forOf_keeps`, `worklist_keeps` for
  properties that do not mention them.
* `forOf_steps`: when a checking loop goes through.
* `worklist_mono`: more fuel does not change a result.
* `worklist_isSome`: a measure that every iteration lowers bounds the fuel.
-/
namespace AccessKit.Core

/-- What a loop body does. -/
inductive Flow (σ ρ : Type*)
  | step (s : σ)
  | stop (s : σ) (r : ρ)

namespace Flow

variable {σ ρ : Type*}

def state : Flow σ ρ → σ
  | .step s => s
  | .stop s _ => s

/-- `P` of the state the loop goes on with, `Q` of the state and the value it
returns with. -/
def Holds (P : σ → Prop) (Q : σ → ρ → Prop) : Flow σ ρ → Prop
  | .step s => P s
  | .stop s r => Q s r

theorem Holds.mono {P P' : σ → Prop} {Q Q' : σ → ρ → Prop} {f : Flow σ ρ} (h : f.Holds P Q)
    (hP : ∀ s, P s → P' s) (hQ : ∀ s r, Q s r → Q' s r) : f.Holds P' Q' := by
  cases f with
  | step s => exact hP s h
  | stop s r => exact hQ s r h

end Flow

section
variable {α ε σ τ ρ : Type*}

def forOf (body : ε → σ → Flow σ ρ) : List ε → σ → Flow σ ρ
  | [], s => .step s
  | x :: xs, s =>
    match body x s with
    | .step s' => forOf body xs s'
    | .stop s' r => .stop s' r

/-- The rest of the queue and whatever else the loop carries. -/
structure Agenda (α τ : Type*) where
  queue : List α
  memo : τ

def worklist (visit : α → Agenda α τ → Flow (Agenda α τ) ρ) :
    Nat → Agenda α τ → Option (Flow (Agenda α τ) ρ)
  | 0, _ => none
  | n + 1, w =>
    match w.queue with
    | [] => some (.step w)
    | a :: q =>
      match visit a ⟨q, w.memo⟩ with
      | .step w' => worklist visit n w'
      | .stop w' r => some (.stop w' r)

/-- Invariant rule for `forOf`: `I` speaks of the elements handled so far. -/
theorem forOf_holds {body : ε → σ → Flow σ ρ} {I : List ε → σ → Prop} {Q : σ → ρ → Prop}
    {xs : List ε} (hstep : ∀ pre, ∀ x ∈ xs, ∀ s, I pre s → (body x s).Holds (I (pre ++ [x])) Q)
    (pre : List ε) {s : σ} (h : I pre s) : (forOf body xs s).Holds (I (pre ++ xs)) Q := by
  induction xs generalizing pre s with
  | nil => simpa [forOf, Flow.Holds] using h
  | cons x xs ih =>
    have hx := hstep pre x List.mem_cons_self s h
    simp only [forOf]
    cases hb : body x s with
    | step s' =>
      rw [hb] at hx
      have := ih (fun pre y hy => hstep pre y (List.mem_cons_of_mem _ hy)) _ hx
      simpa using this
    | stop s' r => rw [hb] at hx; exact hx

theorem forOf_keeps {body : ε → σ → Flow σ ρ} {P : σ → Prop} {Q : σ → ρ → Prop} {xs : List ε}
    (hstep : ∀ x ∈ xs, ∀ s, P s → (body x s).Holds P Q) {s : σ} (h : P s) :
    (forOf body xs s).Holds P Q :=
  forOf_holds (fun _ x hx s hs => hstep x hx s hs) [] h

/-- A loop whose body goes on exactly for the elements with `p` goes on to its
end exactly when all of them have it. -/
theorem forOf_steps {body : ε → σ → Flow σ ρ} {p : ε → Prop}
    (hp : ∀ x s, (∃ s', body x s = .step s') ↔ p x) (xs : List ε) (s : σ) :
    (∃ s', forOf body xs s = .step s') ↔ ∀ x ∈ xs, p x := by
  induction xs generalizing s with
  | nil => simp [forOf]
  | cons x xs ih =>
    have hx := hp x s
    simp only [forOf, List.forall_mem_cons]
    cases hb : body x s with
    | step s' =>
      rw [hb] at hx
      rw [ih s']
      exact ⟨fun h => ⟨hx.1 ⟨s', rfl⟩, h⟩, fun h => h.2⟩
    | stop s' r =>
      rw [hb] at hx
      simp only [reduceCtorEq, exists_false, false_iff] at hx ⊢
      exact fun h => hx h.1

/-- Invariant rule for `worklist`: `I` speaks of the entries handled so far. -/
theorem worklist_holds {visit : α → Agenda α τ → Flow (Agenda α τ) ρ}
    {I : List α → Agenda α τ → Prop} {P : Agenda α τ → Prop} {Q : Agenda α τ → ρ → Prop}
    (hstep : ∀ done a q m, I done ⟨a :: q, m⟩ →
      (visit a ⟨q, m⟩).Holds (I (done ++ [a])) Q)
    (hexit : ∀ done m, I done ⟨[], m⟩ → P ⟨[], m⟩) :
    ∀ (n : Nat) (done : List α) {w : Agenda α τ} {out : Flow (Agenda α τ) ρ},
      I done w → worklist visit n w = some out → out.Holds P Q := by
  intro n
  induction n with
  | zero => intro done w out _ h; cases h
  | succ n ih =>
    intro done w out hI h
    obtain ⟨q, m⟩ := w
    cases q with
    | nil => simp only [worklist, Option.some.injEq] at h; subst h; exact hexit done m hI
    | cons a q =>
      have ha := hstep done a q m hI
      simp only [worklist] at h
      cases hv : visit a ⟨q, m⟩ with
      | step w' => rw [hv] at h ha; exact ih _ ha h
      | stop w' r => rw [hv] at h ha; simp only [Option.some.injEq] at h; subst h; exact ha

/-- The rule for a property of the state alone, queue aside. -/
theorem worklist_keeps {visit : α → Agenda α τ → Flow (Agenda α τ) ρ} {P : τ → Prop}
    (hstep : ∀ a q m, P m → (visit a ⟨q, m⟩).Holds (fun w => P w.memo) fun w _ => P w.memo)
    {n : Nat} {w : Agenda α τ} {out : Flow (Agenda α τ) ρ} (h : P w.memo)
    (hout : worklist visit n w = some out) : P out.state.memo := by
  have := worklist_holds (fun _ a q m hI => hstep a q m hI) (fun _ _ hI => hI) n [] h hout
  cases out with
  | step w => exact this
  | stop w r => exact this

theorem worklist_mono {visit : α → Agenda α τ → Flow (Agenda α τ) ρ} {n k : Nat}
    {w : Agenda α τ} {out : Flow (Agenda α τ) ρ} (h : worklist visit n w = some out)
    (hk : n ≤ k) : worklist visit k w = some out := by
  induction n generalizing k w with
  | zero => cases h
  | succ n ih =>
    obtain ⟨k, rfl⟩ : ∃ j, k = j + 1 := ⟨k - 1, by omega⟩
    obtain ⟨q, m⟩ := w
    cases q with
    | nil => exact h
    | cons a q =>
      simp only [worklist] at h ⊢
      cases hv : visit a ⟨q, m⟩ with
      | step w' => rw [hv] at h; exact ih h (by omega)
      | stop w' r => rw [hv] at h; exact h

/-- **The loop ends.** If every iteration that goes on lowers `μ`, then fuel
above `μ` of the start is enough. -/
theorem worklist_isSome {visit : α → Agenda α τ → Flow (Agenda α τ) ρ} {μ : Agenda α τ → Nat}
    (hμ : ∀ a q m, (visit a ⟨q, m⟩).Holds (fun w' => μ w' < μ ⟨a :: q, m⟩) fun _ _ => True)
    {n : Nat} {w : Agenda α τ} (h : μ w < n) : (worklist visit n w).isSome := by
  induction n generalizing w with
  | zero => omega
  | succ n ih =>
    obtain ⟨q, m⟩ := w
    cases q with
    | nil => rfl
    | cons a q =>
      have ha := hμ a q m
      simp only [worklist]
      cases hv : visit a ⟨q, m⟩ with
      | step w' => rw [hv] at ha; exact ih (by simp only [Flow.Holds] at ha; omega)
      | stop w' r => rfl

end

end AccessKit.Core
