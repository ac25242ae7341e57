import Mathlib.Data.List.Basic

/-!
# Calls that interleave

Calls that share a state and give way to each other where they wait. `start` is what a
call does until it waits for the first time, `resume` what it does when it is answered,
until it waits again or is over. Such a part runs without interruption, and which call
runs next is open, as far as `mayStart` and `mayAnswer` leave it open.

Results:
* `reached_invariant`: what every part of a call keeps holds in every run.
* `alone_invariant`: an invariant for the runs in which no call starts while another one
  waits, so that a part finds the state that the part before it left.
-/
namespace AccessKit.Core

variable {S C P A : Type*}

structure Calls (S C P A : Type*) where
  start : C → S → S × P
  resume : C → A → P → S → S × P
  ended : P → Bool

namespace Calls

section
variable (calls : Calls S C P A)

/-- A call among these waits. A call comes with where it is, once it has started. -/
def Waits (slots : List (C × Option P)) : Prop :=
  ∃ c p, (c, some p) ∈ slots ∧ calls.ended p = false

/-- What calls that have not started can reach from a state. -/
inductive Reached (mayStart : List (C × Option P) → Prop) (mayAnswer : P → A → Prop) (s₀ : S)
    (cs : List C) : S → List (C × Option P) → Prop
  | initial : Reached mayStart mayAnswer s₀ cs s₀ (cs.map (·, none))
  | started (before after : List (C × Option P)) {s : S} {c : C}
      (h : Reached mayStart mayAnswer s₀ cs s (before ++ (c, none) :: after))
      (hstart : mayStart (before ++ (c, none) :: after)) :
      Reached mayStart mayAnswer s₀ cs (calls.start c s).1
        (before ++ (c, some (calls.start c s).2) :: after)
  | resumed (before after : List (C × Option P)) {s : S} {c : C} {p : P} {a : A}
      (h : Reached mayStart mayAnswer s₀ cs s (before ++ (c, some p) :: after))
      (hwaits : calls.ended p = false) (hanswer : mayAnswer p a) :
      Reached mayStart mayAnswer s₀ cs (calls.resume c a p s).1
        (before ++ (c, some (calls.resume c a p s).2) :: after)

end

section
variable {calls : Calls S C P A} {mayStart : List (C × Option P) → Prop} {mayAnswer : P → A → Prop}
  {s₀ s : S} {cs : List C} {slots : List (C × Option P)}

theorem forall_mem_slot {Q : C × Option P → Prop} {before after : List (C × Option P)}
    {slot : C × Option P} :
    (∀ x ∈ before ++ slot :: after, Q x) ↔ (∀ x ∈ before, Q x) ∧ Q slot ∧ ∀ x ∈ after, Q x := by
  simp [or_imp, forall_and]

theorem reached_calls (h : calls.Reached mayStart mayAnswer s₀ cs s slots) :
    ∀ slot ∈ slots, slot.1 ∈ cs := by
  induction h with
  | initial =>
    intro slot hslot
    obtain ⟨c, hc, rfl⟩ := List.mem_map.1 hslot
    exact hc
  | started _ _ _ _ ih =>
    rw [forall_mem_slot] at ih ⊢
    exact ih
  | resumed _ _ _ _ _ ih =>
    rw [forall_mem_slot] at ih ⊢
    exact ih

/-- **An invariant** of the state and of each call that has started. -/
theorem reached_invariant {I : S → Prop} {J : C → P → Prop}
    (hstart : ∀ c ∈ cs, ∀ s, I s → I (calls.start c s).1 ∧ J c (calls.start c s).2)
    (hresume : ∀ c ∈ cs, ∀ a p s, I s → J c p →
      I (calls.resume c a p s).1 ∧ J c (calls.resume c a p s).2)
    (hs : I s₀) (h : calls.Reached mayStart mayAnswer s₀ cs s slots) :
    I s ∧ ∀ slot ∈ slots, ∀ p, slot.2 = some p → J slot.1 p := by
  induction h with
  | initial =>
    refine ⟨hs, fun slot hslot p hp => ?_⟩
    obtain ⟨c, -, rfl⟩ := List.mem_map.1 hslot
    cases hp
  | started before after hreached _ ih =>
    rw [forall_mem_slot] at ih ⊢
    obtain ⟨hI, hbefore, -, hafter⟩ := ih
    have hc := (forall_mem_slot.1 (reached_calls hreached)).2.1
    obtain ⟨hI', hJ⟩ := hstart _ hc _ hI
    exact ⟨hI', hbefore, fun p hp => Option.some.inj hp ▸ hJ, hafter⟩
  | resumed before after hreached _ _ ih =>
    rw [forall_mem_slot] at ih ⊢
    obtain ⟨hI, hbefore, hold, hafter⟩ := ih
    have hc := (forall_mem_slot.1 (reached_calls hreached)).2.1
    obtain ⟨hI', hJ⟩ := hresume _ hc _ _ _ hI (hold _ rfl)
    exact ⟨hI', hbefore, fun p hp => Option.some.inj hp ▸ hJ, hafter⟩

/-! ## Calls that do not overlap -/

/-- The only call that waits has one place. -/
theorem waiting_unique {before after before' after' : List (C × Option P)} {c c' : C} {p p' : P}
    (h : before ++ (c, some p) :: after = before' ++ (c', some p') :: after')
    (hbefore : ¬ calls.Waits before) (hafter : ¬ calls.Waits after) (hp' : calls.ended p' = false) :
    before = before' ∧ (c = c' ∧ p = p') ∧ after = after' := by
  induction before generalizing before' with
  | nil =>
    cases before' with
    | nil => simpa using h
    | cons slot before' =>
      simp only [List.nil_append, List.cons_append, List.cons.injEq] at h
      exact absurd ⟨c', p', by simp [h.2], hp'⟩ hafter
  | cons slot before ih =>
    cases before' with
    | nil =>
      simp only [List.nil_append, List.cons_append, List.cons.injEq] at h
      exact absurd ⟨c', p', by simp [h.1], hp'⟩ hbefore
    | cons slot' before' =>
      simp only [List.cons_append, List.cons.injEq] at h
      have hbefore' : ¬ calls.Waits before :=
        fun ⟨c, p, hmem, hover⟩ => hbefore ⟨c, p, List.mem_cons_of_mem _ hmem, hover⟩
      obtain ⟨hsame, hcall, hrest⟩ := ih h.2 hbefore'
      exact ⟨by rw [h.1, hsame], hcall, hrest⟩

theorem not_waits_iff : ¬ calls.Waits slots ↔
    ∀ slot ∈ slots, ∀ p, slot.2 = some p → calls.ended p = true := by
  constructor
  · intro h slot hslot p hp
    by_contra hover
    exact h ⟨slot.1, p, by rw [← hp]; exact hslot, Bool.eq_false_iff.2 hover⟩
  · intro h ⟨c, p, hmem, hover⟩
    rw [h (c, some p) hmem p rfl] at hover
    cases hover

theorem not_waits_slot {before after : List (C × Option P)} {c : C} {o : Option P} :
    ¬ calls.Waits (before ++ (c, o) :: after) ↔
      (¬ calls.Waits before ∧ ¬ calls.Waits after) ∧ ∀ p, o = some p → calls.ended p = true := by
  rw [not_waits_iff, not_waits_iff, not_waits_iff, forall_mem_slot]
  tauto

/-- What is known of a run in which no call starts while another one waits: `K` of the
calls that are over, and `I` of the state, or `J` of the state and of the call that
waits. -/
structure Alone (calls : Calls S C P A) (I : S → Prop) (J K : S → C → P → Prop) (s : S)
    (slots : List (C × Option P)) : Prop where
  ended : ∀ slot ∈ slots, ∀ p, slot.2 = some p → calls.ended p = true → K s slot.1 p
  state : (¬ calls.Waits slots ∧ I s) ∨ ∃ before c p after, slots = before ++ (c, some p) :: after ∧
    calls.ended p = false ∧ ¬ calls.Waits before ∧ ¬ calls.Waits after ∧ J s c p

/-- What a part of a call has to establish. -/
structure Establishes (calls : Calls S C P A) (I : S → Prop) (J K : S → C → P → Prop) (s : S)
    (c : C) (s' : S) (p : P) : Prop where
  keeps : ∀ c' q, K s c' q → K s' c' q
  ended : calls.ended p = true → I s' ∧ K s' c p
  waits : calls.ended p = false → J s' c p

theorem Establishes.alone {I : S → Prop} {J K : S → C → P → Prop} {s s' : S} {c : C} {p : P}
    {before after : List (C × Option P)} {o : Option P}
    (h : Establishes calls I J K s c s' p)
    (hover : ∀ slot ∈ before ++ (c, o) :: after, ∀ p, slot.2 = some p → calls.ended p = true →
      K s slot.1 p)
    (hbefore : ¬ calls.Waits before) (hafter : ¬ calls.Waits after) :
    Alone calls I J K s' (before ++ (c, some p) :: after) := by
  rw [forall_mem_slot] at hover
  obtain ⟨hob, -, hoa⟩ := hover
  constructor
  · rw [forall_mem_slot]
    exact ⟨fun slot hslot q hq hqo => h.keeps _ _ (hob slot hslot q hq hqo),
      fun q hq hqo => by cases hq; exact (h.ended hqo).2,
      fun slot hslot q hq hqo => h.keeps _ _ (hoa slot hslot q hq hqo)⟩
  · cases hp : calls.ended p with
    | true =>
      refine .inl ⟨not_waits_slot.2 ⟨⟨hbefore, hafter⟩, fun q hq => ?_⟩, (h.ended hp).1⟩
      cases hq
      exact hp
    | false => exact .inr ⟨before, c, p, after, rfl, hp, hbefore, hafter, h.waits hp⟩

/-- **Calls that do not overlap**: each part finds what the part before it left. -/
theorem alone_invariant {I : S → Prop} {J K : S → C → P → Prop}
    (hstart : ∀ c ∈ cs, ∀ s, I s →
      Establishes calls I J K s c (calls.start c s).1 (calls.start c s).2)
    (hresume : ∀ c ∈ cs, ∀ a p s, calls.ended p = false → mayAnswer p a → J s c p →
      Establishes calls I J K s c (calls.resume c a p s).1 (calls.resume c a p s).2)
    (hs : I s₀)
    (h : calls.Reached (fun slots => ¬ calls.Waits slots) mayAnswer s₀ cs s slots) :
    Alone calls I J K s slots := by
  induction h with
  | initial =>
    refine ⟨fun slot hslot p hp => ?_, .inl ⟨fun ⟨c, p, hmem, _⟩ => ?_, hs⟩⟩
    · obtain ⟨c, -, rfl⟩ := List.mem_map.1 hslot
      cases hp
    · obtain ⟨_, -, hc⟩ := List.mem_map.1 hmem
      cases hc
  | started before after hreached hquiet ih =>
    have hc := (forall_mem_slot.1 (reached_calls hreached)).2.1
    obtain ⟨⟨hbefore, hafter⟩, -⟩ := not_waits_slot.1 hquiet
    rcases ih.state with ⟨-, hI⟩ | ⟨b, c, p, a, hslots, hp, -⟩
    · exact (hstart _ hc _ hI).alone ih.ended hbefore hafter
    · exact absurd ⟨c, p, by simp [hslots], hp⟩ hquiet
  | @resumed before after s c p a hreached hwaits hanswer ih =>
    have hc := (forall_mem_slot.1 (reached_calls hreached)).2.1
    rcases ih.state with ⟨hquiet, -⟩ | ⟨b, c', p', a', hslots, hp, hb, ha, hJ⟩
    · exact absurd ⟨c, p, by simp, hwaits⟩ hquiet
    · obtain ⟨rfl, ⟨rfl, rfl⟩, rfl⟩ := waiting_unique hslots.symm hb ha hwaits
      exact (hresume _ hc _ _ _ hwaits hanswer hJ).alone ih.ended hb ha

end

end Calls

end AccessKit.Core
