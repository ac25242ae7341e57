import Mathlib.Data.List.Forall2
import Mathlib.Data.List.Perm.Basic

/-!
# Encodings that can be read back

An encoding writes values of `α` as texts over `β`. `ReadsBack` says that a
value can be told from what stands at the front of a text: whatever value with
`P` was written there is related to it by `R`, and the same text follows.
`Stop` is what may follow a value, so that an encoding of unknown length (a run
of digits) has an end.

Results:
* `ReadsBack.of_eq`: equal encodings encode related values.
* `sepBy_readsBack`: a closed list of values that can be read back can be read
  back.
* `exists_map_of_perm`: a permutation of encodings encodes a permutation.
-/
namespace AccessKit.Core

variable {α β : Type*}

/-- What stands before `rest` tells the value up to `R`. -/
def ReadsBack (P : α → Prop) (enc : α → List β) (Stop : List β → Prop) (R : α → α → Prop)
    (a : α) : Prop :=
  ∀ b, P b → ∀ rest rest', Stop rest → Stop rest' → enc a ++ rest = enc b ++ rest' →
    R a b ∧ rest = rest'

theorem ReadsBack.of_eq {P : α → Prop} {enc : α → List β} {Stop : List β → Prop}
    {R : α → α → Prop} {a b : α} (h : ReadsBack P enc Stop R a) (hstop : Stop []) (hb : P b)
    (he : enc a = enc b) : R a b :=
  (h b hb [] [] hstop hstop (by rw [he])).1

/-- The encodings of a list, with a separator between them. -/
def sepBy (sep : β) (enc : α → List β) : List α → List β
  | [] => []
  | [a] => enc a
  | a :: b :: l => enc a ++ sep :: sepBy sep enc (b :: l)

section
variable {P : α → Prop} {enc : α → List β} {Stop : List β → Prop} {R : α → α → Prop}
  {sep close : β}

/-- The first value of a list and what is left to read after it. -/
theorem sepBy_cons (a : α) (l : List α) (rest : List β) :
    sepBy sep enc (a :: l) ++ close :: rest = enc a ++
      match l with
      | [] => close :: rest
      | _ :: _ => sep :: (sepBy sep enc l ++ close :: rest) := by
  cases l with
  | nil => rfl
  | cons b l => simp [sepBy]

/-- **Closed lists can be read back**: no value starts with the closing mark,
and a value may be followed by it and by the separator. -/
theorem sepBy_readsBack {xs : List α} (hne : sep ≠ close)
    (hxs : ∀ a ∈ xs, P a ∧ ReadsBack P enc Stop R a)
    (hsep : ∀ t, Stop (sep :: t)) (hclose : ∀ t, Stop (close :: t))
    (hstart : ∀ a, P a → ∃ c t, enc a = c :: t ∧ c ≠ close) :
    ∀ ys, (∀ b ∈ ys, P b) → ∀ rest rest',
      sepBy sep enc xs ++ close :: rest = sepBy sep enc ys ++ close :: rest' →
      List.Forall₂ R xs ys ∧ rest = rest' := by
  induction xs with
  | nil =>
    intro ys hys rest rest' h
    cases ys with
    | nil => exact ⟨.nil, (List.cons.inj h).2⟩
    | cons b ys =>
      obtain ⟨c, t, hc, hcl⟩ := hstart b (hys b List.mem_cons_self)
      rw [sepBy_cons, hc] at h
      exact absurd (List.cons.inj h).1.symm hcl
  | cons a xs ih =>
    obtain ⟨hpa, hread⟩ := hxs a List.mem_cons_self
    intro ys hys rest rest' h
    cases ys with
    | nil =>
      obtain ⟨c, t, hc, hcl⟩ := hstart a hpa
      rw [sepBy_cons, hc] at h
      exact absurd (List.cons.inj h).1 hcl
    | cons b ys =>
      rw [sepBy_cons, sepBy_cons] at h
      obtain ⟨hab, htail⟩ := hread b (hys b List.mem_cons_self) _ _
        (by cases xs <;> simp [hsep, hclose]) (by cases ys <;> simp [hsep, hclose]) h
      cases xs with
      | nil =>
        cases ys with
        | nil => exact ⟨.cons hab .nil, (List.cons.inj htail).2⟩
        | cons b' ys => exact absurd (List.cons.inj htail).1.symm hne
      | cons a' xs =>
        cases ys with
        | nil => exact absurd (List.cons.inj htail).1 hne
        | cons b' ys =>
          obtain ⟨hrest, heq⟩ := ih (fun a ha => hxs a (List.mem_cons_of_mem _ ha)) (b' :: ys)
            (fun b hb => hys b (List.mem_cons_of_mem _ hb)) rest rest' (List.cons.inj htail).2
          exact ⟨.cons hab hrest, heq⟩

theorem forall₂_exists_right {γ : Type*} {R : α → γ → Prop} {l : List α} {l' : List γ}
    (h : List.Forall₂ R l l') {a : α} (ha : a ∈ l) : ∃ b ∈ l', R a b := by
  induction h with
  | nil => cases ha
  | cons hab _ ih =>
    rcases List.mem_cons.1 ha with rfl | ha
    · exact ⟨_, List.mem_cons_self, hab⟩
    · obtain ⟨b, hb, h⟩ := ih ha
      exact ⟨b, List.mem_cons_of_mem _ hb, h⟩

theorem exists_map_of_perm {γ : Type*} {f : α → γ} {l : List α} {m : List γ}
    (h : m.Perm (l.map f)) : ∃ l' : List α, l'.Perm l ∧ m = l'.map f := by
  have hl : List.Forall₂ (fun c a => c = f a) (l.map f) l := by
    rw [List.forall₂_map_left_iff]
    exact List.forall₂_same.2 fun _ _ => rfl
  obtain ⟨l', hl', hperm⟩ := List.perm_comp_forall₂ h hl
  refine ⟨l', hperm, ?_⟩
  rwa [← List.forall₂_eq_eq_eq, List.forall₂_map_right_iff]

end

end AccessKit.Core
