import Mathlib.Data.List.Basic

/-!
# Taking texts apart

Results:
* `append_sep_inj`: the text up to a separator that does not occur in it.
* `append_run_inj`: the run of a class of characters.
* `decimal_inj`, `not_mem_decimal`: the decimal digits of a number determine it
  and are nothing but digits.
-/
namespace AccessKit.Core

/-- Two texts followed by a separator that neither contains are the same when
the whole is. -/
theorem append_sep_inj {α : Type*} {c : α} {a a' b b' : List α} (ha : c ∉ a) (ha' : c ∉ a')
    (h : a ++ c :: b = a' ++ c :: b') : a = a' ∧ b = b' := by
  induction a generalizing a' with
  | nil =>
    cases a' with
    | nil => exact ⟨rfl, (List.cons.inj h).2⟩
    | cons x a' => exact absurd (List.mem_cons.2 (.inl (List.cons.inj h).1)) ha'
  | cons y a ih =>
    cases a' with
    | nil => exact absurd (List.mem_cons.2 (.inl (List.cons.inj h).1.symm)) ha
    | cons x a' =>
      obtain ⟨rfl, htail⟩ := List.cons.inj h
      obtain ⟨rfl, hb⟩ := ih (fun hc => ha (List.mem_cons_of_mem _ hc))
        (fun hc => ha' (List.mem_cons_of_mem _ hc)) htail
      exact ⟨rfl, hb⟩

/-- Two runs of a class, each followed by a text that starts outside of it, are
the same when the whole is. -/
theorem append_run_inj {α : Type*} {p : α → Prop} {a a' b b' : List α} (ha : ∀ c ∈ a, p c)
    (ha' : ∀ c ∈ a', p c) (hb : ∀ c ∈ b.head?, ¬ p c) (hb' : ∀ c ∈ b'.head?, ¬ p c)
    (h : a ++ b = a' ++ b') : a = a' ∧ b = b' := by
  induction a generalizing a' with
  | nil =>
    cases a' with
    | nil => exact ⟨rfl, h⟩
    | cons x a' =>
      rw [List.nil_append, List.cons_append] at h
      exact absurd (ha' x List.mem_cons_self) (hb x (by simp [h]))
  | cons y a ih =>
    cases a' with
    | nil =>
      rw [List.nil_append, List.cons_append] at h
      exact absurd (ha y List.mem_cons_self) (hb' y (by simp [← h]))
    | cons x a' =>
      obtain ⟨rfl, htail⟩ := List.cons.inj h
      obtain ⟨rfl, hrest⟩ := ih (fun c hc => ha c (List.mem_cons_of_mem _ hc))
        (fun c hc => ha' c (List.mem_cons_of_mem _ hc)) htail
      exact ⟨rfl, hrest⟩

theorem not_mem_decimal {c : Char} (hc : c.isDigit = false) (n : Nat) :
    c ∉ (toString n).toList := by
  intro h
  rw [Nat.toString_eq_repr, Nat.toList_repr] at h
  have := Nat.isDigit_of_mem_toDigits (by omega) (by omega) h
  rw [hc] at this
  cases this

theorem decimal_inj {m n : Nat} (h : (toString m).toList = (toString n).toList) : m = n := by
  rw [Nat.toString_eq_repr, Nat.toString_eq_repr, Nat.toList_repr, Nat.toList_repr] at h
  have hm := Nat.ofDigitChars_toDigits (b := 10) (n := m) (by omega) (by omega)
  rw [h, Nat.ofDigitChars_toDigits (by omega) (by omega)] at hm
  exact hm.symm

end AccessKit.Core
