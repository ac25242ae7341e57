import Mathlib.Data.List.Forall2
import Mathlib.Data.List.Induction

/-!
# Hash chains

A log whose entries each name the hash of the entry before. `hash` is what an
entry is named by, `prev` what it says was before it.

Results:
* `linked_append`, `tip_append`: a chain is extended at its tip.
* `Linked.eq_of_tip`: the hash of the last entry commits to the whole log.
* `Linked.prev_ne_tip`: no entry names the last one.
* `linked_congr`: entries that are hashed alike and name the same make the same
  chain.
-/
namespace AccessKit.Core

variable {α η : Type*} (hash : α → η) (prev : α → Option η)

/-- The hash of the last entry, if there is one before or in the log. -/
def tip : Option η → List α → Option η
  | p, [] => p
  | _, a :: l => tip (some (hash a)) l

/-- Every entry names the one before it, the first one `p`. -/
def Linked : Option η → List α → Prop
  | _, [] => True
  | p, a :: l => prev a = p ∧ Linked (some (hash a)) l

section
variable {hash} {prev} {p : Option η} {l m : List α} {a : α}

@[simp] theorem tip_nil : tip hash p [] = p := rfl

@[simp] theorem tip_cons : tip hash p (a :: l) = tip hash (some (hash a)) l := rfl

theorem tip_append : tip hash p (l ++ m) = tip hash (tip hash p l) m := by
  induction l generalizing p with
  | nil => rfl
  | cons a l ih => exact ih

@[simp] theorem tip_concat : tip hash p (l ++ [a]) = some (hash a) := by rw [tip_append]; rfl

theorem tip_eq_getLast : tip hash none l = l.getLast?.map hash := by
  rcases List.eq_nil_or_concat' l with rfl | ⟨l, a, rfl⟩
  · rfl
  · simp

theorem linked_append :
    Linked hash prev p (l ++ m) ↔ Linked hash prev p l ∧ Linked hash prev (tip hash p l) m := by
  induction l generalizing p with
  | nil => simp [Linked]
  | cons a l ih => simp only [List.cons_append, Linked, ih, tip_cons, and_assoc]

theorem linked_concat :
    Linked hash prev p (l ++ [a]) ↔ Linked hash prev p l ∧ prev a = tip hash p l := by
  rw [linked_append]
  simp [Linked]

theorem linked_congr (h : List.Forall₂ (fun a b => hash a = hash b ∧ prev a = prev b) l m) :
    (Linked hash prev p l ↔ Linked hash prev p m) ∧ tip hash p l = tip hash p m := by
  induction h generalizing p with
  | nil => exact ⟨.rfl, rfl⟩
  | cons hab _ ih =>
    obtain ⟨hhash, hprev⟩ := hab
    simp only [Linked, tip_cons, hhash, hprev]
    exact ⟨and_congr_right fun _ => ih.1, ih.2⟩

end

/-- **The tip commits to the log**: when the hash of an entry determines it up to
`R`, and with it what it names, two chains with one tip are the same up to `R`. -/
theorem Linked.eq_of_tip {P : α → Prop} {R : α → α → Prop}
    (hhash : ∀ a b, P a → P b → hash a = hash b → R a b ∧ prev a = prev b)
    {l m : List α} (hl : Linked hash prev none l) (hm : Linked hash prev none m)
    (hpl : ∀ a ∈ l, P a) (hpm : ∀ a ∈ m, P a) (htip : tip hash none l = tip hash none m) :
    List.Forall₂ R l m := by
  induction l using List.reverseRecOn generalizing m with
  | nil =>
    rcases List.eq_nil_or_concat' m with rfl | ⟨m, b, rfl⟩
    · exact .nil
    · simp at htip
  | append_singleton l a ih =>
    rcases List.eq_nil_or_concat' m with rfl | ⟨m, b, rfl⟩
    · simp at htip
    obtain ⟨hl, ha⟩ := linked_concat.1 hl
    obtain ⟨hm, hb⟩ := linked_concat.1 hm
    simp only [tip_concat, Option.some.injEq] at htip
    obtain ⟨hab, hprev⟩ := hhash a b (hpl a (by simp)) (hpm b (by simp)) htip
    have htips : tip hash none l = tip hash none m := by rw [← ha, ← hb, hprev]
    exact List.rel_append (ih hl hm (fun x hx => hpl x (by simp [hx]))
      (fun x hx => hpm x (by simp [hx])) htips) (.cons hab .nil)

/-- No entry of a chain names its last one. -/
theorem Linked.prev_ne_tip {P : α → Prop} {R : α → α → Prop}
    (hhash : ∀ a b, P a → P b → hash a = hash b → R a b ∧ prev a = prev b)
    {l : List α} (hl : Linked hash prev none l) (hpl : ∀ a ∈ l, P a) {a : α} (ha : a ∈ l) :
    prev a ≠ tip hash none l := by
  intro htip
  obtain ⟨before, after, hsplit⟩ := List.append_of_mem ha
  have hparts := hl
  rw [hsplit] at hparts
  obtain ⟨hbefore, hprev, -⟩ := linked_append.1 hparts
  rw [hprev] at htip
  -- what stands before the entry would be the whole log
  have hsame := Linked.eq_of_tip hash prev hhash hbefore hl
    (fun x hx => hpl x (hsplit ▸ List.mem_append_left _ hx)) hpl htip
  have hlength := hsame.length_eq
  rw [hsplit] at hlength
  simp at hlength

end AccessKit.Core
