import AccessKit.L4Engine.Caveats
import Mathlib.Data.Set.Finite.Basic
import Mathlib.Tactic.Linarith

/-!
# The bounds a context constraint declares

A context constraint declares a type and bounds for the values of its key:
`min` and `max` of a number, the `maxLength` of a string, and the values that
are allowed when there are any. `KeepsBounds` says that a value keeps them.

The evaluator compares the value of the request with the operand of a
condition and never looks at the constraint
(packages/core/src/engine.ts:501-518, 566-586). What it accepts is therefore
within the bounds only if the operand sees to that: `OperandKeepsBounds`.

Results:
* `within_of_between`: between two values within the bounds lie values within
  the bounds, unless an allowed list says otherwise.
* `exists_not_mem`: a list of allowed values does not hold every number of an
  infinite family.
* `accepts_within_iff`: a condition accepts values within the bounds only,
  exactly when its operand is within them in the sense of its operator.
-/
namespace AccessKit.L1.JsNumber

/-! ## Comparing numbers -/

variable {a b c : JsNumber}

theorem le_refl (h : a ≠ .nan) : a.le a = true := by
  cases a with
  | nan => exact absurd rfl h
  | inf neg => cases neg <;> rfl
  | fin q => simp [le]

theorem ne_nan_of_le (h : a.le b = true) : a ≠ .nan ∧ b ≠ .nan := by
  cases a <;> cases b <;> simp_all [le]

theorem bot_le (h : a ≠ .nan) : (JsNumber.inf true).le a = true := by
  cases a with
  | nan => exact absurd rfl h
  | inf neg => rfl
  | fin q => rfl

theorem le_top (h : a ≠ .nan) : a.le (.inf false) = true := by
  cases a with
  | nan => exact absurd rfl h
  | inf neg => cases neg <;> rfl
  | fin q => rfl

theorem eq_bot_of_le (h : a.le (.inf true) = true) : a = .inf true := by
  cases a with
  | inf neg => cases neg <;> first | rfl | cases h
  | _ => cases h

theorem eq_top_of_le (h : (JsNumber.inf false).le a = true) : a = .inf false := by
  cases a with
  | inf neg => cases neg <;> first | rfl | cases h
  | _ => cases h

theorem le_trans (h : a.le b = true) (h' : b.le c = true) : a.le c = true := by
  obtain ⟨ha, -⟩ := ne_nan_of_le h
  obtain ⟨-, hc⟩ := ne_nan_of_le h'
  cases b with
  | nan => exact absurd rfl (ne_nan_of_le h).2
  | inf neg =>
    cases neg with
    | true => exact eq_bot_of_le h ▸ bot_le hc
    | false => exact eq_top_of_le h' ▸ le_top ha
  | fin q =>
    cases a with
    | fin p =>
      cases c with
      | fin r =>
        simp only [le, decide_eq_true_eq] at h h' ⊢
        exact h.trans h'
      | inf neg => cases neg <;> first | rfl | cases h'
      | nan => exact absurd rfl hc
    | inf neg => cases neg <;> first | exact bot_le hc | cases h
    | nan => exact absurd rfl ha

end AccessKit.L1.JsNumber

namespace AccessKit.L4
open AccessKit.Core AccessKit.L1 AccessKit.L3

/-! ## Bounds -/

/-- The value keeps what the constraint of its key declares. An empty list of
allowed values declares nothing, as in `contextConstraintIsBounded`. -/
structure KeepsBounds (H : Host) (k : PolicyModelContextConstraint) (v : JsValue) : Prop where
  type : valueMatchesType H v k.type = true
  min : ∀ lo, k.min = some lo → ∀ n, v = .num n → lo.le n = true
  max : ∀ hi, k.max = some hi → ∀ n, v = .num n → n.le hi = true
  maxLength : ∀ m, k.maxLength = some m → ∀ s, v = .str s →
    (JsNumber.fin (utf16 s).length).le m = true
  allowed : k.allowedValues.getD [] ≠ [] → ∃ a ∈ k.allowedValues.getD [], a.strictEq v = true

/-- The operand itself rules out what the constraint rules out. An operand
that is `NaN` accepts nothing; an order bounds one side only. -/
def OperandKeepsBounds (H : Host) (k : PolicyModelContextConstraint)
    (condition : PolicyModelCaveatCondition) : Prop :=
  match condition.operator with
  | .equals => condition.value ≠ .num .nan → KeepsBounds H k condition.value
  | .oneOf => ∀ candidates, condition.value = .arr candidates →
      ∀ v ∈ candidates, v ≠ .num .nan → KeepsBounds H k v
  | .lessThanOrEqual => ∀ n, condition.value = .num n → n ≠ .nan →
      KeepsBounds H k (.num n) ∧ KeepsBounds H k (.num (.inf true)) ∧
        (k.allowedValues.getD [] = [] ∨ n = .inf true)
  | .greaterThanOrEqual => ∀ n, condition.value = .num n → n ≠ .nan →
      KeepsBounds H k (.num n) ∧ KeepsBounds H k (.num (.inf false)) ∧
        (k.allowedValues.getD [] = [] ∨ n = .inf false)
  | .before => ∀ s, condition.value = .str s → k.allowedValues.getD [] ≠ [] →
      ∀ t, gtMs (dateParse H s) (dateParse H t) = true → .str t ∈ k.allowedValues.getD []
  | .after => ∀ s, condition.value = .str s → k.allowedValues.getD [] ≠ [] →
      ∀ t, gtMs (dateParse H t) (dateParse H s) = true → .str t ∈ k.allowedValues.getD []

section
variable {H : Host} {k : PolicyModelContextConstraint}

/-- On values of the types a context can have, `===` is equality, `NaN` apart. -/
theorem strictEq_iff {v w : JsValue} {t : PolicyModelContextType}
    (h : valueMatchesType H w t = true) :
    v.strictEq w = true ↔ v = w ∧ w ≠ .num .nan := by
  cases w with
  | num n =>
    cases v with
    | num m => cases m <;> cases n <;> simp [JsValue.strictEq, JsNumber.strictEq]
    | _ => simp [JsValue.strictEq]
  | str s => cases v <;> simp [JsValue.strictEq]
  | bool b => cases v <;> simp [JsValue.strictEq]
  | _ => cases t <;> simp [valueMatchesType, JsValue.typeof] at h

theorem within_of_between {lo n hi : JsNumber} (hlo : KeepsBounds H k (.num lo))
    (hhi : KeepsBounds H k (.num hi)) (h : lo.le n = true) (h' : n.le hi = true)
    (hallowed : k.allowedValues.getD [] = [] ∨ n = lo ∨ n = hi) : KeepsBounds H k (.num n) := by
  rcases hallowed with hnone | rfl | rfl
  · refine ⟨hlo.type, fun l hl m hm => ?_, fun u hu m hm => ?_, fun _ _ s hs => (by cases hs),
      fun hne => absurd hnone hne⟩
    · cases hm
      exact JsNumber.le_trans (hlo.min l hl lo rfl) h
    · cases hm
      exact JsNumber.le_trans h' (hhi.max u hu hi rfl)
  · exact hlo
  · exact hhi

/-- A list does not hold every number of an infinite family. -/
theorem exists_not_mem (l : List JsValue) {f : Nat → Rat} (hf : Function.Injective f) :
    ∃ i, JsValue.num (.fin (f i)) ∉ l := by
  by_contra hall
  push Not at hall
  have hinj : Function.Injective fun i => JsValue.num (.fin (f i)) := by
    intro i j hij
    simp only [JsValue.num.injEq, JsNumber.fin.injEq] at hij
    exact hf hij
  exact Set.infinite_of_injective_forall_mem hinj hall l.finite_toSet

/-- When every number of an infinite family is within the bounds, there is no
list of allowed values. -/
theorem allowed_eq_nil {f : Nat → Rat} (hf : Function.Injective f)
    (h : ∀ i, KeepsBounds H k (.num (.fin (f i)))) : k.allowedValues.getD [] = [] := by
  by_contra hne
  obtain ⟨i, hi⟩ := exists_not_mem (k.allowedValues.getD []) hf
  obtain ⟨a, ha, heq⟩ := (h i).allowed hne
  obtain ⟨rfl, -⟩ := (strictEq_iff (h i).type).1 heq
  exact hi ha

/-- What the numbers up to an operand have to be for all of them to be within
the bounds. -/
theorem upTo_within_iff {n : JsNumber} (hn : n ≠ .nan) :
    (∀ m : JsNumber, m.le n = true → KeepsBounds H k (.num m)) ↔
      KeepsBounds H k (.num n) ∧ KeepsBounds H k (.num (.inf true)) ∧
        (k.allowedValues.getD [] = [] ∨ n = .inf true) := by
  constructor
  · intro h
    refine ⟨h n (JsNumber.le_refl hn), h _ (JsNumber.bot_le hn), ?_⟩
    cases n with
    | nan => exact absurd rfl hn
    | inf neg =>
      cases neg with
      | true => exact .inr rfl
      | false =>
        exact .inl (allowed_eq_nil (f := fun i => (i : Rat)) Nat.cast_injective fun i => h _ rfl)
    | fin q =>
      refine .inl (allowed_eq_nil (f := fun i => q - i) (fun i j hij => ?_) fun i => h _ ?_)
      · simpa using hij
      · have : (0 : Rat) ≤ i := Nat.cast_nonneg i
        simp only [JsNumber.le, decide_eq_true_eq]
        linarith
  · rintro ⟨hwithin, hbot, hallowed⟩ m hm
    refine within_of_between hbot hwithin (JsNumber.bot_le (JsNumber.ne_nan_of_le hm).1) hm ?_
    rcases hallowed with hnone | rfl
    · exact .inl hnone
    · exact .inr (.inr (JsNumber.eq_bot_of_le hm))

theorem from_within_iff {n : JsNumber} (hn : n ≠ .nan) :
    (∀ m : JsNumber, n.le m = true → KeepsBounds H k (.num m)) ↔
      KeepsBounds H k (.num n) ∧ KeepsBounds H k (.num (.inf false)) ∧
        (k.allowedValues.getD [] = [] ∨ n = .inf false) := by
  constructor
  · intro h
    refine ⟨h n (JsNumber.le_refl hn), h _ (JsNumber.le_top hn), ?_⟩
    cases n with
    | nan => exact absurd rfl hn
    | inf neg =>
      cases neg with
      | false => exact .inr rfl
      | true =>
        exact .inl (allowed_eq_nil (f := fun i => (i : Rat)) Nat.cast_injective fun i => h _ rfl)
    | fin q =>
      refine .inl (allowed_eq_nil (f := fun i => q + i) (fun i j hij => ?_) fun i => h _ ?_)
      · simpa using hij
      · have : (0 : Rat) ≤ i := Nat.cast_nonneg i
        simp only [JsNumber.le, decide_eq_true_eq]
        linarith
  · rintro ⟨hwithin, htop, hallowed⟩ m hm
    refine within_of_between hwithin htop hm (JsNumber.le_top (JsNumber.ne_nan_of_le hm).2) ?_
    rcases hallowed with hnone | rfl
    · exact .inl hnone
    · exact .inr (.inl (JsNumber.eq_top_of_le hm))

/-- Dates have no bounds but the allowed list. -/
theorem dates_within_iff {p : String → Prop} (hp : ∀ t, p t → (dateParse H t).isSome = true)
    (htype : k.type = .datetime) (hmax : k.maxLength = none) :
    (∀ t, p t → KeepsBounds H k (.str t)) ↔
      (k.allowedValues.getD [] ≠ [] → ∀ t, p t → .str t ∈ k.allowedValues.getD []) := by
  have hmatches : ∀ t, p t → valueMatchesType H (.str t) k.type = true := by
    intro t ht
    rw [htype]
    exact hp t ht
  constructor
  · intro h hne t ht
    obtain ⟨a, ha, heq⟩ := (h t ht).allowed hne
    obtain ⟨rfl, -⟩ := (strictEq_iff (hmatches t ht)).1 heq
    exact ha
  · intro h t ht
    refine ⟨hmatches t ht, fun _ _ n hn => (by cases hn), fun _ _ n hn => (by cases hn),
      fun m hm => (by rw [hmax] at hm; cases hm), fun hne => ⟨.str t, h hne t ht, ?_⟩⟩
    exact (strictEq_iff (hmatches t ht)).2 ⟨rfl, by simp⟩

theorem maxLength_of_datetime (hmax : ∀ m, k.maxLength = some m → k.type = .string)
    (h : k.type = .datetime) : k.maxLength = none := by
  cases hm : k.maxLength with
  | none => rfl
  | some m => exact absurd ((hmax m hm).symm.trans h) (by decide)

theorem isSome_of_gtMs {a b : Option Int} (h : gtMs a b = true) :
    a.isSome = true ∧ b.isSome = true := by
  cases a <;> cases b <;> simp_all [gtMs]

/-- The condition accepts the value: it has the type and compares well. -/
def Accepts (H : Host) (condition : PolicyModelCaveatCondition) (v : JsValue) : Prop :=
  valueMatchesContextType H v condition.type = true ∧ compareCondition H v condition = true

/-- **What a condition accepts** is within the bounds exactly when its operand
is. -/
theorem accepts_within_iff {condition : PolicyModelCaveatCondition}
    (htype : k.type = condition.type) (hmax : ∀ m, k.maxLength = some m → k.type = .string)
    (hoperand : OperandHandled H condition) :
    (∀ v, Accepts H condition v → KeepsBounds H k v) ↔ OperandKeepsBounds H k condition := by
  obtain ⟨source, key, type, operator, value⟩ := condition
  obtain rfl : k.type = type := htype
  simp only [Accepts, valueMatchesContextType]
  unfold OperandHandled at hoperand
  unfold OperandKeepsBounds compareCondition
  cases operator with
  | equals =>
    constructor
    · intro h hne
      exact h value ⟨hoperand, (strictEq_iff hoperand).2 ⟨rfl, hne⟩⟩
    · rintro h v ⟨-, heq⟩
      obtain ⟨rfl, hne⟩ := (strictEq_iff hoperand).1 heq
      exact h hne
  | oneOf =>
    dsimp only at hoperand ⊢
    obtain ⟨candidates, rfl, -, hcandidates⟩ := hoperand
    constructor
    · intro h items hitems v hv hne
      cases hitems
      refine h v ⟨hcandidates v hv, List.any_eq_true.2 ⟨v, hv, ?_⟩⟩
      exact (strictEq_iff (hcandidates v hv)).2 ⟨rfl, hne⟩
    · rintro h v ⟨hv, hany⟩
      obtain ⟨w, hw, heq⟩ := List.any_eq_true.1 hany
      obtain ⟨rfl, hne⟩ := (strictEq_iff hv).1 heq
      exact h candidates rfl w hw hne
  | lessThanOrEqual =>
    dsimp only at hoperand ⊢
    obtain ⟨hnum, n, rfl⟩ := hoperand
    constructor
    · rintro h m hm hn
      cases hm
      exact (upTo_within_iff hn).1 fun m hm => h (.num m) ⟨by rw [hnum]; rfl, hm⟩
    · rintro h v ⟨-, hle⟩
      cases v with
      | num m =>
        have hn : n ≠ .nan := (JsNumber.ne_nan_of_le hle).2
        exact (upTo_within_iff hn).2 (h n rfl hn) m hle
      | _ => cases hle
  | greaterThanOrEqual =>
    dsimp only at hoperand ⊢
    obtain ⟨hnum, n, rfl⟩ := hoperand
    constructor
    · rintro h m hm hn
      cases hm
      exact (from_within_iff hn).1 fun m hm => h (.num m) ⟨by rw [hnum]; rfl, hm⟩
    · rintro h v ⟨-, hle⟩
      cases v with
      | num m =>
        have hn : n ≠ .nan := (JsNumber.ne_nan_of_le hle).1
        exact (from_within_iff hn).2 (h n rfl hn) m hle
      | _ => cases hle
  | before =>
    dsimp only at hoperand ⊢
    obtain ⟨hdate, s, ms, rfl, -⟩ := hoperand
    have hdates := dates_within_iff (H := H) (k := k)
      (p := fun t => gtMs (dateParse H s) (dateParse H t) = true)
      (fun t ht => (isSome_of_gtMs ht).2) hdate (maxLength_of_datetime hmax hdate)
    constructor
    · intro h t ht
      cases ht
      exact hdates.1 fun t ht => h (.str t) ⟨by rw [hdate]; exact (isSome_of_gtMs ht).2, ht⟩
    · rintro h v ⟨-, hlt⟩
      cases v with
      | str t => exact hdates.2 (h s rfl) t hlt
      | _ => cases hlt
  | after =>
    dsimp only at hoperand ⊢
    obtain ⟨hdate, s, ms, rfl, -⟩ := hoperand
    have hdates := dates_within_iff (H := H) (k := k)
      (p := fun t => gtMs (dateParse H t) (dateParse H s) = true)
      (fun t ht => (isSome_of_gtMs ht).1) hdate (maxLength_of_datetime hmax hdate)
    constructor
    · intro h t ht
      cases ht
      exact hdates.1 fun t ht => h (.str t) ⟨by rw [hdate]; exact (isSome_of_gtMs ht).1, ht⟩
    · rintro h v ⟨-, hlt⟩
      cases v with
      | str t => exact hdates.2 (h s rfl) t hlt
      | _ => cases hlt

end

end AccessKit.L4
