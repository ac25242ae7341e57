import Mathlib.Data.List.Basic

/-!
# Regular expressions with anchors

Search in a text, for expressions over classes of characters with the anchors
`\b` and `^`. `ends` lists the places where a match that begins at a place can
end, so that a search asks only whether there is one.

Results:
* `ends_suffix`: a match reads forward.
* `Needs.ends`: a match reads a character of every class the expression needs.
* `test_eq_false`: a text without a class that is needed has no match.
-/
namespace AccessKit.Core

/-- A place in a text: the character before it and what comes. -/
structure Place where
  before : Option Char
  rest : List Char

inductive Regex
  | eps
  | one (p : Char → Bool)
  | seq (r s : Regex)
  | alt (r s : Regex)
  | star (r : Regex)
  | edge (p : Char → Bool)
  | start

namespace Regex

/-- Any number of turns of `f`, `n` at most. -/
def closure (f : Place → List Place) : Nat → Place → List Place
  | 0, x => [x]
  | n + 1, x => x :: (f x).flatMap (closure f n)

/-- Where a match that begins at a place can end. A turn of a star that reads
nothing leads nowhere new, so that there are no more turns than characters. -/
def ends : Regex → Place → List Place
  | .eps, x => [x]
  | .one p, x =>
    match x.rest with
    | [] => []
    | c :: rest => if p c then [⟨some c, rest⟩] else []
  | .seq r s, x => (ends r x).flatMap (ends s)
  | .alt r s, x => ends r x ++ ends s x
  | .star r, x => closure (ends r) x.rest.length x
  | .edge p, x => if x.before.any p != x.rest.head?.any p then [x] else []
  | .start, x => if x.before.isNone then [x] else []

/-- A match begins here or later. -/
def search (r : Regex) : Option Char → List Char → Bool
  | before, [] => !(ends r ⟨before, []⟩).isEmpty
  | before, c :: rest => !(ends r ⟨before, c :: rest⟩).isEmpty || search r (some c) rest

/-- `r.test(s)` -/
def test (r : Regex) (s : List Char) : Bool := search r none s

/-! ## Abbreviations -/

def opt (r : Regex) : Regex := .alt r .eps

def plus (r : Regex) : Regex := .seq r (.star r)

/-- `r{n}` -/
def exactly (r : Regex) : Nat → Regex
  | 0 => .eps
  | n + 1 => .seq r (exactly r n)

/-- `r{n,}` -/
def atLeast (n : Nat) (r : Regex) : Regex := .seq (exactly r n) (.star r)

/-- A word, where a letter of it is read as a class. -/
def word (cls : Char → Char → Bool) : List Char → Regex
  | [] => .eps
  | c :: w => .seq (.one (cls c)) (word cls w)

/-- `r₁|r₂|…` -/
def anyOf : List Regex → Regex
  | [] => .one fun _ => false
  | r :: rs => .alt r (anyOf rs)

def concat : List Regex → Regex
  | [] => .eps
  | r :: rs => .seq r (concat rs)

/-! ## What a match reads -/

theorem closure_suffix {f : Place → List Place}
    (hf : ∀ x, ∀ y ∈ f x, y.rest <:+ x.rest) (n : Nat) :
    ∀ x, ∀ y ∈ closure f n x, y.rest <:+ x.rest := by
  induction n with
  | zero =>
    intro x y hy
    obtain rfl := List.mem_singleton.1 hy
    exact List.suffix_refl _
  | succ n ih =>
    intro x y hy
    rcases List.mem_cons.1 hy with rfl | hy
    · exact List.suffix_refl _
    · obtain ⟨z, hz, hy⟩ := List.mem_flatMap.1 hy
      exact (ih z y hy).trans (hf x z hz)

/-- A match reads forward. -/
theorem ends_suffix (r : Regex) : ∀ x, ∀ y ∈ ends r x, y.rest <:+ x.rest := by
  induction r with
  | eps =>
    intro x y hy
    obtain rfl := List.mem_singleton.1 hy
    exact List.suffix_refl _
  | one p =>
    intro x y hy
    unfold ends at hy
    split at hy
    · cases hy
    · rename_i c rest hrest
      split at hy
      · rw [List.mem_singleton.1 hy, hrest]
        exact List.suffix_cons c rest
      · cases hy
  | seq r s ihr ihs =>
    intro x y hy
    obtain ⟨z, hz, hy⟩ := List.mem_flatMap.1 hy
    exact (ihs z y hy).trans (ihr x z hz)
  | alt r s ihr ihs =>
    intro x y hy
    rcases List.mem_append.1 hy with hy | hy
    · exact ihr x y hy
    · exact ihs x y hy
  | star r ih => exact fun x => closure_suffix ih _ x
  | edge p =>
    intro x y hy
    unfold ends at hy
    split at hy
    · obtain rfl := List.mem_singleton.1 hy
      exact List.suffix_refl _
    · cases hy
  | start =>
    intro x y hy
    unfold ends at hy
    split at hy
    · obtain rfl := List.mem_singleton.1 hy
      exact List.suffix_refl _
    · cases hy

/-- Every match reads a character of the class. -/
def Needs (p : Char → Prop) : Regex → Prop
  | .one q => ∀ c, q c = true → p c
  | .seq r s => Needs p r ∨ Needs p s
  | .alt r s => Needs p r ∧ Needs p s
  | _ => False

section
variable {p : Char → Prop}

theorem Needs.ends {r : Regex} (h : Needs p r) :
    ∀ x, ∀ y ∈ r.ends x, ∃ c ∈ x.rest, p c := by
  induction r with
  | one q =>
    intro x y hy
    unfold Regex.ends at hy
    split at hy
    · cases hy
    · rename_i c rest hrest
      split at hy
      · exact ⟨c, by rw [hrest]; exact List.mem_cons_self, h c ‹_›⟩
      · cases hy
  | seq r s ihr ihs =>
    intro x y hy
    obtain ⟨z, hz, hy⟩ := List.mem_flatMap.1 hy
    rcases h with h | h
    · exact ihr h x z hz
    · obtain ⟨c, hc, hp⟩ := ihs h z y hy
      exact ⟨c, (ends_suffix r x z hz).subset hc, hp⟩
  | alt r s ihr ihs =>
    intro x y hy
    rcases List.mem_append.1 hy with hy | hy
    · exact ihr h.1 x y hy
    · exact ihs h.2 x y hy
  | _ => exact h.elim

/-- **A text without a class that is needed has no match.** -/
theorem test_eq_false {r : Regex} (h : Needs p r) {s : List Char} (hs : ∀ c ∈ s, ¬ p c) :
    test r s = false := by
  have hnone : ∀ x : Place, (∀ c ∈ x.rest, ¬ p c) → (r.ends x).isEmpty = true := by
    intro x hx
    rw [List.isEmpty_iff]
    by_contra hne
    obtain ⟨y, hy⟩ := List.exists_mem_of_ne_nil _ hne
    obtain ⟨c, hc, hp⟩ := h.ends x y hy
    exact hx c hc hp
  have hsearch : ∀ (s : List Char) (before : Option Char), (∀ c ∈ s, ¬ p c) →
      search r before s = false := by
    intro s
    induction s with
    | nil =>
      intro before hs
      simp [search, hnone ⟨before, []⟩ hs]
    | cons c s ih =>
      intro before hs
      simp [search, hnone ⟨before, c :: s⟩ hs,
        ih (some c) (fun d hd => hs d (List.mem_cons_of_mem _ hd))]
  exact hsearch s none hs

theorem needs_word {cls : Char → Char → Bool} {w : List Char} {d : Char} (hd : d ∈ w)
    (h : ∀ c, cls d c = true → p c) : Needs p (word cls w) := by
  induction w with
  | nil => cases hd
  | cons c w ih =>
    rcases List.mem_cons.1 hd with rfl | hd
    · exact .inl h
    · exact .inr (ih hd)

theorem needs_anyOf {rs : List Regex} (h : ∀ r ∈ rs, Needs p r) : Needs p (anyOf rs) := by
  induction rs with
  | nil => exact fun _ hc => nomatch hc
  | cons r rs ih =>
    exact ⟨h r List.mem_cons_self, ih fun r hr => h r (List.mem_cons_of_mem _ hr)⟩

theorem needs_concat {rs : List Regex} {r : Regex} (hr : r ∈ rs) (h : Needs p r) :
    Needs p (concat rs) := by
  induction rs with
  | nil => cases hr
  | cons r' rs ih =>
    rcases List.mem_cons.1 hr with rfl | hr
    · exact .inl h
    · exact .inr (ih hr)

theorem needs_one {q : Char → Bool} (h : ∀ c, q c = true → p c) : Needs p (.one q) := h

theorem needs_plus {r : Regex} (h : Needs p r) : Needs p (plus r) := .inl h

end

-- the patterns are large, and what they need is read off these lemmas only
attribute [irreducible] Needs

end Regex

end AccessKit.Core
