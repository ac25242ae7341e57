import Mathlib.Data.List.Basic

/-!
# Listings and change logs

A collection is a function from keys to live values. A listing of it may name a key several
times, and deleted keys too; the last entry of a key counts. A change log lists what happened
between two states of the collection. A copy that is kept by merging change logs is itself a
listing of the latest state (`Lists.merge`), as long as the merge lets the last change of a
key win.

Results:
* `latest_append`: the later part of a list wins.
* `Lists.merge`: a listing, with a change log merged in, lists the new state.
-/
namespace AccessKit.Core

section
variable {K V : Type*} [DecidableEq K] (key : V → Option K)

/-- The last entry of a key. -/
def latest (l : List V) (k : K) : Option V := l.reverse.find? fun v => decide (key v = some k)

variable {key} {l l' : List V} {k : K} {v : V}

theorem latest_append : latest key (l ++ l') k = (latest key l' k).or (latest key l k) := by
  rw [latest, List.reverse_append, List.find?_append]
  rfl

theorem latest_concat :
    latest key (l ++ [v]) k = if key v = some k then some v else latest key l k := by
  rw [latest_append]
  by_cases h : key v = some k <;> simp [latest, h]

theorem key_of_latest (h : latest key l k = some v) : key v = some k := by
  simpa using List.find?_some h

theorem mem_of_latest (h : latest key l k = some v) : v ∈ l :=
  List.mem_reverse.1 (List.mem_of_find?_eq_some h)

theorem latest_eq_none : latest key l k = none ↔ ∀ v ∈ l, key v ≠ some k := by
  simp [latest, List.find?_eq_none]

theorem latest_of_unique (hmem : v ∈ l) (hkey : key v = some k)
    (hunique : ∀ w ∈ l, key w = some k → w = v) : latest key l k = some v := by
  cases h : latest key l k with
  | none => exact absurd hkey (latest_eq_none.1 h v hmem)
  | some w => rw [hunique w (mem_of_latest h) (key_of_latest h)]

end

section
variable {K V : Type*} [DecidableEq K] (key : V → Option K) (removed tombstone : V → Prop)

/-- The list is a listing of the state: the last entry of a live key is its value, and a
deleted key is absent or marked. -/
structure Lists (state : K → Option V) (l : List V) : Prop where
  live : ∀ k v, state k = some v → latest key l k = some v
  gone : ∀ k, state k = none → ∀ v, latest key l k = some v → removed v

/-- The list says what became of the state: the last entry of a key that changed is its new
value in full, or a tombstone. -/
structure ListsChanges (before after : K → Option V) (l : List V) : Prop where
  live : ∀ k v, after k = some v →
    latest key l k = some v ∨ latest key l k = none ∧ before k = some v
  gone : ∀ k, after k = none →
    (∃ v, latest key l k = some v ∧ tombstone v) ∨ latest key l k = none ∧ before k = none

variable {key removed tombstone} {state after : K → Option V} {l changes merged : List V}

/-- **Merging a change log.** The last change of a key replaces what was there, and a
tombstone leaves a mark. -/
theorem Lists.merge (h : Lists key removed state l)
    (hchanges : ListsChanges key tombstone state after changes)
    (hlive : ∀ k v, after k = some v → ¬ tombstone v)
    (hkept : ∀ k, latest key changes k = none → latest key merged k = latest key l k)
    (hreplaced : ∀ k v, latest key changes k = some v → ¬ tombstone v →
      latest key merged k = some v)
    (hmarked : ∀ k v, latest key changes k = some v → tombstone v →
      ∀ w, latest key merged k = some w → removed w) :
    Lists key removed after merged where
  live k v hv := by
    rcases hchanges.live k v hv with hchange | ⟨hnone, hbefore⟩
    · exact hreplaced k v hchange (hlive k v hv)
    · rw [hkept k hnone]
      exact h.live k v hbefore
  gone k hk w hw := by
    rcases hchanges.gone k hk with ⟨v, hchange, htombstone⟩ | ⟨hnone, hbefore⟩
    · exact hmarked k v hchange htombstone w hw
    · rw [hkept k hnone] at hw
      exact h.gone k hbefore w hw

end

end AccessKit.Core
