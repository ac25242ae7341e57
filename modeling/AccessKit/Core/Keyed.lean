import Mathlib.Data.List.Nodup

/-!
# Lists of records under a key

A list is searched from its start. `upsertBy` puts a record in the place of the first one
that has its key, or at the end.

Results:
* `findBy_upsertBy`: a search after a write.
* `upsertBy_of_nodup`: the write, where a list has every key once.
-/
namespace AccessKit.Core

variable {α κ : Type*} [DecidableEq κ] (key : α → κ)

/-- The first record of a key. -/
def findBy (items : List α) (k : κ) : Option α := items.find? fun item => key item = k

/-- In place of the first record of its key, or after the others. -/
def upsertBy : List α → α → List α
  | [], item => [item]
  | entry :: items, item =>
    if key entry = key item then item :: items else entry :: upsertBy items item

section
variable {key}

@[simp] theorem findBy_nil (k : κ) : findBy key [] k = none := rfl

theorem findBy_cons (item : α) (items : List α) (k : κ) :
    findBy key (item :: items) k = if key item = k then some item else findBy key items k := by
  by_cases h : key item = k
  · rw [if_pos h]
    exact List.find?_cons_of_pos (decide_eq_true h)
  · rw [if_neg h]
    exact List.find?_cons_of_neg (by simpa using h)

theorem findBy_append (items items' : List α) (k : κ) :
    findBy key (items ++ items') k = (findBy key items k).or (findBy key items' k) :=
  List.find?_append

theorem findBy_map {f : α → α} (hf : ∀ a, key (f a) = key a) (items : List α) (k : κ) :
    findBy key (items.map f) k = (findBy key items k).map f := by
  change (items.map f).find? _ = (items.find? _).map f
  rw [List.find?_map]
  congr 2
  funext a
  exact congrArg (fun k' => decide (k' = k)) (hf a)

theorem findBy_key {items : List α} {k : κ} {item : α} (h : findBy key items k = some item) :
    key item = k := by
  simpa using List.find?_some h

theorem mem_of_findBy {items : List α} {k : κ} {item : α} (h : findBy key items k = some item) :
    item ∈ items :=
  List.mem_of_find?_eq_some h

theorem findBy_eq_none {items : List α} {k : κ} :
    findBy key items k = none ↔ ∀ item ∈ items, key item ≠ k :=
  List.find?_eq_none.trans (by simp)

theorem upsertBy_cons (entry : α) (items : List α) (item : α) :
    upsertBy key (entry :: items) item =
      if key entry = key item then item :: items else entry :: upsertBy key items item :=
  rfl

/-- Where a list has every key once, a search finds whatever has the key. -/
theorem findBy_of_mem {items : List α} (hkeys : (items.map key).Nodup) {item : α}
    (h : item ∈ items) : findBy key items (key item) = some item := by
  induction items with
  | nil => cases h
  | cons entry items ih =>
    rw [List.map_cons, List.nodup_cons] at hkeys
    rw [findBy_cons]
    rcases List.mem_cons.1 h with rfl | hmem
    · rw [if_pos rfl]
    · have hne : key entry ≠ key item := fun he => hkeys.1 (he ▸ List.mem_map_of_mem hmem)
      rw [if_neg hne, ih hkeys.2 hmem]

/-- **A search after a write** finds the new record, or what it found before. -/
theorem findBy_upsertBy (items : List α) (item : α) (k : κ) :
    findBy key (upsertBy key items item) k =
      if key item = k then some item else findBy key items k := by
  induction items with
  | nil => exact findBy_cons item [] k
  | cons entry items ih =>
    rw [upsertBy_cons]
    by_cases hentry : key entry = key item
    · rw [if_pos hentry, findBy_cons, findBy_cons, hentry]
      split <;> rfl
    · rw [if_neg hentry, findBy_cons, findBy_cons, ih]
      by_cases hk : key item = k
      · have hne : key entry ≠ k := fun he => hentry (he.trans hk.symm)
        simp [hk, hne]
      · simp [hk]

theorem upsertBy_found {items : List α} {item : α} (h : findBy key items (key item) = some item) :
    upsertBy key items item = items := by
  induction items with
  | nil => cases h
  | cons entry items ih =>
    rw [findBy_cons] at h
    rw [upsertBy_cons]
    by_cases hentry : key entry = key item
    · rw [if_pos hentry] at h ⊢
      rw [Option.some.inj h]
    · rw [if_neg hentry] at h ⊢
      rw [ih h]

variable (key) in
theorem map_upsertBy_of_key (f : α → α) (hf : ∀ a, key (f a) = key a) (items : List α)
    (item : α) : (upsertBy key items item).map f = upsertBy key (items.map f) (f item) := by
  induction items with
  | nil => rfl
  | cons entry items ih =>
    rw [upsertBy_cons, List.map_cons, upsertBy_cons, hf, hf]
    split
    · rfl
    · rw [List.map_cons, ih]

/-- Where a list has every key once, a write replaces what has the key of the record. -/
theorem upsertBy_of_nodup {items : List α} (hkeys : (items.map key).Nodup) {item : α}
    (h : ∃ entry ∈ items, key entry = key item) :
    upsertBy key items item =
      items.map fun entry => if key entry = key item then item else entry := by
  induction items with
  | nil =>
    obtain ⟨_, hentry, -⟩ := h
    cases hentry
  | cons entry items ih =>
    rw [List.map_cons, List.nodup_cons] at hkeys
    by_cases hentry : key entry = key item
    · have hrest :
          items.map (fun entry => if key entry = key item then item else entry) = items := by
        conv_rhs => rw [← List.map_id items]
        refine List.map_congr_left fun other hother => ?_
        rw [if_neg fun he => hkeys.1 ?_, id]
        rw [hentry, ← he]
        exact List.mem_map_of_mem hother
      rw [upsertBy_cons, if_pos hentry, List.map_cons, if_pos hentry, hrest]
    · have htail : ∃ entry ∈ items, key entry = key item := by
        obtain ⟨other, hother, he⟩ := h
        rcases List.mem_cons.1 hother with rfl | hmem
        · exact absurd he hentry
        · exact ⟨other, hmem, he⟩
      rw [upsertBy_cons, if_neg hentry, List.map_cons, if_neg hentry, ih hkeys.2 htail]

theorem mem_upsertBy {items : List α} {item entry : α} (h : entry ∈ upsertBy key items item) :
    entry = item ∨ entry ∈ items := by
  induction items with
  | nil => exact .inl (List.mem_singleton.1 h)
  | cons other items ih =>
    rw [upsertBy_cons] at h
    split at h
    · exact (List.mem_cons.1 h).imp_right (List.mem_cons_of_mem _)
    · rcases List.mem_cons.1 h with rfl | h
      · exact .inr List.mem_cons_self
      · exact (ih h).imp_right (List.mem_cons_of_mem _)

theorem mem_upsertBy_of_ne {items : List α} {item entry : α} (h : entry ∈ items)
    (hkey : key entry ≠ key item) : entry ∈ upsertBy key items item := by
  induction items with
  | nil => cases h
  | cons other items ih =>
    rw [upsertBy_cons]
    rcases List.mem_cons.1 h with rfl | h
    · rw [if_neg hkey]
      exact List.mem_cons_self
    · split
      · exact List.mem_cons_of_mem _ h
      · exact List.mem_cons_of_mem _ (ih h)

theorem map_upsertBy {β : Type*} {f : α → β} {items : List α} {item : α}
    (hkeys : (items.map key).Nodup) {entry : α} (hentry : entry ∈ items)
    (hkey : key entry = key item) (hf : f item = f entry) :
    (upsertBy key items item).map f = items.map f := by
  rw [upsertBy_of_nodup hkeys ⟨entry, hentry, hkey⟩, List.map_map]
  refine List.map_congr_left fun other hother => ?_
  show f (if key other = key item then item else other) = f other
  split
  · next he =>
    have hsame : other = entry := List.inj_on_of_nodup_map hkeys hother hentry (he.trans hkey.symm)
    rw [hsame, hf]
  · rfl

end

end AccessKit.Core
