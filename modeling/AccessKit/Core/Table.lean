import AccessKit.Core.OrderedMap

/-!
# Tables whose rows have owners

A table under a primary key of which the first part says whose row it is, and the
statements that stay within the rows of one owner.

Results:
* `Table.rowsOf_insert`, `Table.rowsOf_deleteOf`: what a statement does to the rows of its
  owner.
* `Table.get?_rowsOf`: a row is found among those of its owner.
* `Table.get?_hydrated`: the rows read back into a map.
-/
namespace AccessKit.Core

variable {P K V W : Type*}

abbrev Table (P K V : Type*) := OrderedMap (P × K) V

namespace Table
open OrderedMap

section
variable [DecidableEq P]

/-- `DELETE … WHERE` the owner is `p`. -/
def deleteOf (p : P) (t : Table P K V) : Table P K V :=
  ⟨t.entries.filter fun entry => entry.1.1 ≠ p,
    t.nodup.sublist (List.filter_sublist.map Prod.fst)⟩

/-- `SELECT … WHERE` the owner is `p`, in the order in which the rows were written. -/
def rowsOf (p : P) (t : Table P K V) : List (K × V) :=
  (t.entries.filter fun entry => entry.1.1 = p).map fun entry => (entry.1.2, entry.2)

theorem rowsOf_deleteOf (p : P) (t : Table P K V) : rowsOf p (deleteOf p t) = [] := by
  simp [rowsOf, deleteOf]

theorem nodup_rowsOf (p : P) (t : Table P K V) : ((rowsOf p t).map Prod.fst).Nodup := by
  have hnodup := t.nodup
  unfold rowsOf
  generalize t.entries = entries at hnodup ⊢
  induction entries with
  | nil => exact List.nodup_nil
  | cons entry entries ih =>
    obtain ⟨⟨p', k'⟩, v⟩ := entry
    obtain ⟨hfresh, hrest⟩ := List.nodup_cons.1 hnodup
    by_cases hp : p' = p
    · subst hp
      simp only [List.filter_cons, decide_true, if_true, List.map_cons, List.nodup_cons]
      refine ⟨fun hmem => hfresh ?_, ih hrest⟩
      simp only [List.mem_map, List.mem_filter, decide_eq_true_eq] at hmem
      obtain ⟨-, ⟨⟨⟨q, l⟩, w⟩, ⟨hentry, rfl⟩, rfl⟩, rfl⟩ := hmem
      exact List.mem_map.2 ⟨_, hentry, rfl⟩
    · simpa [hp] using ih hrest

end

section
variable [DecidableEq P] [DecidableEq K]

/-- `INSERT`: refused when the primary key is taken. -/
def insert (p : P) (k : K) (v : V) (t : Table P K V) : Option (Table P K V) :=
  if t.has (p, k) then none else some (t.set (p, k) v)

/-- The rows of an owner as a map. -/
def hydrated (f : V → W) (rows : List (K × V)) : OrderedMap K W :=
  rows.foldl (fun m row => m.set row.1 (f row.2)) empty

theorem insert_eq_some {p : P} {k : K} {v : V} {t t' : Table P K V} :
    insert p k v t = some t' ↔ t.get? (p, k) = none ∧ t.set (p, k) v = t' := by
  simp only [insert, has, Option.isSome_iff_ne_none, ite_not, ne_eq]
  split <;> simp_all

theorem rowsOf_insert {p : P} {k : K} {v : V} {t t' : Table P K V}
    (h : insert p k v t = some t') : rowsOf p t' = rowsOf p t ++ [(k, v)] := by
  obtain ⟨hnew, rfl⟩ := insert_eq_some.1 h
  simp [rowsOf, entries_set_new t v hnew]

theorem get?_rowsOf (p : P) (k : K) (t : Table P K V) :
    lookupIn k (rowsOf p t) = t.get? (p, k) := by
  unfold rowsOf OrderedMap.get?
  induction t.entries with
  | nil => rfl
  | cons entry entries ih =>
    obtain ⟨⟨p', k'⟩, v⟩ := entry
    by_cases hp : p' = p
    · subst hp
      by_cases hk : k' = k
      · simp [lookupIn, hk]
      · simpa [lookupIn, hk] using ih
    · simpa [lookupIn, hp] using ih

theorem get?_hydrated (f : V → W) {rows : List (K × V)} (hnodup : (rows.map Prod.fst).Nodup)
    (k : K) : (hydrated f rows).get? k = (lookupIn k rows).map f := by
  suffices h : ∀ m : OrderedMap K W,
      (rows.foldl (fun m row => m.set row.1 (f row.2)) m).get? k =
        ((lookupIn k rows).map f).or (m.get? k) by
    simpa [hydrated] using h empty
  induction rows with
  | nil => simp [lookupIn]
  | cons row rows ih =>
    obtain ⟨k', v⟩ := row
    obtain ⟨hfresh, hrest⟩ := List.nodup_cons.1 hnodup
    intro m
    rw [List.foldl_cons, ih hrest, get?_set, lookupIn]
    by_cases hk : k' = k
    · subst hk
      have hnone : lookupIn k' rows = none := by
        rw [Option.eq_none_iff_forall_ne_some]
        intro w hw
        exact hfresh (List.mem_map.2 ⟨_, mem_of_lookupIn hw, rfl⟩)
      simp [hnone]
    · simp [hk]

end

end Table

end AccessKit.Core
