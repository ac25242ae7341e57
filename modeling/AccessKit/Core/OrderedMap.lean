import AccessKit.Core.Keyed
import Mathlib.Data.List.Basic
import Mathlib.Data.List.Nodup
import Mathlib.Data.List.Perm.Basic

/-!
# Insertion-ordered maps

A finite map that remembers the order in which its keys were first written,
as an association list whose keys are distinct by construction. `set` keeps
the position of a key that is already there and appends a new one; `delete`
drops the key, so that a later `set` moves it to the end.

Results:
* `get?_set`, `get?_delete`, `get?_empty`: the map laws.
* `mem_values`: the values are exactly what `get?` finds.
* `ofList_values`: reading the values out and writing them back under their
  own keys rebuilds the map, order included.
-/
namespace AccessKit.Core

variable {K V W : Type*}

structure OrderedMap (K V : Type*) where
  entries : List (K × V)
  nodup : (entries.map Prod.fst).Nodup

namespace OrderedMap

theorem ext {m n : OrderedMap K V} (h : m.entries = n.entries) : m = n := by
  cases m; cases n; simp only at h; subst h; rfl

def empty : OrderedMap K V := ⟨[], List.nodup_nil⟩

def keys (m : OrderedMap K V) : List K := m.entries.map Prod.fst

def values (m : OrderedMap K V) : List V := m.entries.map Prod.snd

def size (m : OrderedMap K V) : Nat := m.entries.length

section
variable [DecidableEq K]

/-- The value filed under `k` in an association list. -/
def lookupIn (k : K) : List (K × V) → Option V
  | [] => none
  | (k', v) :: l => if k' = k then some v else lookupIn k l

/-- Overwrite in place, or append. -/
def setIn (k : K) (v : V) : List (K × V) → List (K × V)
  | [] => [(k, v)]
  | (k', v') :: l => if k' = k then (k, v) :: l else (k', v') :: setIn k v l

theorem lookupIn_nil (k : K) : lookupIn k ([] : List (K × V)) = none := rfl

theorem lookupIn_cons (k k' : K) (v : V) (l : List (K × V)) :
    lookupIn k ((k', v) :: l) = if k' = k then some v else lookupIn k l := rfl

theorem setIn_nil (k : K) (v : V) : setIn k v [] = [(k, v)] := rfl

theorem setIn_cons (k k' : K) (v v' : V) (l : List (K × V)) :
    setIn k v ((k', v') :: l) =
      if k' = k then (k, v) :: l else (k', v') :: setIn k v l := rfl

def deleteIn (k : K) (l : List (K × V)) : List (K × V) := l.filter fun p => !decide (p.1 = k)

theorem mem_keys_setIn {k a : K} {v : V} {l : List (K × V)} :
    a ∈ (setIn k v l).map Prod.fst ↔ a = k ∨ a ∈ l.map Prod.fst := by
  induction l with
  | nil => simp [setIn_nil]
  | cons p l ih =>
    obtain ⟨k', v'⟩ := p
    by_cases h : k' = k
    · subst h; simp [setIn_cons]
    · simp only [setIn_cons, if_neg h, List.map_cons, List.mem_cons, ih]
      tauto

theorem nodup_setIn {k : K} {v : V} {l : List (K × V)} (h : (l.map Prod.fst).Nodup) :
    ((setIn k v l).map Prod.fst).Nodup := by
  induction l with
  | nil => simp [setIn_nil]
  | cons p l ih =>
    obtain ⟨k', v'⟩ := p
    simp only [List.map_cons, List.nodup_cons] at h
    by_cases hk : k' = k
    · subst hk; simpa [setIn_cons] using h
    · simp only [setIn_cons, if_neg hk, List.map_cons, List.nodup_cons, mem_keys_setIn]
      exact ⟨fun hm => hm.elim hk h.1, ih h.2⟩

theorem nodup_deleteIn {k : K} {l : List (K × V)} (h : (l.map Prod.fst).Nodup) :
    ((deleteIn k l).map Prod.fst).Nodup :=
  (List.Sublist.map Prod.fst List.filter_sublist).nodup h

theorem lookupIn_setIn (k a : K) (v : V) (l : List (K × V)) :
    lookupIn a (setIn k v l) = if k = a then some v else lookupIn a l := by
  induction l with
  | nil => simp [setIn_nil, lookupIn_cons, lookupIn_nil]
  | cons p l ih =>
    obtain ⟨k', v'⟩ := p
    by_cases h : k' = k
    · subst h; by_cases ha : k' = a <;> simp [setIn_cons, lookupIn_cons, ha]
    · by_cases ha : k' = a
      · subst ha; simp [setIn_cons, lookupIn_cons, h, Ne.symm h]
      · simp [setIn_cons, lookupIn_cons, h, ha, ih]

theorem lookupIn_deleteIn (k a : K) (l : List (K × V)) :
    lookupIn a (deleteIn k l) = if k = a then none else lookupIn a l := by
  induction l with
  | nil => simp [deleteIn, lookupIn]
  | cons p l ih =>
    obtain ⟨k', v'⟩ := p
    unfold deleteIn at ih ⊢
    by_cases h : k' = k
    · subst h; by_cases ha : k' = a <;> simp_all [lookupIn_cons]
    · by_cases ha : k' = a
      · subst ha; simp [h, lookupIn_cons, Ne.symm h]
      · simp only [List.filter_cons, h, decide_false, Bool.not_false, if_true, lookupIn_cons,
          if_neg ha, ih]

theorem mem_of_lookupIn {k : K} {v : V} {l : List (K × V)} (h : lookupIn k l = some v) :
    (k, v) ∈ l := by
  induction l with
  | nil => cases h
  | cons p l ih =>
    obtain ⟨k', v'⟩ := p
    simp only [lookupIn_cons] at h
    split at h
    · rename_i hk; cases h; subst hk; exact List.mem_cons_self
    · exact List.mem_cons_of_mem _ (ih h)

theorem lookupIn_of_mem {k : K} {v : V} {l : List (K × V)} (hn : (l.map Prod.fst).Nodup)
    (h : (k, v) ∈ l) : lookupIn k l = some v := by
  induction l with
  | nil => cases h
  | cons p l ih =>
    obtain ⟨k', v'⟩ := p
    simp only [List.map_cons, List.nodup_cons] at hn
    rcases List.mem_cons.1 h with h | h
    · cases h; simp [lookupIn_cons]
    · have hk : k' ≠ k := fun he => hn.1 (he ▸ List.mem_map.2 ⟨(k, v), h, rfl⟩)
      simp [lookupIn_cons, hk, ih hn.2 h]

theorem setIn_setIn (k : K) (v w : V) (l : List (K × V)) :
    setIn k w (setIn k v l) = setIn k w l := by
  induction l with
  | nil => simp [setIn_nil, setIn_cons]
  | cons p l ih =>
    obtain ⟨k', v'⟩ := p
    by_cases h : k' = k
    · simp [setIn_cons, h]
    · simp [setIn_cons, h, ih]

/-! ## The map operations -/

def get? (m : OrderedMap K V) (k : K) : Option V := lookupIn k m.entries

def has (m : OrderedMap K V) (k : K) : Bool := (m.get? k).isSome

def set (m : OrderedMap K V) (k : K) (v : V) : OrderedMap K V :=
  ⟨setIn k v m.entries, nodup_setIn m.nodup⟩

def delete (m : OrderedMap K V) (k : K) : OrderedMap K V :=
  ⟨deleteIn k m.entries, nodup_deleteIn m.nodup⟩

/-- The same keys with other values. -/
def map (f : V → W) (m : OrderedMap K V) : OrderedMap K W :=
  ⟨m.entries.map fun p => (p.1, f p.2), by
    rw [List.map_map]; exact m.nodup⟩

/-- Write every value of a list under the key it carries, in order. -/
def ofList (key : V → K) (l : List V) : OrderedMap K V :=
  l.foldl (fun m v => m.set (key v) v) empty

@[simp] theorem get?_empty (k : K) : (empty : OrderedMap K V).get? k = none := rfl

theorem get?_set (m : OrderedMap K V) (k a : K) (v : V) :
    (m.set k v).get? a = if k = a then some v else m.get? a :=
  lookupIn_setIn k a v m.entries

@[simp] theorem get?_set_self (m : OrderedMap K V) (k : K) (v : V) :
    (m.set k v).get? k = some v := by simp [get?_set]

theorem get?_set_ne (m : OrderedMap K V) {k a : K} (v : V) (h : k ≠ a) :
    (m.set k v).get? a = m.get? a := by simp [get?_set, h]

theorem map_get?_set (m : OrderedMap K V) (f : V → W) (v : V) (k a : K) :
    ((m.set k v).get? a).map f = if k = a then some (f v) else (m.get? a).map f := by
  rw [get?_set]
  split <;> rfl

/-- A map that files its values under their own key still does after a write. -/
theorem get?_set_key {m : OrderedMap K V} {key : V → K} (h : ∀ k v, m.get? k = some v → key v = k)
    (v : V) : ∀ k w, (m.set (key v) v).get? k = some w → key w = k := by
  intro k w hw
  rw [get?_set] at hw
  split at hw
  · next hk =>
    cases hw
    exact hk
  · exact h k w hw

/-- The second of two writes under one key is the one that counts. -/
@[simp] theorem set_set (m : OrderedMap K V) (k : K) (v w : V) :
    (m.set k v).set k w = m.set k w :=
  ext (setIn_setIn k v w m.entries)

theorem get?_delete (m : OrderedMap K V) (k a : K) :
    (m.delete k).get? a = if k = a then none else m.get? a :=
  lookupIn_deleteIn k a m.entries

theorem lookupIn_map (f : V → W) (k : K) (l : List (K × V)) :
    lookupIn k (l.map fun p => (p.1, f p.2)) = (lookupIn k l).map f := by
  induction l with
  | nil => rfl
  | cons p l ih =>
    obtain ⟨k', v⟩ := p
    by_cases h : k' = k
    · simp [lookupIn_cons, h]
    · simp only [List.map_cons, lookupIn_cons, if_neg h, ih]

theorem get?_map (f : V → W) (m : OrderedMap K V) (k : K) :
    (m.map f).get? k = (m.get? k).map f :=
  lookupIn_map f k m.entries

theorem get?_eq_some {m : OrderedMap K V} {k : K} {v : V} :
    m.get? k = some v ↔ (k, v) ∈ m.entries :=
  ⟨mem_of_lookupIn, lookupIn_of_mem m.nodup⟩

theorem mem_values {m : OrderedMap K V} {v : V} : v ∈ m.values ↔ ∃ k, m.get? k = some v := by
  simp only [values, List.mem_map, get?_eq_some]
  constructor
  · rintro ⟨⟨k, v'⟩, hm, rfl⟩; exact ⟨k, hm⟩
  · rintro ⟨k, hm⟩; exact ⟨(k, v), hm, rfl⟩

theorem mem_values_key {m : OrderedMap K V} {key : V → K}
    (h : ∀ k v, m.get? k = some v → key v = k) {v : V} :
    v ∈ m.values ↔ m.get? (key v) = some v := by
  rw [mem_values]
  constructor
  · rintro ⟨k, hk⟩
    rwa [h k v hk]
  · exact fun hv => ⟨_, hv⟩

theorem find?_values {m : OrderedMap K V} {k : K} {v : V} {p : V → Bool} (hget : m.get? k = some v)
    (hp : p v = true) (honly : ∀ a w, m.get? a = some w → p w = true → w = v) :
    m.values.find? p = some v := by
  cases hfind : m.values.find? p with
  | none => exact absurd hp (List.find?_eq_none.1 hfind v (mem_values.2 ⟨k, hget⟩))
  | some found =>
    obtain ⟨a, ha⟩ := mem_values.1 (List.mem_of_find?_eq_some hfind)
    rw [honly a found ha (List.find?_some hfind)]

theorem mem_keys {m : OrderedMap K V} {k : K} : k ∈ m.keys ↔ ∃ v, m.get? k = some v := by
  simp only [keys, List.mem_map, get?_eq_some]
  constructor
  · rintro ⟨⟨k', v⟩, hm, rfl⟩; exact ⟨v, hm⟩
  · rintro ⟨v, hm⟩; exact ⟨(k, v), hm, rfl⟩

theorem get?_none_iff {m : OrderedMap K V} {k : K} : m.get? k = none ↔ k ∉ m.keys := by
  rw [mem_keys, Option.eq_none_iff_forall_ne_some]; simp

theorem setIn_of_not_mem {k : K} {v : V} {l : List (K × V)} (h : k ∉ l.map Prod.fst) :
    setIn k v l = l ++ [(k, v)] := by
  induction l with
  | nil => rfl
  | cons p l ih =>
    obtain ⟨k', v'⟩ := p
    simp only [List.map_cons, List.mem_cons, not_or] at h
    simp [setIn_cons, Ne.symm h.1, ih h.2]

theorem entries_set_new (m : OrderedMap K V) {k : K} (v : V) (h : m.get? k = none) :
    (m.set k v).entries = m.entries ++ [(k, v)] :=
  setIn_of_not_mem (get?_none_iff.1 h)

theorem values_set_new (m : OrderedMap K V) {k : K} (v : V) (h : m.get? k = none) :
    (m.set k v).values = m.values ++ [v] := by
  simp [values, entries_set_new m v h]

/-- Where values are filed under their own keys, a write is one to the list of the values. -/
theorem values_set_keyed {key : V → K} {m : OrderedMap K V}
    (hkey : ∀ k v, m.get? k = some v → key v = k) (v : V) :
    (m.set (key v) v).values = upsertBy key m.values v := by
  have hentries : ∀ p ∈ m.entries, key p.2 = p.1 := fun p hp => hkey _ _ (get?_eq_some.2 hp)
  show (setIn (key v) v m.entries).map Prod.snd = upsertBy key (m.entries.map Prod.snd) v
  generalize m.entries = l at hentries
  induction l with
  | nil => rfl
  | cons p l ih =>
    obtain ⟨k', v'⟩ := p
    obtain ⟨hp, hl⟩ := List.forall_mem_cons.1 hentries
    rw [List.map_cons, upsertBy_cons, setIn_cons, show key v' = k' from hp]
    split
    · rfl
    · rw [List.map_cons, ih hl]

theorem findBy_values {key : V → K} {m : OrderedMap K V}
    (hkey : ∀ k v, m.get? k = some v → key v = k) (k : K) : findBy key m.values k = m.get? k := by
  cases hget : m.get? k with
  | none =>
    refine findBy_eq_none.2 fun v hv hk => ?_
    obtain ⟨a, ha⟩ := mem_values.1 hv
    rw [← hkey a v ha, hk, hget] at ha
    cases ha
  | some v =>
    refine find?_values hget (by simp [hkey k v hget]) fun a w ha hw => ?_
    have hk : key w = k := of_decide_eq_true hw
    rw [← hkey a w ha, hk, hget] at ha
    exact (Option.some.inj ha).symm

/-- Overwriting a key replaces its value and nothing else. -/
theorem values_set_perm (m : OrderedMap K V) {k : K} {v : V} (w : V) (h : m.get? k = some v) :
    List.Perm (w :: m.values) (v :: (m.set k w).values) := by
  obtain ⟨l, hn⟩ := m
  simp only [get?, values, set] at h ⊢
  clear hn
  induction l with
  | nil => cases h
  | cons p l ih =>
    obtain ⟨k', v'⟩ := p
    simp only [lookupIn_cons] at h
    split at h
    · rename_i hk
      cases h; subst hk
      simp only [setIn_cons, if_true, List.map_cons]
      exact List.Perm.swap _ _ _
    · rename_i hk
      simp only [setIn_cons, if_neg hk, List.map_cons]
      calc w :: v' :: l.map Prod.snd
          |>.Perm (v' :: w :: l.map Prod.snd) := List.Perm.swap _ _ _
        _ |>.Perm (v' :: v :: (setIn k w l).map Prod.snd) := List.Perm.cons _ (ih h)
        _ |>.Perm (v :: v' :: (setIn k w l).map Prod.snd) := List.Perm.swap _ _ _

theorem foldl_set_entries {key : V → K} (l : List V) (m : OrderedMap K V)
    (hn : (m.keys ++ l.map key).Nodup) :
    (l.foldl (fun m v => m.set (key v) v) m).entries =
      m.entries ++ l.map fun v => (key v, v) := by
  induction l generalizing m with
  | nil => simp
  | cons v l ih =>
    have hv : key v ∉ m.keys := by
      intro h
      rw [List.map_cons, List.nodup_append] at hn
      exact hn.2.2 _ h _ List.mem_cons_self rfl
    have he := entries_set_new m v (get?_none_iff.2 hv)
    rw [List.foldl_cons, ih _ ?_, he]
    · simp
    · simp only [keys, he, List.map_append, List.map_cons, List.map_nil, List.append_assoc]
      simpa [keys] using hn

/-- **Rebuild.** Reading the values out and writing them back under their own
keys gives the same map, in the same order. -/
theorem ofList_values (m : OrderedMap K V) (key : V → K)
    (hk : ∀ k v, m.get? k = some v → key v = k) : ofList key m.values = m := by
  have hmap : ∀ l : List (K × V), (∀ p ∈ l, key p.2 = p.1) →
      (l.map Prod.snd).map (fun v => (key v, v)) = l := by
    intro l hl
    rw [List.map_map]
    conv_rhs => rw [← List.map_id l]
    exact List.map_congr_left fun p hp => by simp [hl p hp]
  have hm : ∀ p ∈ m.entries, key p.2 = p.1 := fun p hp => hk _ _ (get?_eq_some.2 hp)
  apply ext
  rw [ofList, foldl_set_entries]
  · simp only [empty, List.nil_append, values]; exact hmap _ hm
  · have : m.values.map key = m.keys := by
      simp only [values, keys, List.map_map]
      exact List.map_congr_left fun p hp => by simp [hm p hp]
    simpa [keys, empty, this] using m.nodup

theorem get?_foldl_set {key : V → K} (l : List V) (m : OrderedMap K V) (k : K) :
    (l.foldl (fun m v => m.set (key v) v) m).get? k =
      ((l.reverse.find? fun v => key v = k).orElse fun _ => m.get? k) := by
  induction l generalizing m with
  | nil => simp
  | cons v l ih =>
    rw [List.foldl_cons, ih, List.reverse_cons, List.find?_append, get?_set]
    cases List.find? (fun v => decide (key v = k)) l.reverse with
    | some w => simp
    | none => by_cases h : key v = k <;> simp [h]

theorem get?_ofList {key : V → K} (l : List V) (k : K) :
    (ofList key l).get? k = l.reverse.find? fun v => key v = k := by
  rw [ofList, get?_foldl_set]; simp

theorem get?_ofList_key {key : V → K} {l : List V} :
    ∀ k v, (ofList key l).get? k = some v → key v = k := by
  intro k v h
  rw [get?_ofList] at h
  simpa using List.find?_some h

theorem values_ofList {key : V → K} {l : List V} (h : (l.map key).Nodup) :
    (ofList key l).values = l := by
  rw [values, ofList, foldl_set_entries _ _ (by simpa [keys, empty] using h)]
  simp [empty, Function.comp_def]

theorem nodup_values_key {m : OrderedMap K V} {key : V → K}
    (hkey : ∀ k v, m.get? k = some v → key v = k) : (m.values.map key).Nodup := by
  have hkeys : m.values.map key = m.keys := by
    simp only [values, keys, List.map_map]
    exact List.map_congr_left fun p hp => hkey _ _ (get?_eq_some.2 hp)
  rw [hkeys]
  exact m.nodup

/-- Values that are filed under their keys are found there, in whatever order they stand. -/
theorem get?_eq_of_perm {m n : OrderedMap K V} {key : V → K}
    (hm : ∀ k v, m.get? k = some v → key v = k) (hn : ∀ k v, n.get? k = some v → key v = k)
    (hperm : m.values.Perm n.values) (k : K) : m.get? k = n.get? k := by
  have himp {m n : OrderedMap K V} (hm : ∀ k v, m.get? k = some v → key v = k)
      (hn : ∀ k v, n.get? k = some v → key v = k) (hperm : m.values.Perm n.values) {v : V}
      (hv : m.get? k = some v) : n.get? k = some v := by
    have hmem := (mem_values_key hn).1 (hperm.mem_iff.1 (mem_values.2 ⟨k, hv⟩))
    rwa [hm k v hv] at hmem
  exact Option.ext fun v => ⟨himp hm hn hperm, himp hn hm hperm.symm⟩

theorem setIn_of_lookupIn {k : K} {v : V} {l : List (K × V)} (h : lookupIn k l = some v) :
    setIn k v l = l := by
  induction l with
  | nil => cases h
  | cons p l ih =>
    obtain ⟨k', v'⟩ := p
    rw [lookupIn_cons] at h
    split at h
    · rename_i hk
      obtain rfl := Option.some.inj h
      simp [setIn_cons, hk]
    · rename_i hk
      simp [setIn_cons, hk, ih h]

theorem set_of_get? {m : OrderedMap K V} {k : K} {v : V} (h : m.get? k = some v) :
    m.set k v = m :=
  ext (setIn_of_lookupIn h)

end

end OrderedMap

end AccessKit.Core
