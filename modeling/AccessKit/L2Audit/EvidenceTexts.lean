import AccessKit.L2Audit.EvidenceVerified
import Mathlib.Data.List.Dedup

/-!
# The texts that the verifier compares

packages/core/src/evidence-integrity.ts:484-502 and 345-354: two values are compared
as the texts of all their keys, and two arrays as the texts of what is sorted. An
object that collects keys by assignment does not get one that is named `__proto__`.

Results:
* `stableComparable_iff`: equal texts are the same JSON without `__proto__`.
* `sameItems_of_sorted`, `sortItems_strings`: and sorted texts the same items.
-/
namespace AccessKit.L2.Evidence
open AccessKit.Core AccessKit.L1
open AccessKit.L2.Audit (bind_ok)

/-! ## Texts that are compared -/

section
variable {H : Host}

theorem pairwise_keyList (l : List String) :
    (l.mergeSort stringLe).Pairwise fun a b => stringLe a b = true :=
  have htrans : ∀ a b c, stringLe a b = true → stringLe b c = true → stringLe a c = true :=
    fun _ _ _ => lexLe_trans
  have htotal : ∀ a b, (stringLe a b || stringLe b a) = true := fun a b => by
    rw [Bool.or_eq_true]
    exact lexLe_total (utf16 a) (utf16 b)
  List.pairwise_mergeSort htrans htotal l

/-- Without what is named `__proto__`, values are compared as they are hashed. -/
theorem stableComparable_eq {v : JsValue} (hv : v ≠ .undefined → IsJson v) :
    stableComparable H v = stableStringify H (withoutProto v) := by
  by_cases hu : v = .undefined
  · rw [hu]
    rfl
  · refine stringifyListed_eq (pairwise_keyList _) ?_ ?_ (hv hu) fun k hk hne => ?_
    · exact (List.mergeSort_perm _ _).nodup_iff.2 ((List.nodup_dedup _).filter _)
    · simp
    · rw [List.mem_mergeSort]
      simpa using ⟨hk, hne⟩

theorem stableStringify_iff (hprint : PrintsNumbers H) {v w : JsValue}
    (hv : v ≠ .undefined → IsJson v) (hw : w ≠ .undefined → IsJson w) :
    stableStringify H v = stableStringify H w ↔ SameJson v w := by
  by_cases hu : v = .undefined
  · subst hu
    rw [stableStringify_eq_none.2 rfl, eq_comm, stableStringify_eq_none]
    exact ⟨fun h => h ▸ .refl _, fun h => h.undefined_left⟩
  · by_cases hu' : w = .undefined
    · subst hu'
      rw [stableStringify_eq_none.2 rfl, stableStringify_eq_none]
      exact ⟨fun h => h ▸ .refl _, fun h => h.symm.undefined_left⟩
    · exact ⟨sameJson_of_text hprint (hv hu) (hw hu'), stableStringify_congr (hv hu) (hw hu')⟩

theorem withoutProto_eq_undefined {v : JsValue} : withoutProto v = .undefined ↔ v = .undefined := by
  cases v <;> simp [withoutProto]

theorem stableComparable_iff (hprint : PrintsNumbers H) {v w : JsValue}
    (hv : v ≠ .undefined → IsJson v) (hw : w ≠ .undefined → IsJson w) :
    stableComparable H v = stableComparable H w ↔ SameJson (withoutProto v) (withoutProto w) := by
  rw [stableComparable_eq hv, stableComparable_eq hw]
  refine stableStringify_iff hprint (fun h => isJson_withoutProto (hv ?_))
    (fun h => isJson_withoutProto (hw ?_))
  · exact fun hu => h (withoutProto_eq_undefined.2 hu)
  · exact fun hu => h (withoutProto_eq_undefined.2 hu)

end

/-! ## Sorted items -/

/-- The same items in another order, up to what is named `__proto__`. -/
def SameItems (v w : JsValue) : Prop :=
  ∃ items items' ordered, v.spreadItems = .ok items ∧ w.spreadItems = .ok items' ∧
    ordered.Perm items' ∧
    List.Forall₂ (fun a b => SameJson (withoutProto a) (withoutProto b)) items ordered

theorem isJson_spreadItems {v : JsValue} {items : List JsValue} (hv : v ≠ .undefined → IsJson v)
    (h : v.spreadItems = .ok items) : ∀ a ∈ items, IsJson a := by
  cases v with
  | arr l =>
    cases h
    cases hv nofun with
    | arr hall => exact hall
  | str s =>
    cases h
    intro a ha
    obtain ⟨c, -, rfl⟩ := List.mem_map.1 ha
    exact .str _
  | _ => cases h

/-- Sorted alike, the items are the same. -/
theorem sameItems_of_sorted {H : Host} (hprint : PrintsNumbers H) {v w : JsValue}
    {sorted sorted' : List JsValue} (hv : v ≠ .undefined → IsJson v)
    (hw : w ≠ .undefined → IsJson w)
    (h : (v.spreadItems >>= sortItems H) = .ok sorted)
    (h' : (w.spreadItems >>= sortItems H) = .ok sorted')
    (hsame : stableComparable H (.arr sorted) = stableComparable H (.arr sorted')) :
    SameItems v w := by
  obtain ⟨items, hitems, hsort⟩ := bind_ok.1 h
  obtain ⟨items', hitems', hsort'⟩ := bind_ok.1 h'
  have hperm := perm_sortItems hsort
  have hperm' := perm_sortItems hsort'
  have hjson := isJson_spreadItems hv hitems
  have hjson' := isJson_spreadItems hw hitems'
  have harr := (stableComparable_iff hprint
    (fun _ => .arr fun a ha => hjson a (hperm.mem_iff.1 ha))
    (fun _ => .arr fun a ha => hjson' a (hperm'.mem_iff.1 ha))).1 hsame
  rw [withoutProto_arr, withoutProto_arr] at harr
  cases harr with
  | arr harr =>
    rw [List.forall₂_map_left_iff, List.forall₂_map_right_iff] at harr
    obtain ⟨ordered, hordered, hpermuted⟩ := List.perm_comp_forall₂ hperm.symm harr
    exact ⟨items, items', ordered, hitems, hitems', hpermuted.trans hperm', hordered⟩

/-! ## Sorted strings -/

section
variable {H : Host} {l l' : List String}

theorem mergeSort_congr (h : l.Perm l') : l.mergeSort stringLe = l'.mergeSort stringLe :=
  List.Perm.eq_of_pairwise (fun _ _ _ _ => stringLe_antisymm) (pairwise_keyList l)
    (pairwise_keyList l')
    ((List.mergeSort_perm l _).trans (h.trans (List.mergeSort_perm l' _).symm))

theorem sortItems_strings (l : List String) :
    sortItems H (l.map .str) = .ok ((l.mergeSort stringLe).map .str) := by
  have hdefined : (l.map JsValue.str).filter (fun v => !v.isUndefined) = l.map .str :=
    List.filter_eq_self.2 fun v hv => by
      obtain ⟨s, -, rfl⟩ := List.mem_map.1 hv
      rfl
  have hmissing : (l.map JsValue.str).filter (fun v => v.isUndefined) = [] :=
    List.filter_eq_nil_iff.2 fun v hv => by
      obtain ⟨s, -, rfl⟩ := List.mem_map.1 hv
      exact nofun
  unfold sortItems
  dsimp only
  rw [hdefined, hmissing]
  split
  · rename_i hshort
    have hself : l.mergeSort stringLe = l := by
      refine List.mergeSort_of_pairwise ?_
      rcases l with _ | ⟨s, _ | ⟨t, l⟩⟩
      · exact .nil
      · exact List.pairwise_singleton _ s
      · exact absurd hshort (by simp)
    rw [hself, List.append_nil]
  · have hkeyed : (l.map JsValue.str).mapM (fun v => do return (← toText H v, v)) =
        Except.ok (l.map fun s => (s, JsValue.str s)) := by
      refine mapM_ok.2 ?_
      rw [List.forall₂_map_left_iff, List.forall₂_map_right_iff]
      exact List.forall₂_same.2 fun s _ => rfl
    rw [hkeyed]
    refine congrArg Except.ok ?_
    have hsorted : (l.map fun s => (s, JsValue.str s)).mergeSort (fun p q => stringLe p.1 q.1) =
        (l.mergeSort stringLe).map fun s => (s, JsValue.str s) := by
      symm
      apply List.map_mergeSort
      intros
      rfl
    rw [List.append_nil, sortByText, hsorted, List.map_map]
    rfl

theorem stableComparable_strings (hprint : PrintsNumbers H)
    (h : stableComparable H (.arr (l.map .str)) = stableComparable H (.arr (l'.map .str))) :
    l = l' := by
  have hjson : ∀ l : List String, IsJson (.arr (l.map .str)) := fun l =>
    .arr fun v hv => by
      obtain ⟨s, -, rfl⟩ := List.mem_map.1 hv
      exact .str s
  have hsame := (stableComparable_iff hprint (fun _ => hjson l) (fun _ => hjson l')).1 h
  rw [withoutProto_arr, withoutProto_arr, List.map_map, List.map_map] at hsame
  cases hsame with
  | arr hsame =>
    rw [List.forall₂_map_left_iff, List.forall₂_map_right_iff] at hsame
    exact List.forall₂_eq_eq_eq ▸ hsame.imp fun a b hab => hab.str_inj

end

end AccessKit.L2.Evidence
