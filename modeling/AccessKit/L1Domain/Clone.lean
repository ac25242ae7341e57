import AccessKit.L1Domain.Canonical

/-!
# `JSON.parse(JSON.stringify(v))`

The copies the repositories keep: `undefined` properties are dropped, and what
JSON does not have becomes `null`.

Results:
* `sortKeys_filter`: sorting keys and dropping properties commute.
* `stableStringify_clone`: the copy of a JSON value has its text.
* `isJson_clone`: the copy of a JSON value is one.
* `clone_clone`: a copy is its own copy.
-/
namespace AccessKit.L1
open AccessKit.Core

mutual

/-- mirrors packages/core/src/reference-audit-utils.ts:136-138; the copy of
`undefined` throws in the source and is never asked for. -/
def clone : JsValue → JsValue
  | .undefined => .undefined
  | .null => .null
  | .bool b => .bool b
  | .num (.fin q) => .num (.fin q)
  | .num _ => .null
  | .str s => .str s
  | .arr items => .arr (cloneItems items)
  | .obj fields => .obj (cloneFields fields)

def cloneItems : List JsValue → List JsValue
  | [] => []
  | v :: l => (if v.isUndefined then .null else clone v) :: cloneItems l

def cloneFields : List (String × JsValue) → List (String × JsValue)
  | [] => []
  | (k, v) :: l => if v.isUndefined then cloneFields l else (k, clone v) :: cloneFields l

end

theorem cloneFields_eq (fields : JsonRecord) : cloneFields fields =
    (fields.filter fun p => !p.2.isUndefined).map fun p => (p.1, clone p.2) := by
  induction fields with
  | nil => rfl
  | cons p fields ih =>
    rw [cloneFields, ih]
    by_cases hp : p.2.isUndefined <;> simp [hp]

theorem cloneItems_eq (items : List JsValue) : cloneItems items =
    items.map fun v => if v.isUndefined then .null else clone v := by
  induction items with
  | nil => rfl
  | cons v items ih => rw [cloneItems, ih, List.map_cons]

theorem not_undefined_of_isJson {v : JsValue} (h : IsJson v) : v.isUndefined = false := by
  cases h <;> rfl

theorem isUndefined_iff {v : JsValue} : v.isUndefined = true ↔ v = .undefined := by
  cases v <;> simp [JsValue.isUndefined]

theorem isUndefined_clone (v : JsValue) : (clone v).isUndefined = v.isUndefined := by
  cases v with
  | num n => cases n <;> rfl
  | _ => rfl

theorem clone_clone (v : JsValue) : clone (clone v) = clone v := by
  induction v using JsValue.induction with
  | undefined | null | bool | str => rfl
  | num n => cases n <;> rfl
  | arr items ih =>
    simp only [clone, cloneItems_eq, List.map_map]
    congr 1
    refine List.map_congr_left fun v hv => ?_
    by_cases hu : v.isUndefined
    · simp only [Function.comp, hu, if_true]
      rfl
    · simp only [Function.comp, hu, isUndefined_clone, Bool.false_eq_true, if_false, ih v hv]
  | obj fields ih =>
    simp only [clone, cloneFields_eq, List.filter_map, List.filter_filter, List.map_map]
    congr 1
    rw [List.filter_congr (q := fun p => !p.2.isUndefined)
      (fun p _ => by simp [Function.comp, isUndefined_clone])]
    refine List.map_congr_left fun p hp => ?_
    simp only [Function.comp, ih p (List.mem_of_mem_filter hp)]

/-! ## The order of keys -/

theorem lexLe_trans {a b c : List Nat} (h : lexLe a b = true) (h' : lexLe b c = true) :
    lexLe a c = true := by
  induction a generalizing b c with
  | nil => rfl
  | cons x a ih =>
    cases b with
    | nil => cases h
    | cons y b =>
      cases c with
      | nil => cases h'
      | cons z c =>
        unfold lexLe at h h' ⊢
        by_cases hxy : x = y
        · by_cases hyz : y = z
          · simp only [hxy, hyz, if_true] at h h' ⊢
            exact ih h h'
          · simp only [hxy, hyz, if_true, if_false] at h h' ⊢
            exact h'
        · by_cases hyz : y = z
          · simp only [← hyz, hxy, if_false] at h h' ⊢
            exact h
          · simp only [hxy, hyz, if_false, decide_eq_true_eq] at h h'
            rw [if_neg (by omega)]
            exact decide_eq_true (by omega)

theorem lexLe_total (a b : List Nat) : lexLe a b = true ∨ lexLe b a = true := by
  induction a generalizing b with
  | nil => exact .inl rfl
  | cons x a ih =>
    cases b with
    | nil => exact .inr rfl
    | cons y b =>
      unfold lexLe
      by_cases hxy : x = y
      · simp only [hxy, if_true]
        exact ih b
      · rw [if_neg hxy, if_neg (Ne.symm hxy)]
        simp only [decide_eq_true_eq]
        omega

/-- In the order of the keys. -/
abbrev Ordered (l : List (String × Option String)) : Prop :=
  l.Pairwise fun p q => stringLe p.1 q.1 = true

theorem ordered_insertKey (p : String × Option String) {l : List (String × Option String)}
    (h : Ordered l) : Ordered (insertKey p l) := by
  induction l with
  | nil => exact List.pairwise_singleton _ _
  | cons q l ih =>
    obtain ⟨hq, hl⟩ := List.pairwise_cons.1 h
    unfold insertKey
    split
    · rename_i hpq
      refine List.pairwise_cons.2 ⟨fun r hr => ?_, h⟩
      rcases List.mem_cons.1 hr with rfl | hr
      · exact hpq
      · exact lexLe_trans hpq (hq r hr)
    · rename_i hpq
      refine List.pairwise_cons.2 ⟨fun r hr => ?_, ih hl⟩
      rcases List.mem_cons.1 ((insertKey_perm p l).mem_iff.1 hr) with rfl | hr
      · exact (lexLe_total _ _).resolve_left hpq
      · exact hq r hr

theorem ordered_sortKeys (l : List (String × Option String)) : Ordered (sortKeys l) := by
  induction l with
  | nil => exact List.Pairwise.nil
  | cons p l ih => exact ordered_insertKey p ih

theorem insertKey_filter (f : String × Option String → Bool) (p : String × Option String)
    {l : List (String × Option String)} (h : Ordered l) :
    (insertKey p l).filter f = if f p then insertKey p (l.filter f) else l.filter f := by
  induction l with
  | nil => by_cases hp : f p <;> simp [insertKey, hp]
  | cons q l ih =>
    obtain ⟨hq, hl⟩ := List.pairwise_cons.1 h
    by_cases hpq : stringLe p.1 q.1 = true
    · rw [insertKey, if_pos hpq]
      by_cases hp : f p
      · rw [List.filter_cons_of_pos hp, if_pos hp]
        -- whatever is left at the head was behind `q`
        cases hrest : (q :: l).filter f with
        | nil => rfl
        | cons r rest =>
          have hr : r ∈ q :: l := (List.mem_filter.1 (hrest ▸ List.mem_cons_self)).1
          have hpr : stringLe p.1 r.1 = true := by
            rcases List.mem_cons.1 hr with rfl | hr
            · exact hpq
            · exact lexLe_trans hpq (hq r hr)
          rw [insertKey, if_pos hpr]
      · rw [List.filter_cons_of_neg hp, if_neg hp]
    · rw [insertKey, if_neg hpq, List.filter_cons, List.filter_cons, ih hl]
      by_cases hp : f p
      · by_cases hfq : f q
        · simp [hp, hfq, insertKey, hpq]
        · simp [hp, hfq]
      · simp [hp]

theorem sortKeys_filter (f : String × Option String → Bool) (l : List (String × Option String)) :
    (sortKeys l).filter f = sortKeys (l.filter f) := by
  induction l with
  | nil => rfl
  | cons p l ih =>
    show (insertKey p (sortKeys l)).filter f = _
    rw [insertKey_filter f p (ordered_sortKeys l), ih]
    by_cases hp : f p
    · rw [if_pos hp, List.filter_cons_of_pos hp]
      rfl
    · rw [if_neg hp, List.filter_cons_of_neg hp]

theorem renderFields_filter (l : List (String × Option String)) :
    renderFields (l.filter fun p => p.2.isSome) = renderFields l := by
  have hparts : ((sortKeys l).filter fun p => p.2.isSome).filterMap
      (fun p => p.2.map fun v => quote p.1 ++ ":" ++ v) =
      (sortKeys l).filterMap fun p => p.2.map fun v => quote p.1 ++ ":" ++ v := by
    rw [List.filterMap_filter]
    congr 1
    funext p
    cases p.2 <;> rfl
  rw [renderFields, renderFields, ← sortKeys_filter, hparts]

/-! ## Copies -/

/-- **A copy has the text of the original.** -/
theorem stableStringify_clone {H : Host} {v : JsValue} (h : IsJson v) :
    stableStringify H (clone v) = stableStringify H v := by
  induction h with
  | null | bool | num | str => rfl
  | @arr items hitems ih =>
    have hcopy : ∀ l : List JsValue, (∀ v ∈ l, IsJson v ∧
        stableStringify H (clone v) = stableStringify H v) →
        stringifyItems H (cloneItems l) = stringifyItems H l := by
      intro l hl
      induction l with
      | nil => rfl
      | cons v l ihl =>
        obtain ⟨⟨hv, htext⟩, hl⟩ := List.forall_mem_cons.1 hl
        simp only [cloneItems, not_undefined_of_isJson hv, stringifyItems, ihl hl,
          Bool.false_eq_true, if_false, htext]
    simp only [clone, stableStringify, hcopy items fun v hv => ⟨hitems v hv, ih v hv⟩]
  | @obj fields _ hfields ih =>
    have hcopy : ∀ l : JsonRecord, (∀ p ∈ l, p.2 ≠ .undefined →
        stableStringify H (clone p.2) = stableStringify H p.2) →
        stringifyFields H (cloneFields l) =
          (stringifyFields H l).filter fun p => p.2.isSome := by
      intro l hl
      induction l with
      | nil => rfl
      | cons p l ihl =>
        obtain ⟨hp, hl⟩ := List.forall_mem_cons.1 hl
        by_cases hu : p.2 = .undefined
        · simp [cloneFields, stringifyFields, hu, JsValue.isUndefined, stableStringify, ihl hl]
        · have hsome : (stableStringify H p.2).isSome = true :=
            Option.isSome_iff_ne_none.2 fun hn => hu (stableStringify_eq_none.1 hn)
          have hu' : ¬ p.2.isUndefined = true := fun h => hu (isUndefined_iff.1 h)
          simp [cloneFields, stringifyFields, hu', hp hu, hsome, ihl hl]
    simp only [clone, stableStringify, hcopy fields ih, renderFields_filter]

theorem isJson_clone {v : JsValue} (h : IsJson v) : IsJson (clone v) := by
  induction h with
  | null => exact .null
  | bool b => exact .bool b
  | num q => exact .num q
  | str s => exact .str s
  | @arr items hitems ih =>
    refine .arr fun v hv => ?_
    rw [cloneItems_eq] at hv
    obtain ⟨w, hw, rfl⟩ := List.mem_map.1 hv
    simp only [not_undefined_of_isJson (hitems w hw), Bool.false_eq_true, if_false]
    exact ih w hw
  | @obj fields hkeys hfields ih =>
    rw [clone, cloneFields_eq]
    refine .obj ?_ fun p hp _ => ?_
    · rw [List.map_map]
      exact (List.filter_sublist.map _).nodup hkeys
    · obtain ⟨q, hq, rfl⟩ := List.mem_map.1 hp
      obtain ⟨hq, hu⟩ := List.mem_filter.1 hq
      exact ih q hq fun he => by simp [he, JsValue.isUndefined] at hu

end AccessKit.L1
