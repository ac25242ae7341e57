import AccessKit.L1Domain.Parse
import AccessKit.L1Domain.Unknown

/-!
# Values that are the same JSON

The language reads two values that are the same JSON alike, where it does not turn them
into texts: conversions to a boolean, member access, comparisons, and what is left out of
an object. A value that was written and parsed is such a value, and is JSON itself.

Results:
* `isJson_jsonParse`: what is parsed is JSON.
* `isJsonValue_iff`: whether a value is JSON can be computed.
* `SameJson.optional`, `SameJson.coalesce`, `SameJson.strictEq_both`: parts of the same
  JSON are the same.
-/
namespace AccessKit.L1
open AccessKit.Core

/-! ## What is parsed -/

section
variable {readNumber : String → Option Rat}

/-- What holds of each item that is parsed holds of a list of them. -/
theorem parseList_forall {α : Type} {P : α → Prop} {parse : List Char → Option (α × List Char)}
    (hparse : ∀ cs a rest, parse cs = some (a, rest) → P a) {close : Char} {n : Nat}
    {cs rest : List Char} {l : List α} (h : parseList parse close n cs = some (l, rest)) :
    ∀ a ∈ l, P a := by
  induction n generalizing cs l with
  | zero => cases h
  | succ n ih =>
    unfold parseList at h
    cases hitem : parse cs with
    | none =>
      rw [hitem] at h
      cases h
    | some p =>
      have hp := hparse cs p.1 p.2 hitem
      rw [hitem] at h
      dsimp only at h
      split at h
      · cases h
      · split at h
        · obtain ⟨q, hq, heq⟩ := Option.map_eq_some_iff.1 h
          cases heq
          exact List.forall_mem_cons.2 ⟨hp, ih hq⟩
        · split at h
          · cases h
            exact List.forall_mem_singleton.2 hp
          · cases h

theorem isJson_spread {l r : JsonRecord} (hr : IsJson (.obj r)) (h : ∀ p ∈ l, IsJson p.2) :
    IsJson (.obj (JsonRecord.spread r l)) := by
  unfold JsonRecord.spread
  induction l generalizing r with
  | nil => exact hr
  | cons p l ih =>
    obtain ⟨hp, hl⟩ := List.forall_mem_cons.1 h
    exact ih (isJson_set hr hp) hl

theorem parseField_json {parse : List Char → Option (JsValue × List Char)}
    (hparse : ∀ cs v rest, parse cs = some (v, rest) → IsJson v) {cs rest : List Char}
    {p : String × JsValue} (h : parseField parse cs = some (p, rest)) : IsJson p.2 := by
  unfold parseField at h
  split at h
  · split at h
    · cases h
    · split at h
      · obtain ⟨q, hq, heq⟩ := Option.map_eq_some_iff.1 h
        cases heq
        exact hparse _ _ _ hq
      · cases h
  · cases h

theorem parseValue_json (n : Nat) :
    ∀ cs v rest, parseValue readNumber n cs = some (v, rest) → IsJson v := by
  induction n with
  | zero =>
    intro cs v rest h
    cases h
  | succ n ih =>
    intro cs v rest h
    unfold parseValue at h
    split at h
    · cases h
      exact .null
    · cases h
      exact .bool true
    · cases h
      exact .bool false
    · obtain ⟨p, -, heq⟩ := Option.map_eq_some_iff.1 h
      cases heq
      exact .str _
    · split at h
      · cases h
        exact .arr (List.forall_mem_nil _)
      · obtain ⟨p, hp, heq⟩ := Option.map_eq_some_iff.1 h
        cases heq
        exact .arr (parseList_forall ih hp)
    · split at h
      · cases h
        exact .obj List.nodup_nil (List.forall_mem_nil _)
      · obtain ⟨p, hp, heq⟩ := Option.map_eq_some_iff.1 h
        cases heq
        exact isJson_spread (.obj List.nodup_nil (List.forall_mem_nil _))
          (parseList_forall (fun cs p rest => parseField_json ih) hp)
    · obtain ⟨q, -, heq⟩ := Option.map_eq_some_iff.1 h
      cases heq
      exact .num q

/-- **What is parsed** is JSON. -/
theorem isJson_jsonParse {text : String} {v : JsValue} (h : jsonParse readNumber text = some v) :
    IsJson v := by
  unfold jsonParse at h
  split at h
  · cases h
  · rename_i hparse
    split at h
    · cases h
      exact parseValue_json _ _ _ _ hparse
    · cases h

end

/-! ## Deciding what is JSON -/

mutual

def isJsonValue : JsValue → Bool
  | .undefined => false
  | .null => true
  | .bool _ => true
  | .num (.fin _) => true
  | .num _ => false
  | .str _ => true
  | .arr items => isJsonItems items
  | .obj fields => decide (fields.map (·.1)).Nodup && isJsonFields fields

def isJsonItems : List JsValue → Bool
  | [] => true
  | v :: items => isJsonValue v && isJsonItems items

def isJsonFields : List (String × JsValue) → Bool
  | [] => true
  | (_, v) :: fields => (v.isUndefined || isJsonValue v) && isJsonFields fields

end

theorem isJsonItems_iff (items : List JsValue) :
    isJsonItems items = true ↔ ∀ v ∈ items, isJsonValue v = true := by
  induction items with
  | nil => simp [isJsonItems]
  | cons v items ih => rw [isJsonItems, Bool.and_eq_true, ih, List.forall_mem_cons]

theorem isJsonFields_iff (fields : JsonRecord) :
    isJsonFields fields = true ↔ ∀ p ∈ fields, p.2 ≠ .undefined → isJsonValue p.2 = true := by
  induction fields with
  | nil => simp [isJsonFields]
  | cons p fields ih =>
    have hdefined : (p.2.isUndefined || isJsonValue p.2) = true ↔
        (p.2 ≠ .undefined → isJsonValue p.2 = true) := by
      cases p.2 <;> simp [JsValue.isUndefined]
    rw [isJsonFields, Bool.and_eq_true, ih, List.forall_mem_cons, hdefined]

theorem isJsonValue_iff {v : JsValue} : isJsonValue v = true ↔ IsJson v := by
  induction v using JsValue.induction with
  | undefined => exact iff_of_false (by simp [isJsonValue]) fun h => by cases h
  | null => exact iff_of_true rfl .null
  | bool b => exact iff_of_true rfl (.bool b)
  | num n =>
    cases n with
    | fin q => exact iff_of_true rfl (.num q)
    | _ => exact iff_of_false (by simp [isJsonValue]) fun h => by cases h
  | str s => exact iff_of_true rfl (.str s)
  | arr items ih =>
    rw [isJsonValue, isJsonItems_iff]
    constructor
    · exact fun h => .arr fun v hv => (ih v hv).1 (h v hv)
    · intro h v hv
      cases h with
      | arr h => exact (ih v hv).2 (h v hv)
  | obj fields ih =>
    rw [isJsonValue, Bool.and_eq_true, decide_eq_true_iff, isJsonFields_iff]
    constructor
    · exact fun h => .obj h.1 fun p hp hne => (ih p hp).1 (h.2 p hp hne)
    · intro h
      cases h with
      | obj hkeys h => exact ⟨hkeys, fun p hp hne => (ih p hp).2 (h p hp hne)⟩

instance : DecidablePred IsJson := fun _ => decidable_of_iff _ isJsonValue_iff

/-! ## Parts of the same JSON -/

section
variable {v v' w w' : JsValue}

theorem SameJson.isNullish (h : SameJson v v') : v'.isNullish = v.isNullish := by
  cases h <;> rfl

theorem SameJson.toBoolean (h : SameJson v v') : v'.toBoolean = v.toBoolean := by
  cases h <;> rfl

theorem SameJson.coalesce (h : SameJson v v') (hw : SameJson w w') :
    SameJson (v.coalesce w) (v'.coalesce w') := by
  unfold JsValue.coalesce
  rw [h.isNullish]
  cases v.isNullish with
  | true => exact hw
  | false => exact h

theorem SameJson.strictEq_both (h : SameJson v v') (hw : SameJson w w') :
    v'.strictEq w' = v.strictEq w := by
  cases h <;> cases hw <;> rfl

theorem SameJson.sameValueZero (h : SameJson v v') (hw : SameJson w w') :
    v'.sameValueZero w' = v.sameValueZero w := by
  unfold JsValue.sameValueZero
  rw [h.strictEq_both hw]
  cases h with
  | num n => cases n <;> cases hw <;> rfl
  | _ => cases hw <;> rfl

theorem SameJson.eq_str {s : String} (h : SameJson (.str s) v) : v = .str s := by
  cases h
  rfl

theorem SameJson.eq_arr {items : List JsValue} (h : SameJson (.arr items) v) :
    ∃ items', v = .arr items' ∧ List.Forall₂ SameJson items items' := by
  cases h with
  | arr h => exact ⟨_, rfl, h⟩

theorem SameJson.eq_obj {fields : JsonRecord} (h : SameJson (.obj fields) v) :
    ∃ fields', v = .obj fields' := by
  cases h with
  | obj _ => exact ⟨_, rfl⟩

theorem SameJson.eq_strings {texts : List String} (h : SameJson (.arr (texts.map .str)) v) :
    v = .arr (texts.map .str) := by
  obtain ⟨items, rfl, hall⟩ := h.eq_arr
  rw [List.forall₂_map_left_iff] at hall
  refine congrArg JsValue.arr ?_
  clear h
  induction hall with
  | nil => rfl
  | cons hab _ ih => rw [List.map_cons, hab.eq_str, ih]

end

/-! ## The same objects -/

section
variable {fields fields' : JsonRecord}

theorem SameJson.get (h : SameJson (.obj fields) (.obj fields')) (k : String) :
    SameJson (JsonRecord.get fields k) (JsonRecord.get fields' k) := by
  cases h with
  | obj h => exact h k

theorem sameJson_fields (h : List.Forall₂ (fun p q => p.1 = q.1 ∧ SameJson p.2 q.2) fields
    fields') : SameJson (.obj fields) (.obj fields') := by
  refine .obj fun k => ?_
  unfold JsonRecord.get
  induction h with
  | nil => exact .undefined
  | @cons p q fields fields' hpq _ ih =>
    obtain ⟨key, v⟩ := p
    obtain ⟨key', v'⟩ := q
    obtain ⟨rfl, hv⟩ := hpq
    by_cases hk : key = k
    · simpa [hk] using hv
    · rw [List.find?_cons_of_neg (by simpa using hk), List.find?_cons_of_neg (by simpa using hk)]
      exact ih

theorem get_filter_of_not {p : String × JsValue → Bool} {k : String}
    (h : ∀ v, p (k, v) = false) : JsonRecord.get (fields.filter p) k = .undefined := by
  have hnone : ((fields.filter p).find? fun q => q.1 == k) = none := by
    rw [List.find?_eq_none]
    intro q hq hk
    have hkey : q.1 = k := by simpa using hk
    have hkept := (List.mem_filter.1 hq).2
    rw [← Prod.eta q, hkey, h] at hkept
    cases hkept
  rw [JsonRecord.get, hnone]

theorem SameJson.filterKeys (h : SameJson (.obj fields) (.obj fields')) (p : String → Bool) :
    SameJson (.obj (fields.filter fun q => p q.1)) (.obj (fields'.filter fun q => p q.1)) := by
  refine .obj fun k => ?_
  cases hk : p k with
  | true =>
    rw [get_filter (p := fun q => p q.1) fun _ => hk, get_filter (p := fun q => p q.1) fun _ => hk]
    exact h.get k
  | false =>
    rw [get_filter_of_not (p := fun q => p q.1) fun _ => hk,
      get_filter_of_not (p := fun q => p q.1) fun _ => hk]
    exact .undefined

end

end AccessKit.L1
