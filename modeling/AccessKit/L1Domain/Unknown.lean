import AccessKit.L1Domain.SameText

/-!
# Values nothing has checked

What the language does with a value of type `unknown` that code reads all the
same: conversions to a boolean and to a text, member access, the loops over what
should be an array, `sort` and `join` without a comparator, and `JSON.stringify`
with a list of keys. Each of these may throw a `TypeError`.

Values are what `JSON.parse` returns, so that no object has a method of its own.

Results:
* `perm_sortItems`: sorting an array keeps its items.
* `stringifyListed_eq`: `JSON.stringify` with all the keys of a value, in
  order, writes what `stableStringify` writes of the value without `__proto__`.
-/
namespace AccessKit.L1
open AccessKit.Core

/-- The ways to throw a `TypeError`. -/
inductive TypeFault
  /-- A property of `undefined` or `null`. -/
  | reading (key : String)
  /-- A method that is not there. -/
  | notCallable (method : String)
  | notIterable
  /-- An object whose `toString` is no function. -/
  | notPrimitive
  /-- `undefined` given to a hash. -/
  | notText
  deriving DecidableEq

/-- The names that every object inherits a function under. -/
def inheritedMethods : List String :=
  ["constructor", "__defineGetter__", "__defineSetter__", "hasOwnProperty", "__lookupGetter__",
   "__lookupSetter__", "isPrototypeOf", "propertyIsEnumerable", "toString", "valueOf",
   "toLocaleString"]

namespace JsValue

/-- `undefined` or `null` -/
def isNullish : JsValue → Bool
  | .undefined => true
  | .null => true
  | _ => false

/-- `v ?? w` -/
def coalesce (v w : JsValue) : JsValue := if v.isNullish then w else v

/-- An item of an array as `JSON.stringify` writes it. -/
def orNull (v : JsValue) : JsValue := if v.isUndefined then .null else v

/-- `Boolean(v)` -/
def toBoolean : JsValue → Bool
  | .undefined => false
  | .null => false
  | .bool b => b
  | .num .nan => false
  | .num (.inf _) => true
  | .num (.fin q) => decide (q ≠ 0)
  | .str s => decide (s ≠ "")
  | .arr _ => true
  | .obj _ => true

/-- `v?.key`, for a key that nothing inherits. -/
def optional (v : JsValue) (key : String) : JsValue :=
  match v with
  | .obj fields => JsonRecord.get fields key
  | _ => .undefined

/-- `v.key`, for a key that nothing inherits. -/
def member (v : JsValue) (key : String) : Except TypeFault JsValue :=
  if v.isNullish then .error (.reading key) else .ok (v.optional key)

/-- `v.length` -/
def lengthOf (v : JsValue) : Except TypeFault JsValue :=
  match v with
  | .arr items => .ok (.num (.fin items.length))
  | .str s => .ok (.num (.fin (utf16 s).length))
  | v => v.member "length"

/-- What a method of arrays that is called on `v` goes over. -/
def elements (v : JsValue) (method : String) : Except TypeFault (List JsValue) :=
  match v with
  | .arr items => .ok items
  | v => if v.isNullish then .error (.reading method) else .error (.notCallable method)

/-- `[...v]` -/
def spreadItems : JsValue → Except TypeFault (List JsValue)
  | .arr items => .ok items
  | .str s => .ok (s.toList.map fun c => .str (String.singleton c))
  | _ => .error .notIterable

/-- Whether two values are one key of a `Map`. -/
def sameValueZero (v w : JsValue) : Bool :=
  v.strictEq w || (match v, w with
    | .num .nan, .num .nan => true
    | _, _ => false)

end JsValue

/-! ## Texts -/

/-- `String(n)` -/
def numberToText (H : Host) : JsNumber → String
  | .nan => "NaN"
  | .inf neg => if neg then "-Infinity" else "Infinity"
  | .fin q => H.numberToString q

mutual

/-- `String(v)` -/
def toText (H : Host) : JsValue → Except TypeFault String
  | .undefined => .ok "undefined"
  | .null => .ok "null"
  | .bool b => .ok (if b then "true" else "false")
  | .num n => .ok (numberToText H n)
  | .str s => .ok s
  | .arr items => (joinWith ",") <$> itemTexts H items
  | .obj fields => if fields.any fun p => p.1 == "toString" then .error .notPrimitive
    else .ok "[object Object]"

/-- What `join` makes of the items of an array. -/
def itemTexts (H : Host) : List JsValue → Except TypeFault (List String)
  | [] => .ok []
  | v :: items => do
    let text ← if v.isNullish then .ok "" else toText H v
    let texts ← itemTexts H items
    return text :: texts

end

/-- `items.join(",")` -/
def joinItems (H : Host) (items : List JsValue) : Except TypeFault String :=
  (joinWith ",") <$> itemTexts H items

/-- Stable sorting by text. -/
def sortByText (keyed : List (String × JsValue)) : List JsValue :=
  (keyed.mergeSort fun p q => stringLe p.1 q.1).map (·.2)

/-- `items.sort()`: by text, `undefined` last; a single item is compared with
nothing. -/
def sortItems (H : Host) (items : List JsValue) : Except TypeFault (List JsValue) :=
  let defined := items.filter fun v => !v.isUndefined
  let missing := items.filter fun v => v.isUndefined
  if defined.length < 2 then .ok (defined ++ missing)
  else do
    let keyed ← defined.mapM fun v => do return (← toText H v, v)
    return sortByText keyed ++ missing

section
variable {H : Host} {items sorted : List JsValue}

theorem perm_sortByText (keyed : List (String × JsValue)) :
    (sortByText keyed).Perm (keyed.map (·.2)) :=
  (List.mergeSort_perm keyed _).map _

theorem mapM_ok {ε α β : Type} {f : α → Except ε β} {l : List α} {r : List β} :
    l.mapM f = .ok r ↔ List.Forall₂ (fun a b => f a = .ok b) l r := by
  induction l generalizing r with
  | nil =>
    rw [List.mapM_nil, List.forall₂_nil_left_iff]
    exact ⟨fun h => by cases h; rfl, fun h => by rw [h]; rfl⟩
  | cons a l ih =>
    rw [List.mapM_cons, List.forall₂_cons_left_iff]
    cases ha : f a with
    | error e => exact ⟨nofun, fun ⟨_, _, h, _⟩ => nomatch h⟩
    | ok b =>
      cases hl : l.mapM f with
      | error e =>
        refine ⟨nofun, fun ⟨_, u, _, h, _⟩ => ?_⟩
        rw [ih.2 h] at hl
        cases hl
      | ok u =>
        have hu := ih.1 hl
        constructor
        · intro h
          cases h
          exact ⟨b, u, rfl, hu, rfl⟩
        · rintro ⟨_, u', h, hu', rfl⟩
          cases h
          have hsame : Except.ok u = Except.ok u' := hl.symm.trans (ih.2 hu')
          cases hsame
          rfl

theorem mapM_forall {ε α β : Type} {f : α → Except ε β} {P : β → Prop} {l : List α} :
    (∃ r, l.mapM f = .ok r ∧ ∀ b ∈ r, P b) ↔ ∀ a ∈ l, ∃ b, f a = .ok b ∧ P b := by
  simp only [mapM_ok]
  induction l with
  | nil => exact iff_of_true ⟨[], .nil, by simp⟩ (by simp)
  | cons a l ih =>
    rw [List.forall_mem_cons, ← ih]
    constructor
    · rintro ⟨r, hr, hall⟩
      cases hr with
      | cons ha hr =>
        obtain ⟨hb, hall⟩ := List.forall_mem_cons.1 hall
        exact ⟨⟨_, ha, hb⟩, _, hr, hall⟩
    · rintro ⟨⟨b, ha, hb⟩, r, hr, hall⟩
      exact ⟨b :: r, .cons ha hr, List.forall_mem_cons.2 ⟨hb, hall⟩⟩

theorem mapM_keyed {keyed : List (String × JsValue)}
    (h : (items.mapM fun v => do return (← toText H v, v)) = Except.ok keyed) :
    keyed.map (·.2) = items := by
  have hall := mapM_ok.1 h
  induction hall with
  | nil => rfl
  | @cons v p items keyed hv hrest ih =>
    have hp : p.2 = v := by
      cases ht : toText H v with
      | error fault =>
        rw [ht] at hv
        cases hv
      | ok text =>
        rw [ht] at hv
        cases hv
        rfl
    rw [List.map_cons, hp, ih (mapM_ok.2 hrest)]

/-- **Sorting an array** keeps its items. -/
theorem perm_sortItems (h : sortItems H items = .ok sorted) : sorted.Perm items := by
  have hparts : (items.filter (fun v => !v.isUndefined) ++
      items.filter fun v => v.isUndefined).Perm items := by
    have hsplit := List.filter_append_perm (fun v => !JsValue.isUndefined v) items
    simpa using hsplit
  unfold sortItems at h
  dsimp only at h
  split at h
  · cases h
    exact hparts
  · cases hkeyed : ((items.filter fun v => !v.isUndefined).mapM fun v => do
        return (← toText H v, v) : Except TypeFault (List (String × JsValue))) with
    | error fault =>
      rw [hkeyed] at h
      cases h
    | ok keyed =>
      rw [hkeyed] at h
      cases h
      refine List.Perm.trans (List.Perm.append_right _ ?_) hparts
      rw [← mapM_keyed hkeyed]
      exact perm_sortByText keyed

end

/-! ## `JSON.stringify` with a list of keys -/

/-- The properties with these keys that are not `undefined`, in the order of the keys. -/
def renderListed (keys : List String) (l : List (String × Option String)) : String :=
  let parts := keys.filterMap fun k =>
    (l.find? fun p => p.1 == k).bind fun p => p.2.map fun v => quote k ++ ":" ++ v
  String.ofList ['\x7b'] ++ joinWith "," parts ++ String.ofList ['\x7d']

mutual

/-- `JSON.stringify(v, keys)` -/
def stringifyListed (H : Host) (keys : List String) : JsValue → Option String
  | .undefined => none
  | .null => some "null"
  | .bool b => some (if b then "true" else "false")
  | .num n => some (stringifyNumber H n)
  | .str s => some (quote s)
  | .arr items => some ("[" ++ joinWith "," (listedItems H keys items) ++ "]")
  | .obj fields => some (renderListed keys (listedFields H keys fields))

def listedItems (H : Host) (keys : List String) : List JsValue → List String
  | [] => []
  | v :: l => (stringifyListed H keys v).getD "null" :: listedItems H keys l

def listedFields (H : Host) (keys : List String) :
    List (String × JsValue) → List (String × Option String)
  | [] => []
  | (k, v) :: l => (k, stringifyListed H keys v) :: listedFields H keys l

end

mutual

/-- All the keys in a value.
mirrors packages/core/src/evidence-integrity.ts:488-502 -/
def flattenKeys : JsValue → List String
  | .arr items => flattenItems items
  | .obj fields => flattenFields fields
  | _ => []

def flattenItems : List JsValue → List String
  | [] => []
  | v :: l => flattenKeys v ++ flattenItems l

def flattenFields : List (String × JsValue) → List String
  | [] => []
  | (k, v) :: l => k :: (flattenKeys v ++ flattenFields l)

end

mutual

/-- The value without its properties named `__proto__`. -/
def withoutProto : JsValue → JsValue
  | .arr items => .arr (itemsWithoutProto items)
  | .obj fields => .obj (fieldsWithoutProto fields)
  | v => v

def itemsWithoutProto : List JsValue → List JsValue
  | [] => []
  | v :: l => withoutProto v :: itemsWithoutProto l

def fieldsWithoutProto : List (String × JsValue) → List (String × JsValue)
  | [] => []
  | (k, v) :: l =>
    if k = "__proto__" then fieldsWithoutProto l else (k, withoutProto v) :: fieldsWithoutProto l

end

section
variable {H : Host} {keys : List String}

theorem stringifyListed_arr (items : List JsValue) : stringifyListed H keys (.arr items) =
    some ("[" ++ joinWith "," (listedItems H keys items) ++ "]") := rfl

theorem stringifyListed_obj (fields : JsonRecord) : stringifyListed H keys (.obj fields) =
    some (renderListed keys (listedFields H keys fields)) := rfl

theorem flattenItems_cons (v : JsValue) (items : List JsValue) :
    flattenItems (v :: items) = flattenKeys v ++ flattenItems items := rfl

theorem flattenFields_cons (p : String × JsValue) (fields : JsonRecord) :
    flattenFields (p :: fields) = p.1 :: (flattenKeys p.2 ++ flattenFields fields) := rfl

theorem withoutProto_obj (fields : JsonRecord) :
    withoutProto (.obj fields) = .obj (fieldsWithoutProto fields) := rfl

theorem fieldsWithoutProto_cons (p : String × JsValue) (fields : JsonRecord) :
    fieldsWithoutProto (p :: fields) = if p.1 = "__proto__" then fieldsWithoutProto fields
      else (p.1, withoutProto p.2) :: fieldsWithoutProto fields := rfl

theorem listedItems_eq (items : List JsValue) :
    listedItems H keys items = items.map fun v => (stringifyListed H keys v).getD "null" := by
  induction items with
  | nil => rfl
  | cons v items ih => exact congrArg (_ :: ·) ih

theorem listedFields_eq (fields : JsonRecord) :
    listedFields H keys fields = fields.map fun p => (p.1, stringifyListed H keys p.2) := by
  induction fields with
  | nil => rfl
  | cons p fields ih => exact congrArg (_ :: ·) ih

theorem itemsWithoutProto_eq (items : List JsValue) :
    itemsWithoutProto items = items.map withoutProto := by
  induction items with
  | nil => rfl
  | cons v items ih => exact congrArg (_ :: ·) ih

theorem withoutProto_arr (items : List JsValue) :
    withoutProto (.arr items) = .arr (items.map withoutProto) :=
  congrArg JsValue.arr (itemsWithoutProto_eq items)

theorem fieldsWithoutProto_eq (fields : JsonRecord) : fieldsWithoutProto fields =
    (fields.filter fun p => p.1 ≠ "__proto__").map fun p => (p.1, withoutProto p.2) := by
  induction fields with
  | nil => rfl
  | cons p fields ih =>
    rw [fieldsWithoutProto_cons, ih]
    by_cases hp : p.1 = "__proto__"
    · rw [if_pos hp, List.filter_cons_of_neg (by simp [hp])]
    · rw [if_neg hp, List.filter_cons_of_pos (by simp [hp]), List.map_cons]

theorem mem_flattenItems {items : List JsValue} {v : JsValue} {k : String} (hv : v ∈ items)
    (hk : k ∈ flattenKeys v) : k ∈ flattenItems items := by
  induction items with
  | nil => cases hv
  | cons w items ih =>
    rw [flattenItems_cons, List.mem_append]
    rcases List.mem_cons.1 hv with rfl | hv
    · exact .inl hk
    · exact .inr (ih hv)

theorem mem_flattenFields {fields : JsonRecord} {p : String × JsValue} {k : String}
    (hp : p ∈ fields) (hk : k = p.1 ∨ k ∈ flattenKeys p.2) : k ∈ flattenFields fields := by
  induction fields with
  | nil => cases hp
  | cons q fields ih =>
    rw [flattenFields_cons, List.mem_cons, List.mem_append]
    rcases List.mem_cons.1 hp with rfl | hp
    · exact hk.imp_right .inl
    · exact .inr (.inr (ih hp))

/-- Looking the keys up in order is sorting by key. -/
theorem filterMap_find?_eq_sortKeys {l : List (String × Option String)}
    (hl : (l.map (·.1)).Nodup) (hsorted : keys.Pairwise fun a b => stringLe a b = true)
    (hnodup : keys.Nodup) (hall : ∀ p ∈ l, p.1 ∈ keys) :
    (keys.filterMap fun k => l.find? fun p => p.1 == k) = sortKeys l := by
  have hfound : ∀ {k : String} {p : String × Option String},
      (l.find? fun p => p.1 == k) = some p → p.1 = k := fun h => by
    simpa using List.find?_some h
  have hmem : ∀ p, p ∈ (keys.filterMap fun k => l.find? fun p => p.1 == k) ↔ p ∈ l := by
    intro p
    rw [List.mem_filterMap]
    refine ⟨fun ⟨k, _, hk⟩ => List.mem_of_find?_eq_some hk, fun hp => ⟨p.1, hall p hp, ?_⟩⟩
    cases hf : l.find? fun q => q.1 == p.1 with
    | none => simpa using List.find?_eq_none.1 hf p hp
    | some q =>
      exact congrArg some (List.inj_on_of_nodup_map hl (List.mem_of_find?_eq_some hf) hp
        (hfound hf))
  have hperm : (keys.filterMap fun k => l.find? fun p => p.1 == k).Perm l := by
    refine (List.perm_ext_iff_of_nodup (hnodup.filterMap ?_) (.of_map _ hl)).2 hmem
    intro a b p ha hb
    rw [← hfound ha, ← hfound hb]
  refine List.Perm.eq_of_pairwise ?_ ?_ (ordered_sortKeys l)
    (hperm.trans (sortKeys_perm l).symm)
  · intro p q hp hq hpq hqp
    exact List.inj_on_of_nodup_map hl ((hmem p).1 hp) ((sortKeys_perm l).mem_iff.1 hq)
      (stringLe_antisymm hpq hqp)
  · refine List.pairwise_filterMap.2 (hsorted.imp fun hab p hp q hq => ?_)
    rw [hfound hp, hfound hq]
    exact hab

theorem renderListed_eq {l : List (String × Option String)} (hl : (l.map (·.1)).Nodup)
    (hsorted : keys.Pairwise fun a b => stringLe a b = true) (hnodup : keys.Nodup)
    (hall : ∀ p ∈ l, p.1 ∈ keys) : renderListed keys l = renderFields l := by
  have hparts : (keys.filterMap fun k =>
      (l.find? fun p => p.1 == k).bind fun p => p.2.map fun v => quote k ++ ":" ++ v) =
        (sortKeys l).filterMap fun p => p.2.map fun v => quote p.1 ++ ":" ++ v := by
    rw [← filterMap_find?_eq_sortKeys hl hsorted hnodup hall, List.filterMap_filterMap]
    refine List.filterMap_congr fun k _ => ?_
    cases hf : l.find? fun p => p.1 == k with
    | none => rfl
    | some p =>
      have hk : p.1 = k := by simpa using List.find?_some hf
      simp only [Option.bind_some, hk]
  rw [renderListed, renderFields, hparts]

theorem renderListed_filter {l : List (String × Option String)} {name : String}
    (h : name ∉ keys) : renderListed keys (l.filter fun p => p.1 ≠ name) = renderListed keys l := by
  have hfind : ∀ k ∈ keys, ((l.filter fun p => p.1 ≠ name).find? fun p => p.1 == k) =
      l.find? fun p => p.1 == k := by
    intro k hk
    rw [List.find?_filter]
    congr 1
    funext p
    by_cases hp : p.1 = k
    · have hne : k ≠ name := fun he => h (he ▸ hk)
      simp [hp, hne]
    · simp [hp]
  unfold renderListed
  dsimp only
  rw [List.filterMap_congr fun k hk => by rw [hfind k hk]]

theorem withoutProto_ne {v : JsValue} (hv : IsJson v) : withoutProto v ≠ .undefined := by
  cases hv <;> exact fun h => by cases h

/-- **Listing all the keys** of a value, in order, writes the value as it is
hashed, without what is named `__proto__`. -/
theorem stringifyListed_eq (hsorted : keys.Pairwise fun a b => stringLe a b = true)
    (hnodup : keys.Nodup) (hproto : "__proto__" ∉ keys) {v : JsValue} (hv : IsJson v)
    (hall : ∀ k ∈ flattenKeys v, k ≠ "__proto__" → k ∈ keys) :
    stringifyListed H keys v = stableStringify H (withoutProto v) := by
  induction hv with
  | null | bool | num | str => rfl
  | @arr items hitems ih =>
    have htexts : ∀ v ∈ items, (stringifyListed H keys v).getD "null" =
        ((fun v => (stableStringify H v).getD "") ∘ withoutProto) v := by
      intro v hv
      have htext := ih v hv fun k hk => hall k (mem_flattenItems hv hk)
      rw [htext, Function.comp_apply]
      cases hs : stableStringify H (withoutProto v) with
      | some text => rfl
      | none => exact absurd (stableStringify_eq_none.1 hs) (withoutProto_ne (hitems v hv))
    rw [stringifyListed_arr, withoutProto_arr, stableStringify_arr, listedItems_eq,
      stringifyItems_eq, List.map_map, List.map_congr_left htexts]
  | @obj fields hkeys hfields ih =>
    have htexts : stringifyFields H (fieldsWithoutProto fields) =
        (listedFields H keys fields).filter fun p => p.1 ≠ "__proto__" := by
      rw [stringifyFields_eq, listedFields_eq, fieldsWithoutProto_eq, List.map_map,
        List.filter_map]
      refine List.map_congr_left fun p hp => ?_
      have hmem := (List.mem_filter.1 hp).1
      by_cases hp' : p.2 = .undefined
      · simp only [Function.comp_apply, hp']
        rfl
      · rw [ih p hmem hp' fun k hk => hall k (mem_flattenFields hmem (.inr hk))]
        rfl
    have hnames : ((stringifyFields H (fieldsWithoutProto fields)).map (·.1)).Nodup := by
      rw [htexts, listedFields_eq]
      refine (List.filter_sublist.map _).nodup ?_
      rw [List.map_map]
      exact hkeys
    have hasked : ∀ p ∈ stringifyFields H (fieldsWithoutProto fields), p.1 ∈ keys := by
      rw [htexts, listedFields_eq]
      intro p hp
      obtain ⟨hp, hne⟩ := List.mem_filter.1 hp
      obtain ⟨q, hq, rfl⟩ := List.mem_map.1 hp
      exact hall q.1 (mem_flattenFields hq (.inl rfl)) (by simpa using hne)
    rw [stringifyListed_obj, withoutProto_obj, stableStringify_obj,
      ← renderListed_eq hnames hsorted hnodup hasked, htexts, renderListed_filter hproto]

end

/-! ## Values without `__proto__` -/

theorem get_fieldsWithoutProto (fields : JsonRecord) (k : String) :
    JsonRecord.get (fieldsWithoutProto fields) k =
      if k = "__proto__" then .undefined else withoutProto (JsonRecord.get fields k) := by
  induction fields with
  | nil => exact (ite_self _).symm
  | cons p fields ih =>
    obtain ⟨name, v⟩ := p
    unfold JsonRecord.get at ih ⊢
    rw [fieldsWithoutProto_cons]
    by_cases hname : name = "__proto__"
    · rw [if_pos hname, ih]
      by_cases hk : k = "__proto__"
      · rw [if_pos hk, if_pos hk]
      · rw [if_neg hk, if_neg hk, List.find?_cons_of_neg (by simpa [hname] using Ne.symm hk)]
    · rw [if_neg hname]
      by_cases hk : name = k
      · subst hk
        simp [hname]
      · rw [List.find?_cons_of_neg (by simpa using hk), List.find?_cons_of_neg (by simpa using hk)]
        exact ih

theorem isJson_withoutProto {v : JsValue} (hv : IsJson v) : IsJson (withoutProto v) := by
  induction hv with
  | null => exact .null
  | bool b => exact .bool b
  | num q => exact .num q
  | str s => exact .str s
  | @arr items _ ih =>
    rw [withoutProto_arr]
    refine .arr fun v hv => ?_
    obtain ⟨w, hw, rfl⟩ := List.mem_map.1 hv
    exact ih w hw
  | @obj fields hkeys _ ih =>
    rw [withoutProto_obj, fieldsWithoutProto_eq]
    refine .obj ?_ fun p hp hne => ?_
    · rw [List.map_map]
      exact (List.filter_sublist.map _).nodup hkeys
    · obtain ⟨q, hq, rfl⟩ := List.mem_map.1 hp
      refine ih q (List.mem_filter.1 hq).1 fun hu => hne ?_
      simp only [hu]
      rfl

theorem SameJson.withoutProto {v : JsValue} :
    ∀ {w : JsValue}, SameJson v w → SameJson (L1.withoutProto v) (L1.withoutProto w) := by
  induction v using JsValue.induction with
  | arr items ih =>
    intro w h
    cases h with
    | arr h =>
      rw [withoutProto_arr, withoutProto_arr]
      exact .arr (List.forall₂_map_left_iff.2 (List.forall₂_map_right_iff.2
        (forall₂_of_mem h fun v hv w hw => ih v hv hw)))
  | obj fields ih =>
    intro w h
    cases h with
    | obj h =>
      rw [withoutProto_obj, withoutProto_obj]
      refine .obj fun k => ?_
      rw [get_fieldsWithoutProto, get_fieldsWithoutProto]
      by_cases hk : k = "__proto__"
      · rw [if_pos hk, if_pos hk]
        exact .undefined
      · rw [if_neg hk, if_neg hk]
        refine forall_get (P := fun v => ∀ w, SameJson v w →
          SameJson (L1.withoutProto v) (L1.withoutProto w)) (fun p hp w => ih p hp)
          (fun w hw => ?_) k _ (h k)
        rw [hw.undefined_left]
        exact .refl _
  | undefined =>
    intro w h
    rw [h.undefined_left]
    exact .refl _
  | _ =>
    intro w h
    cases h
    exact SameJson.refl _

/-! ## The same JSON -/

theorem SameJson.str_inj {s t : String} (h : SameJson (.str s) (.str t)) : s = t := by
  cases h
  rfl

theorem SameJson.optional {v w : JsValue} (h : SameJson v w) (key : String) :
    SameJson (v.optional key) (w.optional key) := by
  cases h with
  | obj h => exact h key
  | _ => exact .undefined

/-! ## Parts of JSON -/

section
variable {fields : JsonRecord} {v : JsValue}

theorem isJson_get (h : IsJson (.obj fields)) {k : String}
    (hk : JsonRecord.get fields k ≠ .undefined) : IsJson (JsonRecord.get fields k) := by
  cases h with
  | obj _ h => exact h _ (mem_of_get hk) hk

theorem isJson_optional (h : v ≠ .undefined → IsJson v) {k : String}
    (hk : v.optional k ≠ .undefined) : IsJson (v.optional k) := by
  cases v with
  | obj fields => exact isJson_get (h nofun) hk
  | _ => exact absurd rfl hk

theorem isJson_filter (h : IsJson (.obj fields)) (p : String × JsValue → Bool) :
    IsJson (.obj (fields.filter p)) := by
  cases h with
  | obj hkeys h =>
    exact .obj ((List.filter_sublist.map _).nodup hkeys) fun q hq => h q (List.mem_filter.1 hq).1

theorem isJson_coalesce {v w : JsValue} (hv : v ≠ .undefined → IsJson v) (hw : IsJson w) :
    IsJson (v.coalesce w) := by
  unfold JsValue.coalesce
  split
  · exact hw
  · rename_i hne
    exact hv fun hu => hne (by rw [hu]; rfl)

end

theorem get_filter {fields : JsonRecord} {p : String × JsValue → Bool} {k : String}
    (h : ∀ v, p (k, v) = true) :
    JsonRecord.get (fields.filter p) k = JsonRecord.get fields k := by
  have hfind : ((fields.filter p).find? fun q => q.1 == k) = fields.find? fun q => q.1 == k := by
    rw [List.find?_filter]
    congr 1
    funext q
    by_cases hq : q.1 = k
    · subst hq
      simp [h q.2]
    · simp [hq]
  rw [JsonRecord.get, hfind]
  rfl

theorem eq_of_strictEq {v w : JsValue} (h : v.strictEq w = true) : v = w := by
  cases v <;> cases w <;> simp_all [JsValue.strictEq]
  rename_i m n
  cases m <;> cases n <;> simp_all [JsNumber.strictEq]

theorem eq_of_sameValueZero {v w : JsValue} (hv : v ≠ .undefined → IsJson v)
    (h : v.sameValueZero w = true) : v = w := by
  unfold JsValue.sameValueZero at h
  rcases Bool.or_eq_true_iff.1 h with h | h
  · exact eq_of_strictEq h
  · split at h
    · cases hv nofun
    · cases h

end AccessKit.L1
