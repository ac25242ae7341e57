import AccessKit.L1Domain.SameText
import AccessKit.L1Domain.SecretMaterial

/-!
# What the reference adapters check before they store

packages/core/src/reference-repository-security-utils.ts: the search for keys that name
secret material, and the tenant boundary of evidence.

Results:
* `assertNoSecretMaterial_ok`: what is accepted, whatever path the message would name.
* `NoSecretKeys.of_same`: copies of the same JSON are accepted alike.
-/
namespace AccessKit.L6
open AccessKit.Core AccessKit.L1

section
variable (H : Host)

mutual

/-- mirrors packages/core/src/reference-repository-security-utils.ts:16-32 -/
def assertNoSecretMaterial : JsValue → String → Except String Unit
  | .arr items, path => assertItems items path 0
  | .obj fields, path => assertFields fields path
  | _, _ => .ok ()

def assertItems : List JsValue → String → Nat → Except String Unit
  | [], _, _ => .ok ()
  | entry :: items, path, index => do
    assertNoSecretMaterial entry (path ++ "[" ++ toString index ++ "]")
    assertItems items path (index + 1)

def assertFields : List (String × JsValue) → String → Except String Unit
  | [], _ => .ok ()
  | (key, entry) :: fields, path => do
    if isSecretMaterialSensitiveKey H key then
      throw (path ++ "." ++ key ++
        " contains secret material and cannot be persisted by a production adapter.")
    assertNoSecretMaterial entry (path ++ "." ++ key)
    assertFields fields path

end

/-- No key of the value, or of a value in it, names secret material. -/
inductive NoSecretKeys : JsValue → Prop
  | undefined : NoSecretKeys .undefined
  | null : NoSecretKeys .null
  | bool (b : Bool) : NoSecretKeys (.bool b)
  | num (n : JsNumber) : NoSecretKeys (.num n)
  | str (s : String) : NoSecretKeys (.str s)
  | arr {items : List JsValue} (h : ∀ v ∈ items, NoSecretKeys v) : NoSecretKeys (.arr items)
  | obj {fields : JsonRecord}
      (hkeys : ∀ p ∈ fields, isSecretMaterialSensitiveKey H p.1 = false)
      (h : ∀ p ∈ fields, NoSecretKeys p.2) : NoSecretKeys (.obj fields)

theorem insensitive {keys : List String} (hkeys : keys.all (fun k =>
      k.toList.all (·.toNat < 128) && !sensitiveLetters k.toList) = true) :
    ∀ k ∈ keys, isSecretMaterialSensitiveKey H k = false := by
  intro k hk
  have hletters := List.all_eq_true.1 hkeys k hk
  rw [Bool.and_eq_true, Bool.not_eq_true'] at hletters
  rw [sensitiveKey_letters hletters.1 H]
  exact hletters.2

end

section
variable {H : Host}

theorem noSecretKeys_arr {items : List JsValue} :
    NoSecretKeys H (.arr items) ↔ ∀ v ∈ items, NoSecretKeys H v :=
  ⟨fun h => by cases h with | arr h => exact h, .arr⟩

theorem noSecretKeys_obj {fields : JsonRecord} : NoSecretKeys H (.obj fields) ↔
    ∀ p ∈ fields, isSecretMaterialSensitiveKey H p.1 = false ∧ NoSecretKeys H p.2 := by
  constructor
  · intro h
    cases h with
    | obj hkeys h => exact fun p hp => ⟨hkeys p hp, h p hp⟩
  · exact fun h => .obj (fun p hp => (h p hp).1) fun p hp => (h p hp).2

theorem bind_ok {e e' : Except String Unit} :
    (e >>= fun _ => e') = .ok () ↔ e = .ok () ∧ e' = .ok () := by
  cases e with
  | error message => exact ⟨fun h => (by cases h), fun h => (by cases h.1)⟩
  | ok u => exact ⟨fun h => ⟨rfl, h⟩, fun h => h.2⟩

/-- **What is accepted**: values without such keys. -/
theorem assertNoSecretMaterial_ok (v : JsValue) :
    ∀ path, assertNoSecretMaterial H v path = .ok () ↔ NoSecretKeys H v := by
  induction v using JsValue.induction with
  | undefined => exact fun _ => ⟨fun _ => .undefined, fun _ => by simp [assertNoSecretMaterial]⟩
  | null => exact fun _ => ⟨fun _ => .null, fun _ => by simp [assertNoSecretMaterial]⟩
  | bool b => exact fun _ => ⟨fun _ => .bool b, fun _ => by simp [assertNoSecretMaterial]⟩
  | num n => exact fun _ => ⟨fun _ => .num n, fun _ => by simp [assertNoSecretMaterial]⟩
  | str s => exact fun _ => ⟨fun _ => .str s, fun _ => by simp [assertNoSecretMaterial]⟩
  | arr items ih =>
    intro path
    have hitems : ∀ (items : List JsValue) (index : Nat), (∀ v ∈ items, ∀ path,
        assertNoSecretMaterial H v path = .ok () ↔ NoSecretKeys H v) →
        (assertItems H items path index = .ok () ↔ ∀ v ∈ items, NoSecretKeys H v) := by
      intro items
      induction items with
      | nil => exact fun _ _ => by simp [assertItems]
      | cons v items ihitems =>
        intro index h
        obtain ⟨hv, hrest⟩ := List.forall_mem_cons.1 h
        rw [assertItems, bind_ok, hv, ihitems (index + 1) hrest, List.forall_mem_cons]
    rw [assertNoSecretMaterial, hitems items 0 ih, noSecretKeys_arr]
  | obj fields ih =>
    intro path
    have hfields : ∀ fields : JsonRecord, (∀ p ∈ fields, ∀ path,
        assertNoSecretMaterial H p.2 path = .ok () ↔ NoSecretKeys H p.2) →
        (assertFields H fields path = .ok () ↔
          ∀ p ∈ fields, isSecretMaterialSensitiveKey H p.1 = false ∧ NoSecretKeys H p.2) := by
      intro fields
      induction fields with
      | nil => exact fun _ => by simp [assertFields]
      | cons p fields ihfields =>
        intro h
        obtain ⟨hp, hrest⟩ := List.forall_mem_cons.1 h
        rw [assertFields, List.forall_mem_cons, ← ihfields hrest]
        by_cases hkey : isSecretMaterialSensitiveKey H p.1
        · simp [hkey, bind, Except.bind, throw, throwThe, MonadExceptOf.throw]
        · simp only [hkey, Bool.false_eq_true, if_false, bind_ok, hp, true_and]
    rw [assertNoSecretMaterial, hfields fields ih, noSecretKeys_obj]

end

/-! ## Copies -/

/-- A record that is its own copy has no property that is `undefined`, and its values are
their own copies. -/
theorem of_cloneFields_eq {fields : JsonRecord} (h : cloneFields fields = fields) :
    ∀ p ∈ fields, p.2 ≠ .undefined ∧ clone p.2 = p.2 := by
  induction fields with
  | nil => exact fun _ hp => by cases hp
  | cons p fields ih =>
    obtain ⟨k, v⟩ := p
    by_cases hu : v.isUndefined
    · -- the copy of the rest would be longer than the rest
      rw [cloneFields, if_pos hu] at h
      have hlength := congrArg List.length h
      rw [cloneFields_eq, List.length_map, List.length_cons] at hlength
      have hle := List.length_filter_le (fun p => !p.2.isUndefined) fields
      omega
    · rw [cloneFields, if_neg hu, List.cons.injEq, Prod.mk.injEq] at h
      refine List.forall_mem_cons.2 ⟨⟨fun he => hu ?_, h.1.2⟩, ih h.2⟩
      rw [isUndefined_iff]
      exact he

theorem NoSecretKeys.cloned {H : Host} {v : JsValue} (h : NoSecretKeys H v) :
    NoSecretKeys H (clone v) := by
  induction h with
  | undefined => exact .undefined
  | null => exact .null
  | bool b => exact .bool b
  | num n =>
    cases n with
    | fin q => exact .num (.fin q)
    | _ => exact .null
  | str s => exact .str s
  | arr h ih =>
    rw [clone, cloneItems_eq]
    refine .arr fun w hw => ?_
    obtain ⟨v, hv, rfl⟩ := List.mem_map.1 hw
    split
    · exact .null
    · exact ih v hv
  | obj hkeys h ih =>
    rw [clone, cloneFields_eq]
    refine .obj (fun p hp => ?_) fun p hp => ?_
    · obtain ⟨q, hq, rfl⟩ := List.mem_map.1 hp
      exact hkeys q (List.mem_filter.1 hq).1
    · obtain ⟨q, hq, rfl⟩ := List.mem_map.1 hp
      exact ih q (List.mem_filter.1 hq).1

/-- **The same JSON**, copied, has the same keys. -/
theorem NoSecretKeys.of_same {H : Host} {w : JsValue} (hw : IsJson w) :
    ∀ {v : JsValue}, NoSecretKeys H v → SameJson v w → clone w = w → NoSecretKeys H w := by
  induction hw with
  | null => exact fun _ _ _ => .null
  | bool b => exact fun _ _ _ => .bool b
  | num q => exact fun _ _ _ => .num _
  | str s => exact fun _ _ _ => .str s
  | @arr items hitems ih =>
    intro v hv hsame hcopy
    cases hsame with
    | arr hsame =>
      refine .arr fun w hw => ?_
      obtain ⟨v, hv', hvw⟩ := forall₂_exists_right hsame.flip hw
      rw [clone, cloneItems_eq, JsValue.arr.injEq] at hcopy
      have hfixed := List.map_eq_map_iff.1 (hcopy.trans (List.map_id items).symm) w hw
      rw [not_undefined_of_isJson (hitems w hw)] at hfixed
      exact ih w hw (noSecretKeys_arr.1 hv v hv') hvw hfixed
  | @obj fields hkeys hfields ih =>
    intro v hv hsame hcopy
    cases hsame with
    | @obj fields' _ hsame =>
      rw [clone, JsValue.obj.injEq] at hcopy
      refine noSecretKeys_obj.2 fun p hp => ?_
      obtain ⟨hdefined, hfixed⟩ := of_cloneFields_eq hcopy p hp
      have hget := get_eq_of_mem hkeys hp
      have hsame := hsame p.1
      rw [hget] at hsame
      have hthere : JsonRecord.get fields' p.1 ≠ .undefined :=
        fun he => hdefined (he ▸ hsame).undefined_left
      obtain ⟨hkey, hvalue⟩ := noSecretKeys_obj.1 hv _ (mem_of_get hthere)
      exact ⟨hkey, ih p hp hdefined hvalue hsame hfixed⟩

/-! ## Tenant boundaries -/

/-- `value.key`, where the value is an object or has no such property. -/
def property (v : JsValue) (key : String) : Except String JsValue :=
  match v with
  | .undefined => .error ("Cannot read properties of undefined (reading '" ++ key ++ "')")
  | .null => .error ("Cannot read properties of null (reading '" ++ key ++ "')")
  | .obj fields => .ok (JsonRecord.get fields key)
  | _ => .ok .undefined

/-- mirrors packages/core/src/reference-repository-security-utils.ts:10-14 -/
def assertEvidenceTenantBoundary (evidence : JsValue) (tenantBoundary label : String) :
    Except String Unit := do
  if !(← property evidence "tenantBoundary").strictEq (.str tenantBoundary) then
    throw (label ++ " must include matching evidence.tenantBoundary for production persistence.")

end AccessKit.L6
