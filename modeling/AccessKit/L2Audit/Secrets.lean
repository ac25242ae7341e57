import AccessKit.L1Domain.Clone
import AccessKit.L1Domain.SecretMaterial
import AccessKit.L2Audit.Events

/-!
# The search for secret material in what is stored

packages/core/src/reference-audit-utils.ts:21-66.

Results:
* `noSecrets_iff`: whether something is found does not depend on the path that
  the messages name.
* `noSecrets_obj`, `noSecrets_arr`, `noSecrets_str`: what has to be clean.
* `noSecrets_clone`: a copy shows nothing that the original does not.
-/
namespace AccessKit.L2.Audit
open AccessKit.Core AccessKit.L1

section
variable (H : Host)

/-- mirrors packages/core/src/reference-audit-utils.ts:30-41 -/
def stringFinding (path : String) : AuditIntegrityFinding where
  code := "SECRET_MATERIAL_NOT_REDACTED"
  message := path ++
    " contains secret-looking material and must be redacted before production audit persistence."
  severity := .critical
  actual := some path

/-- mirrors packages/core/src/reference-audit-utils.ts:55-62 -/
def keyFinding (path : String) : AuditIntegrityFinding where
  code := "SECRET_MATERIAL_NOT_REDACTED"
  message := path ++
    " contains secret material and must be redacted before production audit persistence."
  severity := .critical
  actual := some path

mutual

/-- mirrors packages/core/src/reference-audit-utils.ts:29-66 -/
def secretMaterialFindings : JsValue → String → List AuditIntegrityFinding
  | .str s, path => if isSensitiveString s then [stringFinding path] else []
  | .arr items, path => itemFindings items path 0
  | .obj fields, path => fieldFindings fields path
  | _, _ => []

def itemFindings : List JsValue → String → Nat → List AuditIntegrityFinding
  | [], _, _ => []
  | v :: l, path, index =>
    secretMaterialFindings v (path ++ "[" ++ toString index ++ "]") ++
      itemFindings l path (index + 1)

def fieldFindings : List (String × JsValue) → String → List AuditIntegrityFinding
  | [], _ => []
  | (k, v) :: l, path =>
    let nextPath := path ++ "." ++ k
    (if isSecretMaterialSensitiveKey H k then [keyFinding nextPath] else []) ++
      secretMaterialFindings v nextPath ++ fieldFindings l path

end

/-- `throw new Error(message)` when the first finding has one.
mirrors packages/core/src/reference-audit-utils.ts:21-27 -/
def assertNoSecretMaterial (v : JsValue) (path : String) : Except String Unit :=
  match secretMaterialFindings H v path with
  | [] => .ok ()
  | f :: _ => .error f.message

/-- Nothing is found, under whatever path. -/
def NoSecrets (v : JsValue) : Prop := ∀ path, secretMaterialFindings H v path = []

end

section
variable {H : Host}

theorem findings_str (s path : String) : secretMaterialFindings H (.str s) path =
    if isSensitiveString s then [stringFinding path] else [] := rfl

theorem findings_arr (items : List JsValue) (path : String) :
    secretMaterialFindings H (.arr items) path = itemFindings H items path 0 := rfl

theorem findings_obj (fields : JsonRecord) (path : String) :
    secretMaterialFindings H (.obj fields) path = fieldFindings H fields path := rfl

theorem itemFindings_cons (v : JsValue) (items : List JsValue) (path : String) (i : Nat) :
    itemFindings H (v :: items) path i =
      secretMaterialFindings H v (path ++ "[" ++ toString i ++ "]") ++
        itemFindings H items path (i + 1) := rfl

theorem fieldFindings_cons (p : String × JsValue) (fields : JsonRecord) (path : String) :
    fieldFindings H (p :: fields) path =
      (if isSecretMaterialSensitiveKey H p.1 then [keyFinding (path ++ "." ++ p.1)] else []) ++
        secretMaterialFindings H p.2 (path ++ "." ++ p.1) ++ fieldFindings H fields path := rfl

theorem itemFindings_eq_nil {items : List JsValue} {path : String} {i : Nat}
    (hpath : ∀ v ∈ items, ∀ p p', secretMaterialFindings H v p = [] →
      secretMaterialFindings H v p' = []) :
    itemFindings H items path i = [] ↔ ∀ v ∈ items, NoSecrets H v := by
  induction items generalizing i with
  | nil => exact iff_of_true rfl (List.forall_mem_nil _)
  | cons v items ih =>
    obtain ⟨hv, hitems⟩ := List.forall_mem_cons.1 hpath
    rw [itemFindings_cons, List.append_eq_nil_iff, ih hitems, List.forall_mem_cons]
    exact and_congr_left fun _ => ⟨fun h path' => hv _ path' h, fun h => h _⟩

theorem fieldFindings_eq_nil {fields : JsonRecord} {path : String}
    (hpath : ∀ p ∈ fields, ∀ q q', secretMaterialFindings H p.2 q = [] →
      secretMaterialFindings H p.2 q' = []) :
    fieldFindings H fields path = [] ↔
      ∀ p ∈ fields, isSecretMaterialSensitiveKey H p.1 = false ∧ NoSecrets H p.2 := by
  induction fields with
  | nil => exact iff_of_true rfl (List.forall_mem_nil _)
  | cons p fields ih =>
    obtain ⟨hp, hfields⟩ := List.forall_mem_cons.1 hpath
    have hclean : secretMaterialFindings H p.2 (path ++ "." ++ p.1) = [] ↔ NoSecrets H p.2 :=
      ⟨fun h path' => hp _ path' h, fun h => h _⟩
    rw [fieldFindings_cons, List.append_eq_nil_iff, List.append_eq_nil_iff, ih hfields,
      List.forall_mem_cons, hclean]
    by_cases hk : isSecretMaterialSensitiveKey H p.1 <;> simp [hk]

theorem findings_path (v : JsValue) : ∀ path path', secretMaterialFindings H v path = [] →
    secretMaterialFindings H v path' = [] := by
  induction v using JsValue.induction with
  | undefined | null | bool | num => exact fun _ _ _ => rfl
  | str s =>
    intro path path' h
    rw [findings_str] at h ⊢
    by_cases hs : isSensitiveString s <;> simp [hs] at h ⊢
  | arr items ih =>
    intro path path' h
    rw [findings_arr, itemFindings_eq_nil ih] at h ⊢
    exact h
  | obj fields ih =>
    intro path path' h
    rw [findings_obj, fieldFindings_eq_nil ih] at h ⊢
    exact h

/-- Whether something is found does not depend on the path. -/
theorem noSecrets_iff {v : JsValue} (path : String) :
    NoSecrets H v ↔ secretMaterialFindings H v path = [] :=
  ⟨fun h => h path, fun h path' => findings_path v path path' h⟩

theorem assertNoSecretMaterial_ok {v : JsValue} {path : String} :
    assertNoSecretMaterial H v path = .ok () ↔ NoSecrets H v := by
  rw [noSecrets_iff path, assertNoSecretMaterial]
  split
  · rename_i h
    simp [h]
  · rename_i h
    simp [h]

theorem noSecrets_str {s : String} : NoSecrets H (.str s) ↔ isSensitiveString s = false := by
  rw [noSecrets_iff "", findings_str]
  by_cases hs : isSensitiveString s <;> simp [hs]

theorem noSecrets_arr {items : List JsValue} :
    NoSecrets H (.arr items) ↔ ∀ v ∈ items, NoSecrets H v := by
  rw [noSecrets_iff "", findings_arr]
  exact itemFindings_eq_nil fun v _ => findings_path v

theorem noSecrets_obj {fields : JsonRecord} : NoSecrets H (.obj fields) ↔
    ∀ p ∈ fields, isSecretMaterialSensitiveKey H p.1 = false ∧ NoSecrets H p.2 := by
  rw [noSecrets_iff "", findings_obj]
  exact fieldFindings_eq_nil fun p _ => findings_path p.2

theorem NoSecrets.field {fields : JsonRecord} (h : NoSecrets H (.obj fields)) {k : String}
    {v : JsValue} (hmem : (k, v) ∈ fields) : NoSecrets H v :=
  (noSecrets_obj.1 h (k, v) hmem).2

theorem noSecrets_none : NoSecrets H (optional none) := fun _ => rfl

/-- A copy shows nothing that the original does not. -/
theorem noSecrets_clone (v : JsValue) (h : NoSecrets H v) : NoSecrets H (clone v) := by
  have hnull : NoSecrets H .null := fun _ => rfl
  induction v using JsValue.induction with
  | undefined | null | bool | str => exact h
  | num n =>
    cases n with
    | fin q => exact h
    | nan | inf => exact hnull
  | arr items ih =>
    rw [clone, cloneItems_eq, noSecrets_arr]
    intro w hw
    obtain ⟨v, hv, rfl⟩ := List.mem_map.1 hw
    split
    · exact hnull
    · exact ih v hv (noSecrets_arr.1 h v hv)
  | obj fields ih =>
    rw [clone, cloneFields_eq, noSecrets_obj]
    intro q hq
    obtain ⟨p, hp, rfl⟩ := List.mem_map.1 hq
    obtain ⟨hp, -⟩ := List.mem_filter.1 hp
    obtain ⟨hk, hclean⟩ := noSecrets_obj.1 h p hp
    exact ⟨hk, ih p hp hclean⟩

end

end AccessKit.L2.Audit
