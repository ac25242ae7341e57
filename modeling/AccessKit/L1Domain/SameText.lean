import AccessKit.L1Domain.Canonical
import AccessKit.L1Domain.Clone

/-!
# Values that are the same JSON have one text

The other direction of `sameJson_of_text`: the order in which properties are written
depends on their keys alone, because the UTF-16 code units of a key determine it.

Results:
* `utf16_inj`: different strings have different code units.
* `stableStringify_congr`: the same JSON has one text.
* `SameJson.refl`, `SameJson.symm`, `SameJson.trans`: being the same JSON is an equivalence.
-/
namespace AccessKit.L1
open AccessKit.Core

/-! ## Code units -/

/-- The code units of a character. -/
def units (c : Char) : List Nat :=
  if c.toNat < 0x10000 then [c.toNat]
  else [0xD800 + (c.toNat - 0x10000) / 0x400, 0xDC00 + (c.toNat - 0x10000) % 0x400]

/-- No character has the code of a surrogate. -/
theorem not_surrogate (c : Char) : c.toNat < 0xD800 ∨ 0xDFFF < c.toNat ∧ c.toNat < 0x110000 :=
  c.valid

theorem units_inj {c d : Char} {rest rest' : List Nat}
    (h : units c ++ rest = units d ++ rest') : c = d ∧ rest = rest' := by
  have hc := not_surrogate c
  have hd := not_surrogate d
  unfold units at h
  split at h <;> split at h <;>
    simp only [List.cons_append, List.nil_append, List.cons.injEq] at h
  · exact ⟨Char.toNat_inj.1 h.1, h.2⟩
  · omega
  · omega
  · exact ⟨Char.toNat_inj.1 (by omega), h.2.2⟩

/-- **Different strings** have different code units. -/
theorem utf16_inj {s t : String} (h : utf16 s = utf16 t) : s = t := by
  have hlists : ∀ cs ds : List Char, cs.flatMap units = ds.flatMap units → cs = ds := by
    intro cs
    induction cs with
    | nil =>
      intro ds h
      cases ds with
      | nil => rfl
      | cons d ds =>
        rw [List.flatMap_nil, List.flatMap_cons] at h
        unfold units at h
        split at h <;> cases h
    | cons c cs ih =>
      intro ds h
      cases ds with
      | nil =>
        rw [List.flatMap_nil, List.flatMap_cons] at h
        unfold units at h
        split at h <;> cases h
      | cons d ds =>
        obtain ⟨hcd, hrest⟩ := units_inj h
        rw [hcd, ih ds hrest]
  exact String.toList_inj.1 (hlists _ _ h)

theorem lexLe_antisymm {a b : List Nat} (h : lexLe a b = true) (h' : lexLe b a = true) : a = b := by
  induction a generalizing b with
  | nil =>
    cases b with
    | nil => rfl
    | cons y b => cases h'
  | cons x a ih =>
    cases b with
    | nil => cases h
    | cons y b =>
      unfold lexLe at h h'
      by_cases hxy : x = y
      · simp only [hxy, if_true] at h h'
        rw [hxy, ih h h']
      · simp only [hxy, Ne.symm hxy, if_false, decide_eq_true_eq] at h h'
        omega

theorem stringLe_antisymm {s t : String} (h : stringLe s t = true) (h' : stringLe t s = true) :
    s = t :=
  utf16_inj (lexLe_antisymm h h')

/-! ## Same JSON -/

theorem SameJson.undefined_left {v : JsValue} (h : SameJson .undefined v) : v = .undefined := by
  cases h
  rfl

theorem get_undefined_or_mem (fields : JsonRecord) (k : String) :
    JsonRecord.get fields k = .undefined ∨ (k, JsonRecord.get fields k) ∈ fields :=
  or_iff_not_imp_left.2 mem_of_get

/-- What holds of the values of the properties, and of `undefined`, holds of every property. -/
theorem forall_get {P : JsValue → Prop} {fields : JsonRecord} (h : ∀ p ∈ fields, P p.2)
    (hundefined : P .undefined) (k : String) : P (JsonRecord.get fields k) := by
  rcases get_undefined_or_mem fields k with hk | hk
  · rw [hk]
    exact hundefined
  · exact h _ hk

theorem SameJson.refl (v : JsValue) : SameJson v v := by
  induction v using JsValue.induction with
  | undefined => exact .undefined
  | null => exact .null
  | bool b => exact .bool b
  | num n => exact .num n
  | str s => exact .str s
  | arr items ih => exact .arr (List.forall₂_same.2 ih)
  | obj fields ih => exact .obj (forall_get (P := fun v => SameJson v v) ih .undefined)

theorem forall₂_of_mem {α β : Type} {R S : α → β → Prop} {l : List α} {l' : List β}
    (h : List.Forall₂ R l l') (hmem : ∀ a ∈ l, ∀ b, R a b → S a b) : List.Forall₂ S l l' := by
  induction h with
  | nil => exact .nil
  | cons hr _ ih =>
    obtain ⟨ha, hl⟩ := List.forall_mem_cons.1 hmem
    exact .cons (ha _ hr) (ih hl)

theorem SameJson.symm {v : JsValue} : ∀ {w : JsValue}, SameJson v w → SameJson w v := by
  induction v using JsValue.induction with
  | undefined =>
    intro w h
    rw [h.undefined_left]
    exact .undefined
  | arr items ih =>
    intro w h
    cases h with
    | arr h => exact .arr (forall₂_of_mem h fun v hv w hw => ih v hv hw).flip
  | obj fields ih =>
    intro w h
    cases h with
    | obj h =>
      refine .obj fun k => ?_
      refine forall_get (P := fun v => ∀ w, SameJson v w → SameJson w v) (fun p hp w => ih p hp)
        (fun w hw => ?_) k _ (h k)
      rw [hw.undefined_left]
      exact .undefined
  | _ =>
    intro w h
    cases h
    exact SameJson.refl _

theorem SameJson.trans {u : JsValue} :
    ∀ {v w : JsValue}, SameJson u v → SameJson v w → SameJson u w := by
  induction u using JsValue.induction with
  | undefined =>
    intro v w h h'
    rw [h.undefined_left] at h'
    exact h'
  | arr items ih =>
    intro v w h h'
    cases h with
    | arr h =>
      cases h' with
      | arr h' =>
        refine .arr ?_
        rename_i items' items''
        induction h generalizing items'' with
        | nil => exact h'
        | cons hab hrest ihl =>
          obtain ⟨ha, hl⟩ := List.forall_mem_cons.1 ih
          cases h' with
          | cons hbc hrest' => exact .cons (ha hab hbc) (ihl hl hrest')
  | obj fields ih =>
    intro v w h h'
    cases h with
    | obj h =>
      cases h' with
      | obj h' =>
        refine .obj fun k => ?_
        refine forall_get (P := fun u => ∀ v w, SameJson u v → SameJson v w → SameJson u w)
          (fun p hp v w => ih p hp) (fun v w hv hw => ?_) k _ _ (h k) (h' k)
        rw [hv.undefined_left] at hw
        exact hw
  | _ =>
    intro v w h h'
    cases h
    exact h'

/-- A comparison with something that is not an array or an object. -/
theorem SameJson.strictEq {v w : JsValue} (h : SameJson v w) (u : JsValue)
    (harr : ∀ items, u ≠ .arr items) (hobj : ∀ fields, u ≠ .obj fields) :
    v.strictEq u = w.strictEq u := by
  cases h with
  | arr h =>
    cases u with
    | arr items => exact absurd rfl (harr items)
    | _ => rfl
  | obj h =>
    cases u with
    | obj fields => exact absurd rfl (hobj fields)
    | _ => rfl
  | _ => rfl

/-! ## One text -/

section
variable {H : Host}

theorem stringifyItems_eq (items : List JsValue) :
    stringifyItems H items = items.map fun v => (stableStringify H v).getD "" := by
  induction items with
  | nil => rfl
  | cons v items ih => rw [stringifyItems, ih, List.map_cons]

theorem stringifyFields_eq (fields : JsonRecord) :
    stringifyFields H fields = fields.map fun p => (p.1, stableStringify H p.2) := by
  induction fields with
  | nil => rfl
  | cons p fields ih => rw [stringifyFields, ih, List.map_cons]

theorem renderFields_perm {l l' : List (String × Option String)} (hkeys : (l.map (·.1)).Nodup)
    (h : l.Perm l') : renderFields l = renderFields l' := by
  have hsort : sortKeys l = sortKeys l' := by
    refine List.Perm.eq_of_pairwise ?_ (ordered_sortKeys l) (ordered_sortKeys l')
      ((sortKeys_perm l).trans (h.trans (sortKeys_perm l').symm))
    intro p q hp hq hpq hqp
    exact List.inj_on_of_nodup_map hkeys ((sortKeys_perm l).mem_iff.1 hp)
      (h.mem_iff.2 ((sortKeys_perm l').mem_iff.1 hq)) (stringLe_antisymm hpq hqp)
  rw [renderFields, renderFields, hsort]

theorem mem_written {fields : JsonRecord} (hkeys : (fields.map (·.1)).Nodup)
    {q : String × Option String} :
    q ∈ (stringifyFields H fields).filter (fun p => p.2.isSome) ↔
      q.2 = stableStringify H (JsonRecord.get fields q.1) ∧
        JsonRecord.get fields q.1 ≠ .undefined := by
  rw [stringifyFields_eq, List.mem_filter, List.mem_map]
  constructor
  · rintro ⟨⟨p, hp, rfl⟩, hsome⟩
    rw [get_eq_of_mem hkeys hp]
    refine ⟨rfl, fun hu => ?_⟩
    rw [hu, stableStringify_eq_none.2 rfl] at hsome
    cases hsome
  · rintro ⟨htext, hne⟩
    refine ⟨⟨(q.1, JsonRecord.get fields q.1), mem_of_get hne, ?_⟩, ?_⟩
    · rw [← htext]
    · rw [htext]
      exact Option.isSome_iff_ne_none.2 fun hn => hne (stableStringify_eq_none.1 hn)

theorem nodup_written {fields : JsonRecord} (hkeys : (fields.map (·.1)).Nodup) :
    (((stringifyFields H fields).filter fun p => p.2.isSome).map (·.1)).Nodup := by
  refine (List.filter_sublist.map _).nodup ?_
  rw [stringifyFields_eq, List.map_map]
  exact hkeys

/-- **The same JSON has one text.** -/
theorem stableStringify_congr {v : JsValue} (hv : IsJson v) :
    ∀ {w : JsValue}, IsJson w → SameJson v w → stableStringify H v = stableStringify H w := by
  induction hv with
  | null | bool | num | str =>
    intro w _ h
    cases h
    rfl
  | @arr items hitems ih =>
    intro w hw h
    cases h with
    | @arr _ items' h =>
      cases hw with
      | arr hitems' =>
        have htexts : stringifyItems H items = stringifyItems H items' := by
          rw [stringifyItems_eq, stringifyItems_eq]
          clear hitems
          induction h with
          | nil => rfl
          | cons hab hrest ihl =>
            obtain ⟨ha, hl⟩ := List.forall_mem_cons.1 ih
            obtain ⟨ha', hl'⟩ := List.forall_mem_cons.1 hitems'
            rw [List.map_cons, List.map_cons, ha ha' hab, ihl hl hl']
        rw [stableStringify, stableStringify, htexts]
  | @obj fields hkeys hfields ih =>
    intro w hw h
    cases h with
    | @obj _ fields' h =>
      cases hw with
      | obj hkeys' hfields' =>
        rw [stableStringify, stableStringify, ← renderFields_filter,
          ← renderFields_filter (stringifyFields H fields')]
        refine congrArg some (renderFields_perm (nodup_written hkeys) ?_)
        refine (List.perm_ext_iff_of_nodup (.of_map _ (nodup_written hkeys))
          (.of_map _ (nodup_written hkeys'))).2 fun q => ?_
        rw [mem_written hkeys, mem_written hkeys']
        -- a property is there on both sides, with one text
        have hundefined : JsonRecord.get fields q.1 = .undefined ↔
            JsonRecord.get fields' q.1 = .undefined :=
          ⟨fun he => (he ▸ h q.1).undefined_left, fun he => (he ▸ (h q.1).symm).undefined_left⟩
        by_cases hu : JsonRecord.get fields q.1 = .undefined
        · exact ⟨fun hq => absurd hu hq.2, fun hq => absurd (hundefined.1 hu) hq.2⟩
        · have hu' : JsonRecord.get fields' q.1 ≠ .undefined := fun he => hu (hundefined.2 he)
          have htext : stableStringify H (JsonRecord.get fields q.1) =
              stableStringify H (JsonRecord.get fields' q.1) :=
            ih _ (mem_of_get hu) hu (hfields' _ (mem_of_get hu') hu') (h q.1)
          rw [htext]
          exact and_congr_right' ⟨fun _ => hu', fun _ => hu⟩

end

end AccessKit.L1
