import AccessKit.L2Audit.EvidenceSigning

/-!
# What the builder makes of a draft

packages/core/src/evidence-package-builder.ts:29-200, for a draft that has its type:
nothing is thrown, and each section that is built repeats what the draft says.

Results:
* `Draft.completed`: what the builder completes a draft with.
-/
namespace AccessKit.L2.Evidence
open AccessKit.Core AccessKit.L1
open AccessKit.L2.Audit (bind_ok)

/-! ## Drafts -/

/-- A mapping names its control and its source events. -/
structure MappingShape (mapping : JsValue) : Prop where
  controlId : ∃ id, mapping.optional "controlId" = .str id
  sourceEventIds : ∃ ids : List String,
    mapping.optional "sourceEventIds" = .arr (ids.map .str)

/-- A statement names its control and its review. -/
structure StatementShape (statement : JsValue) : Prop where
  controlId : ∃ id, statement.optional "controlId" = .str id
  reviewerRole : (statement.optional "reviewerRole").toBoolean = true
  reviewedAt : (statement.optional "reviewedAt").toBoolean = true

/-- The sections that a draft brings and nothing else of it is made from. -/
def givenSections : List String :=
  ["auditIntegrity", "artifacts", "conmonMetrics", "siemExport", "dataFlows", "accessReviews",
   "exceptionRegister", "operationalEvidence"]

/-- The sections that are built. -/
def builtSections : List String := ["poamExport", "oscal", "controlTraceViews"]

/-- A draft of the type of a draft, with nonempty periods and reviews, that brings
no section that is built. -/
structure Draft (draft : JsonRecord) : Prop where
  exportId : ∃ id, JsonRecord.get draft "exportId" = .str id
  boundary : ∃ fields components, JsonRecord.get draft "systemBoundary" = .obj fields ∧
    JsonRecord.get fields "components" = .arr components ∧
    ∀ c ∈ components, c.isNullish = false
  periodStart : (JsonRecord.get draft "periodStart").toBoolean = true
  periodEnd : (JsonRecord.get draft "periodEnd").toBoolean = true
  mappings : ∃ mappings, JsonRecord.get draft "controlMappings" = .arr mappings ∧
    ∀ m ∈ mappings, MappingShape m
  statements : ∃ statements, JsonRecord.get draft "controlStatements" = .arr statements ∧
    ∀ s ∈ statements, StatementShape s
  poamItems : ∃ items, JsonRecord.get draft "poamItems" = .arr items ∧
    ∀ item ∈ items, ∃ id, item.optional "id" = .str id
  given : ∀ name ∈ givenSections, JsonRecord.get draft name ≠ .undefined
  unbuilt : ∀ name ∈ builtSections, (JsonRecord.get draft name).isNullish = true

/-- Mappings of one control have the same source events, in some order. -/
def SameEvents (draft : JsonRecord) : Prop :=
  ∀ mappings, JsonRecord.get draft "controlMappings" = .arr mappings →
    ∀ m ∈ mappings, ∀ m' ∈ mappings, m.optional "controlId" = m'.optional "controlId" →
      ∀ ids ids' : List String, m.optional "sourceEventIds" = .arr (ids.map .str) →
        m'.optional "sourceEventIds" = .arr (ids'.map .str) → ids.Perm ids'

/-! ## The sections that are built -/

section
variable {draft : JsonRecord}

theorem isNullish_of_toBoolean {v : JsValue} (h : v.toBoolean = true) : v.isNullish = false := by
  cases v with
  | undefined | null => cases h
  | _ => rfl

theorem isNullish_of_str {v : JsValue} {key s : String} (h : v.optional key = .str s) :
    v.isNullish = false := isNullish_of_optional (by rw [h]; exact nofun)

theorem coalesce_of_toBoolean {v w : JsValue} (h : v.toBoolean = true) : v.coalesce w = v := by
  rw [JsValue.coalesce, isNullish_of_toBoolean h]
  rfl

theorem toBoolean_coalesce {v w : JsValue} (h : v = .undefined ∨ v.toBoolean = true)
    (hw : w.toBoolean = true) : (v.coalesce w).toBoolean = true := by
  rcases h with rfl | h
  · exact hw
  · rw [coalesce_of_toBoolean h]
    exact h

theorem mapM_exists {ε α β : Type} {f : α → Except ε β} {R : α → β → Prop} {l : List α}
    (h : ∀ a ∈ l, ∃ b, f a = .ok b ∧ R a b) : ∃ r, l.mapM f = .ok r ∧ List.Forall₂ R l r := by
  induction l with
  | nil => exact ⟨[], rfl, .nil⟩
  | cons a l ih =>
    obtain ⟨⟨b, hb, hR⟩, hl⟩ := List.forall_mem_cons.1 h
    obtain ⟨r, hr, hall⟩ := ih hl
    exact ⟨b :: r, mapM_ok.2 (.cons hb (mapM_ok.1 hr)), .cons hR hall⟩

theorem Draft.scopeIds (h : Draft draft) :
    ∃ ids, componentIds (JsonRecord.get draft "systemBoundary") = .ok ids := by
  obtain ⟨fields, components, hb, hc, hall⟩ := h.boundary
  obtain ⟨ids, hids, -⟩ := mapM_exists (f := fun component => component.member "id")
    (R := fun _ _ => True) fun c hc => ⟨_, member_ok.2 ⟨hall c hc, rfl⟩, trivial⟩
  refine ⟨ids, ?_⟩
  rw [hb, componentIds, if_neg (by simp [JsValue.isNullish])]
  exact bind_ok.2 ⟨components, elements_ok.2 hc, hids⟩

theorem findStatement_ok {mapping : JsValue} {statements : List JsValue}
    (hm : mapping.isNullish = false) (hs : ∀ s ∈ statements, s.isNullish = false) :
    ∃ s, findStatement mapping statements = .ok s ∧ (s = .undefined ∨ s ∈ statements) := by
  induction statements with
  | nil => exact ⟨.undefined, rfl, .inl rfl⟩
  | cons c statements ih =>
    obtain ⟨hc, hs⟩ := List.forall_mem_cons.1 hs
    obtain ⟨s, hfound, hmem⟩ := ih hs
    by_cases hsame : (c.optional "controlId").strictEq (mapping.optional "controlId") = true
    · refine ⟨c, ?_, .inr List.mem_cons_self⟩
      refine bind_ok.2 ⟨_, member_ok.2 ⟨hc, rfl⟩, bind_ok.2 ⟨_, member_ok.2 ⟨hm, rfl⟩, ?_⟩⟩
      rw [if_pos hsame]
      rfl
    · refine ⟨s, ?_, hmem.imp_right (List.mem_cons_of_mem _)⟩
      refine bind_ok.2 ⟨_, member_ok.2 ⟨hc, rfl⟩, bind_ok.2 ⟨_, member_ok.2 ⟨hm, rfl⟩, ?_⟩⟩
      rw [if_neg hsame]
      exact hfound

theorem Draft.statement (h : Draft draft) {mapping : JsValue} (hm : mapping.isNullish = false) :
    ∃ s, ((JsonRecord.get draft "controlStatements").elements "find" >>= findStatement mapping) =
      .ok s ∧ (s = .undefined ∨ StatementShape s) := by
  obtain ⟨statements, hs, hall⟩ := h.statements
  have hpresent : ∀ s ∈ statements, s.isNullish = false := fun s hmem =>
    let ⟨_, hid⟩ := (hall s hmem).controlId
    isNullish_of_str hid
  obtain ⟨s, hfound, hmem⟩ := findStatement_ok hm hpresent
  exact ⟨s, bind_ok.2 ⟨statements, elements_ok.2 hs, hfound⟩, hmem.imp_right (hall s)⟩

theorem Draft.implementation (h : Draft draft) {mapping : JsValue} (hm : MappingShape mapping) :
    ∃ fields, buildOscalControlImplementation (JsonRecord.get draft "controlStatements") mapping =
      .ok fields := by
  obtain ⟨_, hid⟩ := hm.controlId
  have hpresent := isNullish_of_str hid
  obtain ⟨s, hs, -⟩ := h.statement hpresent
  obtain ⟨statements, hstatements, hs⟩ := bind_ok.1 hs
  exact ⟨_, bind_ok.2 ⟨statements, hstatements, bind_ok.2 ⟨s, hs,
    bind_ok.2 ⟨_, member_ok.2 ⟨hpresent, rfl⟩, rfl⟩⟩⟩⟩

theorem Draft.oscal (h : Draft draft) (scope : JsValue) (poam : JsonRecord) :
    ∃ oscal, buildOscalArtifacts draft scope (.obj poam) = .ok oscal ∧ oscal.isNullish = false ∧
      (∀ part ∈ oscalParts, ∃ fields, oscal.optional part = .obj fields) ∧
      (oscal.optional "systemSecurityPlan").optional "deploymentScope" = scope := by
  obtain ⟨mappings, hmappings, hshape⟩ := h.mappings
  obtain ⟨implementations, hall, -⟩ := mapM_exists (R := fun _ _ => True) fun m hm =>
    let ⟨fields, hf⟩ := h.implementation (hshape m hm)
    ⟨fields, hf, trivial⟩
  obtain ⟨id, hid⟩ := h.exportId
  obtain ⟨fields, components, hb, -, -⟩ := h.boundary
  refine ⟨_, bind_ok.2 ⟨mappings, elements_ok.2 hmappings, bind_ok.2 ⟨implementations, hall,
    bind_ok.2 ⟨_, by rw [hid]; rfl, bind_ok.2 ⟨_, by rw [hb]; rfl, bind_ok.2 ⟨_, by rw [hb]; rfl,
      bind_ok.2 ⟨_, by rw [hb]; rfl, rfl⟩⟩⟩⟩⟩⟩, rfl, ?_, rfl⟩
  intro part hpart
  simp only [oscalParts, List.mem_cons, List.not_mem_nil, or_false] at hpart
  rcases hpart with rfl | rfl | rfl | rfl <;> exact ⟨_, rfl⟩

/-- What the trace of a mapping says. -/
structure TraceView (trace mapping scope : JsValue) (ref : EvidencePackageSignatureRef) : Prop where
  present : trace.toBoolean = true
  traceId : ∃ id, trace.optional "traceId" = .str id
  controlId : trace.optional "controlId" = mapping.optional "controlId"
  sourceEventIds : trace.optional "sourceEventIds" = mapping.optional "sourceEventIds"
  signatureRef : trace.optional "signatureRef" = ref.toJs
  deploymentScope : trace.optional "deploymentScope" = scope
  reviewedAt : ((trace.optional "reviewedStatement").optional "reviewedAt").toBoolean = true
  reviewerRole : ((trace.optional "reviewedStatement").optional "reviewerRole").toBoolean = true

theorem Draft.traceView (h : Draft draft) {scope oscal mapping : JsValue}
    (hscope : (scope.optional "periodEnd").toBoolean = true) (hpresent : oscal.isNullish = false)
    (hoscal : ∀ part ∈ oscalParts, ∃ fields, oscal.optional part = .obj fields)
    (ref : EvidencePackageSignatureRef) (hm : MappingShape mapping) :
    ∃ trace, buildControlTraceView (JsonRecord.get draft "exportId")
      (JsonRecord.get draft "controlStatements") scope oscal ref mapping = .ok trace ∧
      TraceView trace mapping scope ref := by
  obtain ⟨id, hid⟩ := h.exportId
  obtain ⟨controlId, hcontrol⟩ := hm.controlId
  have hmapping := isNullish_of_str hcontrol
  obtain ⟨s, hs, hshape⟩ := h.statement hmapping
  obtain ⟨statements, hstatements, hs⟩ := bind_ok.1 hs
  have huuid : ∀ part ∈ oscalParts, ∃ uuid, uuidOf oscal part = .ok uuid := by
    intro part hpart
    obtain ⟨fields, hfields⟩ := hoscal part hpart
    exact ⟨_, bind_ok.2 ⟨_, member_ok.2 ⟨hpresent, rfl⟩, by rw [hfields]; rfl⟩⟩
  obtain ⟨_, hcomponent⟩ := huuid "componentDefinition" (by simp [oscalParts])
  obtain ⟨_, hplan⟩ := huuid "systemSecurityPlan" (by simp [oscalParts])
  obtain ⟨_, hresults⟩ := huuid "assessmentResults" (by simp [oscalParts])
  obtain ⟨_, hpoam⟩ := huuid "planOfActionAndMilestones" (by simp [oscalParts])
  refine ⟨_, bind_ok.2 ⟨statements, hstatements, bind_ok.2 ⟨s, hs, bind_ok.2 ⟨_, by rw [hid]; rfl,
    bind_ok.2 ⟨_, member_ok.2 ⟨hmapping, rfl⟩, bind_ok.2 ⟨_, by rw [hcontrol]; rfl,
      bind_ok.2 ⟨_, hcomponent, bind_ok.2 ⟨_, hplan, bind_ok.2 ⟨_, hresults,
        bind_ok.2 ⟨_, hpoam, rfl⟩⟩⟩⟩⟩⟩⟩⟩⟩, rfl, ⟨_, rfl⟩, rfl, rfl, rfl, rfl, ?_, ?_⟩
  · refine toBoolean_coalesce ?_ hscope
    rcases hshape with rfl | hshape
    · exact .inl rfl
    · exact .inr hshape.reviewedAt
  · refine toBoolean_coalesce ?_ rfl
    rcases hshape with rfl | hshape
    · exact .inl rfl
    · exact .inr hshape.reviewerRole

/-- A draft completed with what is built, under the signature of a key. -/
structure Completed (draft content : JsonRecord) (scope : JsValue)
    (ref : EvidencePackageSignatureRef) : Prop where
  kept : ∀ k ∉ builtSections, JsonRecord.get content k = JsonRecord.get draft k
  poamExport : ∃ fields, JsonRecord.get content "poamExport" = .obj fields ∧
    JsonRecord.get fields "items" = JsonRecord.get draft "poamItems"
  oscal : ∀ part ∈ oscalParts, ∃ fields,
    (JsonRecord.get content "oscal").optional part = .obj fields
  plan : ((JsonRecord.get content "oscal").optional "systemSecurityPlan").optional
    "deploymentScope" = scope
  traces : ∃ mappings views, JsonRecord.get draft "controlMappings" = .arr mappings ∧
    JsonRecord.get content "controlTraceViews" = .arr views ∧
    List.Forall₂ (fun m trace => TraceView trace m scope ref) mappings views

theorem Draft.completed (h : Draft draft) (keyId : CanonicalId) :
    ∃ content ids packageId, buildEvidencePackageContent draft (some keyId) = .ok content ∧
      componentIds (JsonRecord.get draft "systemBoundary") = .ok ids ∧
      signedEvidencePackageId (JsonRecord.get draft "exportId") = .ok packageId ∧
      Completed draft content (deploymentScopeOf draft ids) ⟨packageId, keyId⟩ := by
  obtain ⟨id, hid⟩ := h.exportId
  obtain ⟨ids, hids⟩ := h.scopeIds
  obtain ⟨mappings, hmappings, hshape⟩ := h.mappings
  obtain ⟨packageId, hpackage⟩ : ∃ packageId,
      signedEvidencePackageId (JsonRecord.get draft "exportId") = .ok packageId :=
    ⟨_, by rw [hid]; rfl⟩
  obtain ⟨poam, hpoam, hitems⟩ : ∃ fields,
      buildPoamExport (JsonRecord.get draft "exportId") (JsonRecord.get draft "poamItems")
        (JsonRecord.get draft "controls") (JsonRecord.get draft "generatedAt") =
        .ok (.obj fields) ∧ JsonRecord.get fields "items" = JsonRecord.get draft "poamItems" :=
    ⟨_, by rw [hid]; rfl, rfl⟩
  have hbuild : ∀ name ∈ builtSections, ∀ build : Except TypeFault JsValue,
      givenOr (JsonRecord.get draft name) build = build := fun name hname build => by
    rw [givenOr, if_pos (h.unbuilt name hname)]
  obtain ⟨oscal, hoscal, hpresent, hparts, hplan⟩ := h.oscal (deploymentScopeOf draft ids) poam
  have hend : ((deploymentScopeOf draft ids).optional "periodEnd").toBoolean = true :=
    toBoolean_coalesce (.inr h.periodEnd) rfl
  obtain ⟨views, hviews, hall⟩ := mapM_exists fun m hm =>
    h.traceView hend hpresent hparts ⟨packageId, keyId⟩ (hshape m hm)
  refine ⟨_, ids, packageId, bind_ok.2 ⟨_, bind_ok.2 ⟨ids, hids, rfl⟩, bind_ok.2 ⟨.obj poam, ?_,
    bind_ok.2 ⟨oscal, ?_, bind_ok.2 ⟨packageId, hpackage, bind_ok.2 ⟨.arr views, ?_, rfl⟩⟩⟩⟩⟩,
    hids, hpackage, ?_⟩
  · rw [hbuild _ (by simp [builtSections])]
    exact hpoam
  · rw [hbuild _ (by simp [builtSections])]
    exact hoscal
  · rw [hbuild _ (by simp [builtSections])]
    exact bind_ok.2 ⟨mappings, elements_ok.2 hmappings, bind_ok.2 ⟨views, hviews, rfl⟩⟩
  · have hset : ∀ k, JsonRecord.get (JsonRecord.set "controlTraceViews" (.arr views)
        (JsonRecord.set "oscal" oscal (JsonRecord.set "poamExport" (.obj poam) draft))) k =
        if "controlTraceViews" = k then .arr views else if "oscal" = k then oscal
        else if "poamExport" = k then .obj poam else JsonRecord.get draft k := fun k => by
      rw [JsonRecord.get_set, JsonRecord.get_set, JsonRecord.get_set]
    refine ⟨fun k hk => ?_, ⟨poam, hset _, hitems⟩, ?_, ?_, mappings, views, hmappings, hset _,
      hall⟩
    · simp only [builtSections, List.mem_cons, List.not_mem_nil, or_false, not_or] at hk
      rw [hset, if_neg (Ne.symm hk.2.2), if_neg (Ne.symm hk.2.1), if_neg (Ne.symm hk.1)]
    · rw [hset]
      exact hparts
    · rw [hset]
      exact hplan

end

end AccessKit.L2.Evidence
