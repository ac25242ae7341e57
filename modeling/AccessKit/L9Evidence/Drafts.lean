import AccessKit.L2Audit.EvidenceReadBack
import AccessKit.L9Evidence.Export

/-!
# The draft of an export

packages/api/src/runtime-evidence-export.ts:124-188: what the runtime drafts has the type
of a draft, is JSON, and maps a control that is asked for twice to the same events, so
that it can be finalized and its package verified.

Results:
* `buildControlStatements_iff`: when the statements of controls are written.
* `draft_evidenceDraft`, `isJson_evidenceDraft`: what is drafted is a draft, of JSON.
* `sameEvents_evidenceDraft`: and its mappings agree.
-/
namespace AccessKit.L9
open AccessKit.Core AccessKit.L1 AccessKit.L8
open AccessKit.L2.Audit (AuditEvent AuditIntegrityReport bind_ok natural optional strings)
open AccessKit.L2.Evidence (Draft EachItem MappingShape Named NamedBoundary SameEvents
  StatementShape IsPart givenSections isJson_fields isPart_json isPart_str isPart_fields)

/-! ## Controls -/

/-- No control has a name that every object inherits. -/
def NoInherited (controls : List String) : Prop := ∀ c ∈ controls, isInherited c = false

instance (controls : List String) : Decidable (NoInherited controls) :=
  inferInstanceAs (Decidable (∀ c ∈ controls, isInherited c = false))

section
variable {events : List AuditEvent} {controls : List String} {controlId : String}
  {artifacts : List EvidenceArtifact} {generatedAt : IsoDateTime}

/-- What is found under a name has all of a definition, unless every object inherits it. -/
theorem definition_cases (controlId : String) :
    isInherited controlId = false ∧ (getControlImplementationDefinition controlId = none ∨
      ∃ summary types prefixes,
        getControlImplementationDefinition controlId = some (known summary types prefixes)) ∨
    isInherited controlId = true ∧
      getControlImplementationDefinition controlId = some ⟨none, none, none⟩ := by
  have hcatalog : ∀ p ∈ controlImplementationCatalog, isInherited p.1 = false ∧
      ∃ summary types prefixes, p.2 = known summary types prefixes := by
    simp only [controlImplementationCatalog, List.forall_mem_cons, List.not_mem_nil,
      false_imp_iff, implies_true, and_true]
    refine ⟨?_, ?_, ?_, ?_, ?_, ?_, ?_, ?_⟩ <;> exact ⟨by decide, _, _, _, rfl⟩
  unfold getControlImplementationDefinition
  cases hfound : controlImplementationCatalog.find? fun p => p.1 == controlId with
  | some p =>
    have hname : p.1 = controlId := by simpa using List.find?_some hfound
    obtain ⟨hinherited, summary, types, prefixes, hp⟩ :=
      hcatalog p (List.mem_of_find?_eq_some hfound)
    exact .inl ⟨hname ▸ hinherited, .inr ⟨summary, types, prefixes, congrArg some hp⟩⟩
  | none =>
    cases hinherited : isInherited controlId with
    | true => exact .inr ⟨rfl, rfl⟩
    | false => exact .inl ⟨rfl, .inl rfl⟩

theorem buildControlMapping_controlId {m : EvidenceControlMapping}
    (h : buildControlMapping events controlId = .ok m) : m.controlId = controlId := by
  unfold buildControlMapping at h
  split at h
  · cases h
    rfl
  · obtain ⟨_, -, h⟩ := bind_ok.1 h
    cases h
    rfl

theorem buildControlMapping_ok (h : isInherited controlId = false) :
    ∃ m, buildControlMapping events controlId = .ok m ∧ ∃ types, m.evidenceTypes = some types := by
  unfold buildControlMapping
  rcases definition_cases controlId with ⟨-, hnone | ⟨summary, types, prefixes, hsome⟩⟩ | ⟨hin, -⟩
  · rw [hnone]
    exact ⟨_, rfl, _, rfl⟩
  · rw [hsome]
    exact ⟨_, bind_ok.2 ⟨_, rfl, rfl⟩, _, rfl⟩
  · rw [h] at hin
    cases hin

theorem buildControlMapping_inherited (h : isInherited controlId = true)
    {m : EvidenceControlMapping} (hm : buildControlMapping events controlId = .ok m) :
    m.evidenceTypes = none := by
  unfold buildControlMapping at hm
  rcases definition_cases controlId with ⟨hin, -⟩ | ⟨-, hsome⟩
  · rw [h] at hin
    cases hin
  · rw [hsome] at hm
    obtain ⟨_, -, hm⟩ := bind_ok.1 hm
    cases hm
    rfl

/-- The first artifact of an export is none of the control mapping. -/
theorem buildControlStatement_ok {m : EvidenceControlMapping} {format : EvidenceExportFormat}
    {eventCount : Nat} :
    (∃ s, buildControlStatement (buildEvidenceArtifacts format eventCount) generatedAt m = .ok s) ↔
      ∃ types, m.evidenceTypes = some types := by
  constructor
  · rintro ⟨s, hs⟩
    obtain ⟨_, hnames, -⟩ := bind_ok.1 hs
    obtain ⟨supports, hsupports, -⟩ := bind_ok.1 hnames
    cases htypes : m.evidenceTypes with
    | some types => exact ⟨types, rfl⟩
    | none =>
      cases mapM_ok.1 hsupports with
      | cons hfirst _ => simp [artifactSupportsMapping, htypes] at hfirst
  · rintro ⟨types, htypes⟩
    have hsupports : ∀ a ∈ buildEvidenceArtifacts format eventCount,
        ∃ b, artifactSupportsMapping m a = .ok b ∧ True := by
      intro a _
      unfold artifactSupportsMapping
      split
      · exact ⟨_, rfl, trivial⟩
      · rw [htypes]
        exact ⟨_, rfl, trivial⟩
    obtain ⟨supports, hall, -⟩ := mapM_forall.2 hsupports
    exact ⟨_, bind_ok.2 ⟨_, bind_ok.2 ⟨supports, hall, rfl⟩, rfl⟩⟩

theorem buildControlMappings_ok {mappings : List EvidenceControlMapping}
    (h : buildControlMappings controls events = .ok mappings) :
    ∀ m ∈ mappings, m.controlId ∈ controls ∧ buildControlMapping events m.controlId = .ok m := by
  intro m hm
  obtain ⟨c, hc, hbuilt⟩ := forall₂_exists_right (mapM_ok.1 h).flip hm
  rw [buildControlMapping_controlId hbuilt]
  exact ⟨hc, hbuilt⟩

theorem exists_mappings (h : NoInherited controls) (events : List AuditEvent) :
    ∃ mappings, buildControlMappings controls events = .ok mappings := by
  have hmapped : ∀ c ∈ controls, ∃ m, buildControlMapping events c = .ok m ∧
      ∃ types, m.evidenceTypes = some types := fun c hc => buildControlMapping_ok (h c hc)
  obtain ⟨mappings, hmappings, -⟩ := mapM_forall.2 hmapped
  exact ⟨mappings, hmappings⟩

/-- **The statements** of mappings are written exactly if no control has an inherited
name. -/
theorem buildControlStatements_iff {mappings : List EvidenceControlMapping}
    (h : buildControlMappings controls events = .ok mappings) (format : EvidenceExportFormat)
    (eventCount : Nat) :
    (∃ statements, buildControlStatements mappings (buildEvidenceArtifacts format eventCount)
      generatedAt = .ok statements) ↔ NoInherited controls := by
  constructor
  · rintro ⟨statements, hstatements⟩ c hc
    obtain ⟨m, hm, hbuilt⟩ := forall₂_exists_right (mapM_ok.1 h) hc
    obtain ⟨s, -, hs⟩ := forall₂_exists_right (mapM_ok.1 hstatements) hm
    obtain ⟨types, htypes⟩ := buildControlStatement_ok.1 ⟨s, hs⟩
    cases hinherited : isInherited c with
    | false => rfl
    | true =>
      rw [buildControlMapping_inherited hinherited hbuilt] at htypes
      cases htypes
  · intro hcontrols
    have hstated : ∀ m ∈ mappings, ∃ s, buildControlStatement
        (buildEvidenceArtifacts format eventCount) generatedAt m = .ok s ∧ True := by
      intro m hm
      obtain ⟨hc, hbuilt⟩ := buildControlMappings_ok h m hm
      obtain ⟨m', hbuilt', htypes⟩ := buildControlMapping_ok (hcontrols _ hc)
      obtain rfl := Except.ok.inj (hbuilt.symm.trans hbuilt')
      obtain ⟨s, hs⟩ := buildControlStatement_ok.2 htypes
      exact ⟨s, hs, trivial⟩
    obtain ⟨statements, hstatements, -⟩ := mapM_forall.2 hstated
    exact ⟨statements, hstatements⟩

end

/-! ## The type of a draft -/

section
variable {connectors : List RegisteredConnector} {counts : StoreCounts}
  {driftFindings : List DriftFinding} {i : ExportInputs} {mappings : List EvidenceControlMapping}
  {items statements : List JsValue}

theorem statementShape {artifacts : List EvidenceArtifact} {generatedAt : IsoDateTime}
    (hat : generatedAt ≠ "") {m : EvidenceControlMapping} {s : JsValue}
    (h : buildControlStatement artifacts generatedAt m = .ok s) : StatementShape s := by
  obtain ⟨names, -, h⟩ := bind_ok.1 h
  cases h
  refine ⟨⟨_, rfl⟩, rfl, ?_⟩
  change (JsValue.str generatedAt).toBoolean = true
  simpa [JsValue.toBoolean] using hat

theorem named_poamItems {H : Host} {report : AuditIntegrityReport} {generatedAt : IsoDateTime}
    {findings : List GovernanceFinding}
    (h : buildPoamItems H mappings report generatedAt findings = .ok items) :
    ∀ item ∈ items, IsJson item ∧ Named "id" item := by
  have hkeys : ["id", "controlId", "weakness", "status", "ownerRole", "plannedCompletion",
      "source"].Nodup := by decide
  have hitem : ∀ id controlId weakness status ownerRole plannedCompletion source,
      IsJson (poamItem id controlId weakness status ownerRole plannedCompletion source) ∧
      Named "id" (poamItem id controlId weakness status ownerRole plannedCompletion source) :=
    fun _ _ _ _ _ _ _ => ⟨isJson_fields hkeys ⟨isPart_str _, isPart_str _, isPart_str _,
      isPart_str _, isPart_str _, isPart_str _, isPart_str _⟩, _, rfl⟩
  obtain ⟨plannedCompletion, -, h⟩ := bind_ok.1 h
  cases h
  intro item hmem
  rcases List.mem_append.1 hmem with hmem | hmem
  · rcases List.mem_append.1 hmem with hmem | hmem
    · split at hmem
      · rw [List.mem_singleton.1 hmem]
        exact hitem _ _ _ _ _ _ _
      · cases hmem
    · obtain ⟨m, -, rfl⟩ := List.mem_map.1 hmem
      exact hitem _ _ _ _ _ _ _
  · obtain ⟨finding, -, rfl⟩ := List.mem_map.1 hmem
    exact hitem _ _ _ _ _ _ _

theorem boundaryComponents :
    ∀ c ∈ runtimeComponents ++ connectors.map connectorComponent, ∃ id name type zone description,
      c = boundaryComponent id name type zone description := by
  intro c hc
  rcases List.mem_append.1 hc with hc | hc
  · simp only [runtimeComponents, List.mem_cons, List.not_mem_nil, or_false] at hc
    rcases hc with rfl | rfl | rfl | rfl | rfl <;> exact ⟨_, _, _, _, _, rfl⟩
  · obtain ⟨connector, -, rfl⟩ := List.mem_map.1 hc
    exact ⟨_, _, _, _, _, rfl⟩

/-- **What is drafted** has the type of a draft. -/
theorem draft_evidenceDraft (hitems : ∀ item ∈ items, Named "id" item)
    (hstatements : ∀ s ∈ statements, StatementShape s) (hstart : i.periodStart ≠ "")
    (hend : i.periodEnd ≠ "") :
    Draft (evidenceDraft connectors counts driftFindings i mappings items statements) where
  exportId := ⟨_, rfl⟩
  boundary := by
    refine ⟨_, _, rfl, rfl, fun c hc => ?_⟩
    obtain ⟨_, _, _, _, _, rfl⟩ := boundaryComponents c hc
    rfl
  periodStart := by
    change (JsValue.str i.periodStart).toBoolean = true
    simpa [JsValue.toBoolean] using hstart
  periodEnd := by
    change (JsValue.str i.periodEnd).toBoolean = true
    simpa [JsValue.toBoolean] using hend
  mappings := by
    refine ⟨_, rfl, fun m hm => ?_⟩
    obtain ⟨m, -, rfl⟩ := List.mem_map.1 hm
    exact ⟨⟨_, rfl⟩, ⟨_, rfl⟩⟩
  statements := ⟨_, rfl, hstatements⟩
  poamItems := ⟨_, rfl, hitems⟩
  given := by simp [givenSections, evidenceDraft, JsonRecord.get]
  unbuilt := by simp [L2.Evidence.builtSections, evidenceDraft, JsonRecord.get, JsValue.isNullish]

theorem namedBoundary_evidenceDraft : NamedBoundary
    (evidenceDraft connectors counts driftFindings i mappings items statements) := by
  intro components hcomponents c hc
  have hgiven : (JsValue.arr (runtimeComponents ++ connectors.map connectorComponent)) =
      .arr components := hcomponents
  cases hgiven
  obtain ⟨id, _, _, _, _, rfl⟩ := boundaryComponents c hc
  exact ⟨id, rfl⟩

/-- **The mappings of one control** are one mapping. -/
theorem sameEvents_evidenceDraft {controls : List String} {events : List AuditEvent}
    (h : buildControlMappings controls events = .ok mappings) : SameEvents
      (evidenceDraft connectors counts driftFindings i mappings items statements) := by
  intro given hgiven m hm m' hm' hid ids ids' hids hids'
  have hgiven : (JsValue.arr (mappings.map EvidenceControlMapping.toJs)) = .arr given := hgiven
  cases hgiven
  obtain ⟨a, ha, rfl⟩ := List.mem_map.1 hm
  obtain ⟨b, hb, rfl⟩ := List.mem_map.1 hm'
  have hsame : a.controlId = b.controlId := JsValue.str.inj hid
  have hbuilt := (buildControlMappings_ok h a ha).2
  rw [hsame, (buildControlMappings_ok h b hb).2] at hbuilt
  cases hbuilt
  have hmap := JsValue.arr.inj (hids.symm.trans hids')
  rw [List.map_injective_iff.2 (fun _ _ => JsValue.str.inj) hmap]

end

/-! ## What is drafted is JSON -/

theorem isPart_strings (l : List String) : IsPart (strings l) := by
  refine isPart_json (.arr fun v hv => ?_)
  obtain ⟨s, -, rfl⟩ := List.mem_map.1 hv
  exact .str s

theorem isPart_natural (n : Nat) : IsPart (natural n) := isPart_json (.num _)

theorem isPart_optional (o : Option String) : IsPart (optional o) := by
  cases o with
  | none => exact fun h => absurd rfl h
  | some s => exact isPart_str s

theorem isPart_map {α : Type} {f : α → JsValue} {l : List α} (h : ∀ a, IsJson (f a)) :
    IsPart (.arr (l.map f)) := by
  refine isPart_json (.arr fun v hv => ?_)
  obtain ⟨a, -, rfl⟩ := List.mem_map.1 hv
  exact h a

theorem isJson_integrityReport (report : AuditIntegrityReport) :
    IsJson (.obj (integrityReportJs report)) := by
  have hfinding : ["code", "message", "severity", "eventId", "expected", "actual"].Nodup := by
    decide
  have hkeys : ["status", "eventCount", "verifiedAt", "firstEventId", "lastEventId",
      "firstEventHash", "lastEventHash", "findings", "version", "auditEventId"].Nodup := by decide
  refine isJson_fields hkeys ⟨isPart_str _, isPart_natural _, isPart_str _, isPart_optional _,
    isPart_optional _, isPart_optional _, isPart_optional _, isPart_map fun f => ?_, isPart_str _,
    isPart_optional none⟩
  exact isJson_fields hfinding ⟨isPart_str _, isPart_str _, isPart_str _, isPart_optional _,
    isPart_optional _, isPart_optional _⟩

theorem isPart_evidenceTypes (types : Option (List String)) :
    IsPart (L3.optionalJs strings types) := by
  cases types with
  | none => exact fun h => absurd rfl h
  | some types => exact isPart_strings types

theorem isJson_mapping (m : EvidenceControlMapping) : IsJson m.toJs := by
  have hkeys : ["controlId", "family", "status", "implementationSummary", "evidenceTypes",
      "sourceEventIds", "gaps"].Nodup := by decide
  exact isJson_fields hkeys ⟨isPart_str _, isPart_str _, isPart_str _, isPart_optional _,
    isPart_evidenceTypes _, isPart_strings _, isPart_strings _⟩

theorem isJson_artifact (a : EvidenceArtifact) : IsJson a.toJs := by
  have hcounted : ["name", "type", "description", "eventCount", "format"].Nodup := by decide
  have hkeys : ["name", "type", "description", "format"].Nodup := by decide
  obtain ⟨name, type, description, eventCount, format⟩ := a
  cases eventCount with
  | none => exact isJson_fields hkeys ⟨isPart_str _, isPart_str _, isPart_str _, isPart_str _⟩
  | some count =>
    exact isJson_fields hcounted
      ⟨isPart_str _, isPart_str _, isPart_str _, isPart_natural _, isPart_str _⟩

theorem isJson_statement {artifacts : List EvidenceArtifact} {generatedAt : IsoDateTime}
    {m : EvidenceControlMapping} {s : JsValue}
    (h : buildControlStatement artifacts generatedAt m = .ok s) : IsJson s := by
  obtain ⟨names, -, h⟩ := bind_ok.1 h
  cases h
  have hkeys : ["controlId", "status", "statement", "responsibleRole", "reviewerRole",
      "reviewedAt", "evidenceTypes", "sourceArtifactNames", "gaps"].Nodup := by decide
  exact isJson_fields hkeys ⟨isPart_str _, isPart_str _, isPart_str _, isPart_str _, isPart_str _,
    isPart_str _, isPart_evidenceTypes _, isPart_strings _, isPart_strings _⟩

theorem isJson_boundaryComponent (id : CanonicalId) (name type zone description : String) :
    IsJson (boundaryComponent id name type zone description) := by
  have hkeys : ["id", "name", "type", "trustZone", "dataClassification",
      "description"].Nodup := by decide
  exact isJson_fields hkeys ⟨isPart_str _, isPart_str _, isPart_str _, isPart_str _, isPart_str _,
    isPart_str _⟩

theorem isJson_systemBoundary (connectors : List RegisteredConnector) :
    IsJson (buildSystemBoundary connectors) := by
  have hkeys : ["boundaryId", "name", "description", "environment", "liveTenantData", "components",
      "externalSystems", "assumptions", "version"].Nodup := by decide
  refine isJson_fields hkeys ⟨isPart_str _, isPart_str _, isPart_str _, isPart_str _,
    isPart_json (.bool _), isPart_json (.arr fun c hc => ?_), isPart_strings _, isPart_strings _,
    isPart_str _⟩
  obtain ⟨_, _, _, _, _, rfl⟩ := boundaryComponents c hc
  exact isJson_boundaryComponent _ _ _ _ _

theorem isJson_dataFlow (id : CanonicalId) (name : String) (source destination : CanonicalId)
    (dataTypes protections : List String) :
    IsJson (dataFlow id name source destination dataTypes protections) := by
  have hkeys : ["id", "name", "source", "destination", "dataTypes", "protections",
      "liveTenantData"].Nodup := by decide
  exact isJson_fields hkeys ⟨isPart_str _, isPart_str _, isPart_str _, isPart_str _,
    isPart_strings _, isPart_strings _, isPart_json (.bool _)⟩

theorem isJson_dataFlows (connectors : List RegisteredConnector) :
    ∀ flow ∈ buildDataFlows connectors, IsJson flow := by
  intro flow hflow
  simp only [buildDataFlows, List.mem_append, List.mem_cons, List.not_mem_nil, or_false,
    List.mem_map] at hflow
  rcases hflow with ((rfl | rfl | rfl) | ⟨connector, -, rfl⟩) | rfl <;>
    exact isJson_dataFlow _ _ _ _ _ _

theorem isJson_conMonMetric (name : String) (value : Nat) (unit source : String) :
    IsJson (conMonMetric name value unit source) := by
  have hkeys : ["name", "value", "unit", "source"].Nodup := by decide
  exact isJson_fields hkeys ⟨isPart_str _, isPart_natural _, isPart_str _, isPart_str _⟩

theorem isJson_conMonMetrics (i : ExportInputs) (counts : StoreCounts)
    (driftFindings : List DriftFinding) :
    ∀ metric ∈ buildConMonMetrics counts driftFindings i.events i.auditIntegrity i.governance,
      IsJson metric := by
  simp only [buildConMonMetrics, List.forall_mem_cons, List.not_mem_nil, false_imp_iff,
    implies_true, and_true]
  refine ⟨?_, ?_, ?_, ?_, ?_, ?_, ?_, ?_, ?_, ?_, ?_, ?_, ?_, ?_, ?_, ?_⟩ <;>
    exact isJson_conMonMetric _ _ _ _

theorem isJson_operationalEvidence (generatedAt : IsoDateTime) :
    ∀ item ∈ buildOperationalEvidence generatedAt, IsJson item := by
  have hkeys : ["id", "type", "status", "ownerRole", "generatedAt", "summary", "evidenceRefs",
      "gaps"].Nodup := by decide
  have hitem : ∀ id type status ownerRole summary evidenceRefs gaps, IsJson (operationalEvidence
      generatedAt id type status ownerRole summary evidenceRefs gaps) := fun _ _ _ _ _ _ _ =>
    isJson_fields hkeys ⟨isPart_str _, isPart_str _, isPart_str _, isPart_str _, isPart_str _,
      isPart_str _, isPart_strings _, isPart_strings _⟩
  intro item hmem
  simp only [buildOperationalEvidence, List.mem_cons, List.not_mem_nil, or_false] at hmem
  rcases hmem with rfl | rfl | rfl | rfl | rfl | rfl | rfl | rfl <;> exact hitem _ _ _ _ _ _ _

theorem isJson_approval (a : GovernanceApproval) : IsJson a.toJs := by
  have hkeys : ["approverRole", "decision", "decidedAt", "evidenceRefs"].Nodup := by decide
  exact isJson_fields hkeys ⟨isPart_str _, isPart_str _, isPart_optional _, isPart_strings _⟩

theorem isJson_accessReview (reviewedAt : IsoDateTime) (campaign : AccessReviewCampaign) :
    IsJson (accessReview reviewedAt campaign) := by
  have hkeys : ["reviewId", "campaignId", "scope", "ownerRole", "reviewerRole", "status",
      "reviewedAt", "dueAt", "completedAt", "subjectCount", "resourceCount", "findingCount",
      "exceptionCount", "findingIds", "exceptionRequestIds", "remediationItemIds",
      "ownerApprovals", "sourceEventIds", "version"].Nodup := by decide
  exact isJson_fields hkeys ⟨isPart_str _, isPart_str _, isPart_str _, isPart_str _, isPart_str _,
    isPart_str _, isPart_str _, isPart_str _, isPart_optional _, isPart_natural _,
    isPart_natural _, isPart_natural _, isPart_natural _, isPart_strings _, isPart_strings _,
    isPart_strings _, isPart_map isJson_approval, isPart_strings _, isPart_str _⟩

theorem isJson_exceptionRecord (request : ExceptionRequest) :
    IsJson (exceptionRecord request) := by
  have hkeys : ["id", "subjectId", "resourceId", "action", "reason", "status", "requestStatus",
      "requesterRole", "ownerRole", "approverRole", "requestedAt", "expiresAt",
      "reviewRequiredAt", "ownerApprovals", "riskAcceptance", "remediation", "source", "findingId",
      "sourceFindingId", "controlIds", "evidenceRefs", "version"].Nodup := by decide
  have hacceptance : ["status", "acceptedByRole", "acceptedAt", "rationale", "residualRisk",
      "expiresAt", "reviewRequiredAt", "evidenceRefs"].Nodup := by decide
  have hremediation : ["status", "ownerRole", "plan", "dueAt", "completedAt", "evidenceRefs",
      "poamItemId"].Nodup := by decide
  refine isJson_fields hkeys ⟨isPart_str _, isPart_str _, isPart_str _, isPart_str _, isPart_str _,
    isPart_str _, isPart_str _, isPart_str _, isPart_str _, isPart_str _, isPart_str _,
    isPart_str _, isPart_str _, isPart_map isJson_approval, ?_, ?_, isPart_str _, isPart_str _,
    isPart_optional _, isPart_strings _, isPart_strings _, isPart_str _⟩
  · exact isPart_fields hacceptance ⟨isPart_str _, isPart_optional _, isPart_optional _,
      isPart_str _, isPart_str _, isPart_str _, isPart_str _, isPart_strings _⟩
  · exact isPart_fields hremediation ⟨isPart_str _, isPart_str _, isPart_str _, isPart_str _,
      isPart_optional _, isPart_strings _, isPart_str _⟩

/-- **What is drafted** is JSON. -/
theorem isJson_evidenceDraft {connectors : List RegisteredConnector} {counts : StoreCounts}
    {driftFindings : List DriftFinding} {i : ExportInputs}
    {mappings : List EvidenceControlMapping} {items statements : List JsValue}
    (hitems : ∀ item ∈ items, IsJson item) (hstatements : ∀ s ∈ statements, IsJson s) :
    IsJson (.obj (evidenceDraft connectors counts driftFindings i mappings items statements)) := by
  have hkeys : ["exportId", "framework", "controls", "periodStart", "periodEnd", "generatedAt",
      "evidenceTypes", "sourceEventIds", "responsibleRole", "format", "auditIntegrity",
      "controlMappings", "artifacts", "conmonMetrics", "poamItems", "siemExport",
      "systemBoundary", "dataFlows", "controlStatements", "accessReviews", "exceptionRegister",
      "operationalEvidence"].Nodup := by decide
  have hsiem : ["format", "eventCount", "schemaVersion", "includesPayloadHashes",
      "target"].Nodup := by decide
  refine isJson_fields hkeys ⟨isPart_str _, isPart_str _, isPart_strings _, isPart_str _,
    isPart_str _, isPart_str _, isPart_strings _, isPart_strings _, isPart_str _, isPart_str _,
    isPart_json (isJson_integrityReport _), isPart_map isJson_mapping,
    isPart_map isJson_artifact, isPart_json (.arr (isJson_conMonMetrics i counts driftFindings)),
    isPart_json (.arr hitems), ?_, isPart_json (isJson_systemBoundary connectors),
    isPart_json (.arr (isJson_dataFlows connectors)), isPart_json (.arr hstatements),
    isPart_map (isJson_accessReview _), isPart_map isJson_exceptionRecord,
    isPart_json (.arr (isJson_operationalEvidence _))⟩
  exact isPart_fields hsiem ⟨isPart_str _, isPart_natural _, isPart_str _, isPart_json (.bool _),
    isPart_str _⟩

end AccessKit.L9
