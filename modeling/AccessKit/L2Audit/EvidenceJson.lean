import AccessKit.L2Audit.EvidenceDrafts

/-!
# What is finalized is JSON

packages/core/src/evidence-package-builder.ts and evidence-integrity.ts:124-233: every
section that is built of a draft of JSON is JSON, unless a component of the boundary
has no identifier, and so are the manifest, the signed package and the checks.

Results:
* `Draft.isJson_signedEvidence`, `isJson_checked`: a signed draft, with its checks, is JSON.
-/
namespace AccessKit.L2.Evidence
open AccessKit.Core AccessKit.L1
open AccessKit.L2.Audit (bind_ok)

/-! ## Objects -/

/-- A value of JSON, where it is one that JSON writes. -/
def IsPart (v : JsValue) : Prop := v ≠ .undefined → IsJson v

section
variable {v w : JsValue}

theorem isPart_json (h : IsJson v) : IsPart v := fun _ => h

theorem isPart_str (s : String) : IsPart (.str s) := fun _ => .str s

theorem isPart_nil : IsPart (.arr []) := fun _ => .arr nofun

theorem IsPart.optional (h : IsPart v) (k : String) : IsPart (v.optional k) := isJson_optional h

theorem isPart_get {fields : JsonRecord} (h : IsJson (.obj fields)) (k : String) :
    IsPart (JsonRecord.get fields k) := isJson_get h

theorem IsPart.coalesce (hv : IsPart v) (hw : IsPart w) : IsPart (v.coalesce w) := by
  unfold JsValue.coalesce
  split
  · exact hw
  · exact hv

theorem IsPart.item {items : List JsValue} (h : IsPart v) (hv : v = .arr items) :
    ∀ a ∈ items, IsJson a := by
  subst hv
  cases h nofun with
  | arr h => exact h

theorem isJson_fields {fields : JsonRecord} (hkeys : (fields.map (·.1)).Nodup)
    (h : fields.Forall fun p => IsPart p.2) : IsJson (.obj fields) :=
  .obj hkeys (List.forall_iff_forall_mem.1 h)

theorem isPart_fields {fields : JsonRecord} (hkeys : (fields.map (·.1)).Nodup)
    (h : fields.Forall fun p => IsPart p.2) : IsPart (.obj fields) :=
  isPart_json (isJson_fields hkeys h)

theorem isPart_member {k : String} (hv : IsPart v) (h : v.member k = .ok w) : IsPart w := by
  obtain ⟨-, rfl⟩ := member_ok.1 h
  exact hv.optional k

end

/-! ## The sections that are built -/

section
variable {draft : JsonRecord} {v scope mapping statements : JsValue}

theorem isJson_buildPoamExport {exportId poamItems controls generatedAt : JsValue}
    (h : buildPoamExport exportId poamItems controls generatedAt = .ok v)
    (hitems : IsPart poamItems) (hcontrols : IsPart controls) (hat : IsPart generatedAt) :
    IsJson v := by
  obtain ⟨id, -, h⟩ := bind_ok.1 h
  cases h
  have hkeys : ["uuid", "title", "generatedAt", "items", "sourceControlIds", "version"].Nodup := by
    decide
  exact isJson_fields hkeys
    ⟨isPart_str _, isPart_str _, hat, hitems, hcontrols, isPart_str _⟩

theorem isPart_findStatement {s : JsValue} {items : List JsValue}
    (hs : ∀ s ∈ items, IsJson s) (h : findStatement mapping items = .ok s) : IsPart s := by
  induction items with
  | nil =>
    cases h
    exact fun hu => absurd rfl hu
  | cons c items ih =>
    obtain ⟨hc, hs⟩ := List.forall_mem_cons.1 hs
    obtain ⟨_, -, h⟩ := bind_ok.1 h
    obtain ⟨_, -, h⟩ := bind_ok.1 h
    split at h
    · cases h
      exact isPart_json hc
    · exact ih hs h

theorem isJson_implementation {fields : JsonRecord}
    (h : buildOscalControlImplementation statements mapping = .ok fields)
    (hstatements : IsPart statements) (hm : IsPart mapping) : IsJson (.obj fields) := by
  obtain ⟨items, hitems, h⟩ := bind_ok.1 h
  obtain ⟨s, hs, h⟩ := bind_ok.1 h
  obtain ⟨_, hid, h⟩ := bind_ok.1 h
  cases h
  have hs := isPart_findStatement (hstatements.item (elements_ok.1 hitems)) hs
  have hkeys : ["controlId", "status", "statement", "responsibleRole", "reviewerRole", "reviewedAt",
      "sourceEventIds", "sourceArtifactNames", "gaps"].Nodup := by decide
  exact isJson_fields hkeys ⟨isPart_member hm hid, (hs.optional _).coalesce (hm.optional _),
    (hs.optional _).coalesce (hm.optional _), (hs.optional _).coalesce (isPart_str _),
    (hs.optional _).coalesce (isPart_str _), (hs.optional _).coalesce (isPart_str _),
    hm.optional _, (hs.optional _).coalesce isPart_nil,
    (hs.optional _).coalesce (hm.optional _)⟩

theorem isJson_observation {fields : JsonRecord} (h : IsJson (.obj fields)) :
    IsJson (observation fields) := by
  have hkeys : ["controlId", "status", "sourceEventIds", "gaps"].Nodup := by decide
  exact isJson_fields hkeys ⟨isPart_get h _, isPart_get h _, isPart_get h _, isPart_get h _⟩

theorem isJson_buildOscalArtifacts {poamExport : JsValue} (hd : IsJson (.obj draft))
    (h : buildOscalArtifacts draft scope poamExport = .ok v) (hscope : IsPart scope)
    (hpoam : IsPart poamExport) : IsJson v := by
  obtain ⟨mappings, hmappings, h⟩ := bind_ok.1 h
  obtain ⟨implementations, hall, h⟩ := bind_ok.1 h
  obtain ⟨id, -, h⟩ := bind_ok.1 h
  obtain ⟨components, hcomponents, h⟩ := bind_ok.1 h
  obtain ⟨name, hname, h⟩ := bind_ok.1 h
  obtain ⟨boundaryId, hboundary, h⟩ := bind_ok.1 h
  cases h
  have hpart := isPart_get hd
  have himplementations : ∀ fields ∈ implementations, IsJson (.obj fields) := by
    intro fields hfields
    obtain ⟨m, hm, hbuilt⟩ := forall₂_exists_right (mapM_ok.1 hall).flip hfields
    exact isJson_implementation hbuilt (hpart _)
      (isPart_json ((hpart _).item (elements_ok.1 hmappings) m hm))
  have hwritten : IsPart (.arr (implementations.map .obj)) := by
    refine fun _ => .arr fun a ha => ?_
    obtain ⟨fields, hfields, rfl⟩ := List.mem_map.1 ha
    exact himplementations fields hfields
  have hobserved : IsPart (.arr (implementations.map observation)) := by
    refine fun _ => .arr fun a ha => ?_
    obtain ⟨fields, hfields, rfl⟩ := List.mem_map.1 ha
    exact isJson_observation (himplementations fields hfields)
  have hkeys : ["componentDefinition", "systemSecurityPlan", "assessmentResults",
      "planOfActionAndMilestones", "version"].Nodup := by decide
  have hcomponent : ["uuid", "title", "framework", "generatedAt", "components",
      "implementedRequirements", "version"].Nodup := by decide
  have hplan : ["uuid", "title", "systemName", "boundaryId", "deploymentScope", "dataFlows",
      "controlImplementationStatements", "version"].Nodup := by decide
  have hresults : ["uuid", "title", "generatedAt", "reviewedControls", "observations",
      "version"].Nodup := by decide
  refine isJson_fields hkeys ⟨?_, ?_, ?_, hpoam, isPart_str _⟩
  · exact isPart_fields hcomponent ⟨isPart_str _, isPart_str _, hpart _, hpart _,
      isPart_member (hpart _) hcomponents, hwritten, isPart_str _⟩
  · exact isPart_fields hplan ⟨isPart_str _, isPart_str _, isPart_member (hpart _) hname,
      isPart_member (hpart _) hboundary, hscope, hpart _, hwritten, isPart_str _⟩
  · exact isPart_fields hresults ⟨isPart_str _, isPart_str _, hpart _, hwritten,
      hobserved, isPart_str _⟩

theorem isPart_uuidOf {oscal uuid : JsValue} {part : String} (ho : IsPart oscal)
    (h : uuidOf oscal part = .ok uuid) : IsPart uuid := by
  obtain ⟨_, hpart, h⟩ := bind_ok.1 h
  exact isPart_member (isPart_member ho hpart) h

theorem isPart_signatureRef (ref : EvidencePackageSignatureRef) : IsPart ref.toJs := by
  have hkeys : ["packageId", "keyId"].Nodup := by decide
  exact isPart_fields hkeys ⟨isPart_str _, isPart_str _⟩

theorem isJson_buildControlTraceView {exportId oscal trace : JsValue}
    {ref : EvidencePackageSignatureRef}
    (h : buildControlTraceView exportId statements scope oscal ref mapping = .ok trace)
    (hstatements : IsPart statements) (hscope : IsPart scope) (ho : IsPart oscal)
    (hm : IsPart mapping) : IsJson trace := by
  obtain ⟨items, hitems, h⟩ := bind_ok.1 h
  obtain ⟨s, hs, h⟩ := bind_ok.1 h
  obtain ⟨_, -, h⟩ := bind_ok.1 h
  obtain ⟨_, hid, h⟩ := bind_ok.1 h
  obtain ⟨_, -, h⟩ := bind_ok.1 h
  obtain ⟨_, hcomponent, h⟩ := bind_ok.1 h
  obtain ⟨_, hplan, h⟩ := bind_ok.1 h
  obtain ⟨_, hresults, h⟩ := bind_ok.1 h
  obtain ⟨_, hpoam, h⟩ := bind_ok.1 h
  cases h
  have hs := isPart_findStatement (hstatements.item (elements_ok.1 hitems)) hs
  have hkeys : ["traceId", "controlId", "status", "sourceEventIds", "reviewedStatement",
      "signatureRef", "deploymentScope", "oscalRefs", "gaps", "version"].Nodup := by decide
  have hreviewed : ["reviewerRole", "reviewedAt", "sourceArtifactNames"].Nodup := by decide
  have hrefs : ["componentDefinitionUuid", "sspUuid", "assessmentResultsUuid",
      "poamUuid"].Nodup := by decide
  refine isJson_fields hkeys ⟨isPart_str _, isPart_member hm hid, hm.optional _, hm.optional _, ?_,
    isPart_signatureRef ref, hscope, ?_, hm.optional _, isPart_str _⟩
  · exact isPart_fields hreviewed ⟨(hs.optional _).coalesce (isPart_str _),
      (hs.optional _).coalesce (hscope.optional _),
      (hs.optional _).coalesce isPart_nil⟩
  · exact isPart_fields hrefs ⟨isPart_uuidOf ho hcomponent, isPart_uuidOf ho hplan,
      isPart_uuidOf ho hresults, isPart_uuidOf ho hpoam⟩

theorem isPart_componentIds {boundary : JsValue} {ids : List JsValue} (hb : IsPart boundary)
    (h : componentIds boundary = .ok ids) : ∀ id ∈ ids, IsPart id := by
  intro id hid
  unfold componentIds at h
  split at h
  · cases h
    cases hid
  · obtain ⟨components, hcomponents, h⟩ := bind_ok.1 h
    obtain ⟨component, hmem, hread⟩ := forall₂_exists_right (mapM_ok.1 h).flip hid
    exact isPart_member (isPart_json ((hb.optional _).item (elements_ok.1 hcomponents) _ hmem))
      hread

theorem isJson_deploymentScopeOf {ids : List JsValue} (hd : IsJson (.obj draft))
    (hids : ∀ id ∈ ids, IsJson id) : IsJson (deploymentScopeOf draft ids) := by
  have hkeys : ["boundaryId", "environment", "liveTenantData", "controls", "periodStart",
      "periodEnd", "componentIds", "version"].Nodup := by decide
  have hpart := isPart_get hd
  exact isJson_fields hkeys ⟨((hpart _).optional _).coalesce (isPart_str _),
    ((hpart _).optional _).coalesce (isPart_str _),
    ((hpart _).optional _).coalesce (isPart_json (.bool _)), (hpart _).coalesce isPart_nil,
    (hpart _).coalesce (isPart_str _), (hpart _).coalesce (isPart_str _),
    isPart_json (.arr hids), isPart_str _⟩

theorem isJson_givenOr {given : JsValue} {build : Except TypeFault JsValue}
    (h : givenOr given build = .ok v) (hgiven : IsPart given)
    (hbuild : build = .ok v → IsJson v) : IsJson v := by
  unfold givenOr at h
  split at h
  · exact hbuild h
  · rename_i hpresent
    cases h
    refine hgiven fun hu => hpresent ?_
    rw [hu]
    rfl

theorem isJson_buildEvidencePackageContent {content : JsonRecord} {keyId : Option CanonicalId}
    (hd : IsJson (.obj draft))
    (hids : ∀ ids, componentIds (JsonRecord.get draft "systemBoundary") = .ok ids →
      JsValue.undefined ∉ ids)
    (h : buildEvidencePackageContent draft keyId = .ok content) : IsJson (.obj content) := by
  have hpart := isPart_get hd
  obtain ⟨scope, hscope, h⟩ := bind_ok.1 h
  obtain ⟨ids, hread, hscope⟩ := bind_ok.1 hscope
  cases hscope
  have hscope := isJson_deploymentScopeOf hd fun id hid =>
    isPart_componentIds (hpart _) hread id hid fun hu => hids ids hread (hu ▸ hid)
  obtain ⟨poam, hpoam, h⟩ := bind_ok.1 h
  have hpoam := isJson_givenOr hpoam (hpart _) fun h =>
    isJson_buildPoamExport h (hpart _) (hpart _) (hpart _)
  obtain ⟨oscal, hoscal, h⟩ := bind_ok.1 h
  have hoscal := isJson_givenOr hoscal (hpart _) fun h =>
    isJson_buildOscalArtifacts hd h (isPart_json hscope) (isPart_json hpoam)
  obtain ⟨_, -, h⟩ := bind_ok.1 h
  obtain ⟨views, hviews, h⟩ := bind_ok.1 h
  have hviews := isJson_givenOr hviews (hpart _) fun h => by
    obtain ⟨mappings, hmappings, h⟩ := bind_ok.1 h
    obtain ⟨traces, htraces, h⟩ := bind_ok.1 h
    cases h
    refine .arr fun trace htrace => ?_
    obtain ⟨m, hm, hbuilt⟩ := forall₂_exists_right (mapM_ok.1 htraces).flip htrace
    exact isJson_buildControlTraceView hbuilt (hpart _) (isPart_json hscope) (isPart_json hoscal)
      (isPart_json ((hpart _).item (elements_ok.1 hmappings) m hm))
  cases h
  exact isJson_set (isJson_set (isJson_set hd hpoam) hoscal) hviews

end

/-! ## The attestation -/

section
variable {H : Host} {signer : EvidenceSigner} {content evidence : JsonRecord}

theorem isJson_evidenceSectionHash {name : String} {value s : JsValue}
    (h : evidenceSectionHash H name value = .ok s) : IsJson s := by
  obtain ⟨hash, -, h⟩ := bind_ok.1 h
  cases h
  have hcounted : ["name", "hash", "itemCount"].Nodup := by decide
  have hkeys : ["name", "hash"].Nodup := by decide
  cases value with
  | arr items =>
    exact isJson_fields hcounted ⟨isPart_str _, isPart_str _, isPart_json (.num _)⟩
  | _ => exact isJson_fields hkeys ⟨isPart_str _, isPart_str _⟩

theorem isPart_manifestVerifier : IsPart manifestVerifier := by
  have hkeys : ["documentationPath", "summary", "verificationSteps"].Nodup := by decide
  refine isPart_fields hkeys ⟨isPart_str _, isPart_str _, isPart_json (.arr fun v hv => ?_)⟩
  simp only [List.mem_cons, List.not_mem_nil, or_false] at hv
  rcases hv with rfl | rfl | rfl | rfl | rfl | rfl | rfl <;> constructor

theorem isJson_attachEvidenceIntegrityManifest (hc : IsJson (.obj content))
    (h : attachEvidenceIntegrityManifest H content = .ok evidence) : IsJson (.obj evidence) := by
  obtain ⟨hash, -, h⟩ := bind_ok.1 h
  obtain ⟨sections, hsections, h⟩ := bind_ok.1 h
  cases h
  have hkeys : ["packageHash", "hashAlgorithm", "canonicalization", "generatedAt", "sections",
      "verifier", "version"].Nodup := by decide
  refine isJson_set hc (isJson_fields hkeys ⟨isPart_str _, isPart_str _, isPart_str _,
    isPart_get hc _, isPart_json (.arr fun s hs => ?_), isPart_manifestVerifier, isPart_str _⟩)
  obtain ⟨name, -, hbuilt⟩ := forall₂_exists_right (mapM_ok.1 hsections).flip hs
  exact isJson_evidenceSectionHash hbuilt

theorem isJson_attachSignedEvidencePackage {signed : JsonRecord} (he : IsJson (.obj evidence))
    (hnamed : ∀ views, JsonRecord.get evidence "controlTraceViews" = .arr views →
      ∀ trace ∈ views, trace.optional "traceId" ≠ .undefined)
    (h : attachSignedEvidencePackage H signer evidence = .ok signed) : IsJson (.obj signed) := by
  have hpart := isPart_get he
  obtain ⟨packageId, -, h⟩ := bind_ok.1 h
  obtain ⟨plan, hplan, h⟩ := bind_ok.1 h
  obtain ⟨scope, hscope, h⟩ := bind_ok.1 h
  obtain ⟨statements, -, h⟩ := bind_ok.1 h
  obtain ⟨refs, hrefs, h⟩ := bind_ok.1 h
  obtain ⟨traces, htraces, h⟩ := bind_ok.1 h
  obtain ⟨ids, hids, h⟩ := bind_ok.1 h
  obtain ⟨hash, hhash, h⟩ := bind_ok.1 h
  cases h
  have hkeys : ["packageId", "packageHash", "hashAlgorithm", "canonicalization",
      "signatureAlgorithm", "keyId", "signedAt", "signerRole", "deploymentScope", "sourceEventIds",
      "reviewedStatementRefs", "controlTraceIds", "version", "signature"].Nodup := by decide
  refine isJson_set he (isJson_fields hkeys ⟨isPart_str _, isPart_member (hpart _) hhash,
    isPart_str _, isPart_str _, isPart_str _, isPart_str _, hpart _, isPart_str _,
    isPart_member (isPart_member (hpart _) hplan) hscope, hpart _, ?_, ?_, isPart_str _,
    isPart_str _⟩)
  · refine isPart_json (.arr fun r hr => ?_)
    obtain ⟨_, -, hbuilt⟩ := forall₂_exists_right (mapM_ok.1 hrefs).flip hr
    obtain ⟨_, -, hbuilt⟩ := bind_ok.1 hbuilt
    obtain ⟨_, -, hbuilt⟩ := bind_ok.1 hbuilt
    cases hbuilt
    exact .str _
  · refine isPart_json (.arr fun id hid => ?_)
    obtain ⟨trace, htrace, hread⟩ := forall₂_exists_right (mapM_ok.1 hids).flip hid
    obtain ⟨-, rfl⟩ := member_ok.1 hread
    have htraces := elements_ok.1 htraces
    exact (isPart_json ((hpart _).item htraces trace htrace)).optional _ (hnamed _ htraces _ htrace)

theorem isJson_check (c : EvidenceVerifierCheck) : IsJson c.toJs := by
  have hkeys : ∀ more : List String, more.Sublist ["expected", "actual"] →
      (["name", "status", "message"] ++ more).Nodup := fun more hmore =>
    (hmore.append_left ["name", "status", "message"]).nodup (by decide)
  have hstatus : IsPart c.status.toJs := by
    cases c.status <;> exact isPart_str _
  obtain ⟨name, status, message, expected, actual⟩ := c
  cases expected with
  | none =>
    cases actual with
    | none =>
      exact isJson_fields (hkeys [] (by decide)) ⟨isPart_str _, hstatus, isPart_str _⟩
    | some actual =>
      exact isJson_fields (hkeys ["actual"] (by decide))
        ⟨isPart_str _, hstatus, isPart_str _, isPart_str _⟩
  | some expected =>
    cases actual with
    | none =>
      exact isJson_fields (hkeys ["expected"] (by decide))
        ⟨isPart_str _, hstatus, isPart_str _, isPart_str _⟩
    | some actual =>
      exact isJson_fields (hkeys ["expected", "actual"] (by decide))
        ⟨isPart_str _, hstatus, isPart_str _, isPart_str _, isPart_str _⟩

theorem isJson_checked (he : IsJson (.obj evidence)) (checks : List EvidenceVerifierCheck) :
    IsJson (.obj (JsonRecord.set "verifierChecks" (.arr (checks.map (·.toJs))) evidence)) := by
  refine isJson_set he (.arr fun v hv => ?_)
  obtain ⟨c, -, rfl⟩ := List.mem_map.1 hv
  exact isJson_check c

theorem Draft.isJson_signedEvidence {draft : JsonRecord} (h : Draft draft)
    (hd : IsJson (.obj draft))
    (hids : ∀ ids, componentIds (JsonRecord.get draft "systemBoundary") = .ok ids →
      JsValue.undefined ∉ ids)
    (hsigned : signedEvidence H signer draft = .ok evidence) : IsJson (.obj evidence) := by
  obtain ⟨content, hbuilt, hsigned⟩ := bind_ok.1 hsigned
  obtain ⟨hashed, hhashed, hsigned⟩ := bind_ok.1 hsigned
  have hcontent := isJson_buildEvidencePackageContent hd hids hbuilt
  refine isJson_attachSignedEvidencePackage
    (isJson_attachEvidenceIntegrityManifest hcontent hhashed)
    (fun views hviews trace htrace => ?_) hsigned
  obtain ⟨content', _, _, hbuilt', -, -, hc⟩ := h.completed signer.keyId
  obtain rfl : content' = content := Except.ok.inj (hbuilt'.symm.trans hbuilt)
  obtain ⟨_, traces, -, htraces, hall⟩ := hc.traces
  have hkept : JsonRecord.get hashed "controlTraceViews" =
      JsonRecord.get content' "controlTraceViews" := by
    obtain ⟨_, -, hhashed⟩ := bind_ok.1 hhashed
    obtain ⟨_, -, hhashed⟩ := bind_ok.1 hhashed
    cases hhashed
    rw [JsonRecord.get_set, if_neg (by decide)]
  rw [hkept, htraces] at hviews
  cases hviews
  obtain ⟨_, -, hview⟩ := forall₂_exists_right hall.flip htrace
  obtain ⟨id, hid⟩ := hview.traceId
  rw [hid]
  exact nofun

end

end AccessKit.L2.Evidence
