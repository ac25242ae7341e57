import AccessKit.L1Domain.Entities
import AccessKit.L1Domain.Parse
import AccessKit.L1Domain.Unknown

/-!
# What an evidence package is built from

packages/core/src/evidence-package-builder.ts: the sections that a draft of an
evidence export is completed with. The plan of action, the OSCAL documents and the control
traces repeat parts of the draft; the deployment scope is built a second time when the
package is verified.

The draft is a value of the language: what the type of a draft promises is a
hypothesis where it is needed, and a draft without it may throw a `TypeError`.

What is built of a draft that has its type is in `EvidenceDrafts`.
-/
namespace AccessKit.L2.Evidence
open AccessKit.Core AccessKit.L1

/-- mirrors packages/core/src/evidence-package-builder.ts:18 -/
def defaultEvidenceSignatureKeyId : CanonicalId := "key:local-proof-point-evidence-runtime-ed25519"

/-! ## Identifiers -/

/-- A unit of `[a-z0-9_:-]`, in either case. -/
def isCanonicalUnit (u : Nat) : Bool :=
  (97 ≤ u ∧ u ≤ 122) ∨ (65 ≤ u ∧ u ≤ 90) ∨ (48 ≤ u ∧ u ≤ 57) ∨ u = 95 ∨ u = 58 ∨ u = 45

/-- The lower case of a unit of ASCII. -/
def lowerUnit (u : Nat) : Char := Char.ofNat (if 65 ≤ u ∧ u ≤ 90 then u + 32 else u)

/-- mirrors packages/core/src/evidence-package-builder.ts:198-200 -/
def sanitizeCanonicalId : JsValue → Except TypeFault String
  | .str value => .ok (String.ofList ((utf16 value).map fun u =>
      if isCanonicalUnit u then lowerUnit u else '_'))
  | v => if v.isNullish then .error (.reading "replaceAll")
    else .error (.notCallable "replaceAll")

/-- Runs of what is no `[a-z0-9]` become hyphens. -/
def hyphenate (inRun : Bool) : List Nat → List Char
  | [] => []
  | u :: units =>
    if (97 ≤ u ∧ u ≤ 122) ∨ (48 ≤ u ∧ u ≤ 57) then Char.ofNat u :: hyphenate false units
    else if inRun then hyphenate true units
    else '-' :: hyphenate true units

/-- mirrors packages/core/src/evidence-package-builder.ts:170-172 -/
def evidenceControlStatementRef (H : Host) : JsValue → Except TypeFault String
  | .str controlId => .ok ("control-statement:" ++
      String.ofList (hyphenate false (utf16 (toLowerCase H controlId))))
  | v => if v.isNullish then .error (.reading "toLowerCase")
    else .error (.notCallable "toLowerCase")

/-- mirrors packages/core/src/evidence-package-builder.ts:174-176 -/
def signedEvidencePackageId (exportId : JsValue) : Except TypeFault String := do
  return "signed-package:" ++ (← sanitizeCanonicalId exportId)

/-! ## The sections -/

/-- `boundary?.components.map((component) => component.id) ?? []` -/
def componentIds (boundary : JsValue) : Except TypeFault (List JsValue) :=
  if boundary.isNullish then .ok []
  else do
    let components ← (boundary.optional "components").elements "map"
    components.mapM fun component => component.member "id"

/-- The scope of components with these identifiers. -/
def deploymentScopeOf (evidence : JsonRecord) (componentIds : List JsValue) : JsValue :=
  let boundary := JsonRecord.get evidence "systemBoundary"
  .obj [
    ("boundaryId", (boundary.optional "boundaryId").coalesce (.str "boundary:unknown")),
    ("environment", (boundary.optional "environment").coalesce (.str "local_proof_point")),
    ("liveTenantData", (boundary.optional "liveTenantData").coalesce (.bool false)),
    ("controls", (JsonRecord.get evidence "controls").coalesce (.arr [])),
    ("periodStart", (JsonRecord.get evidence "periodStart").coalesce
      (.str "1970-01-01T00:00:00.000Z")),
    ("periodEnd", (JsonRecord.get evidence "periodEnd").coalesce
      (.str "1970-01-01T00:00:00.000Z")),
    ("componentIds", .arr componentIds),
    ("version", .str "evidence-deployment-scope:v1")]

/-- mirrors packages/core/src/evidence-package-builder.ts:57-69 -/
def buildDeploymentScope (evidence : JsonRecord) : Except TypeFault JsValue := do
  return deploymentScopeOf evidence (← componentIds (JsonRecord.get evidence "systemBoundary"))

/-- mirrors packages/core/src/evidence-package-builder.ts:71-77 -/
def buildExpectedDeploymentScope (evidence : JsonRecord) : Except TypeFault JsValue :=
  let boundary := JsonRecord.get evidence "systemBoundary"
  if boundary.toBoolean && (JsonRecord.get evidence "periodStart").toBoolean &&
      (JsonRecord.get evidence "periodEnd").toBoolean &&
      (boundary.optional "components").toBoolean then buildDeploymentScope evidence
  else .ok .undefined

/-- mirrors packages/core/src/evidence-package-builder.ts:79-88 -/
def buildPoamExport (exportId poamItems controls generatedAt : JsValue) :
    Except TypeFault JsValue := do
  return .obj [
    ("uuid", .str ("oscal-poam:" ++ (← sanitizeCanonicalId exportId))),
    ("title", .str "Access Kit evidence POA&M export"),
    ("generatedAt", generatedAt),
    ("items", poamItems),
    ("sourceControlIds", controls),
    ("version", .str "oscal-poam-export:v1")]

/-- `statements.find((candidate) => candidate.controlId === mapping.controlId)` -/
def findStatement (mapping : JsValue) : List JsValue → Except TypeFault JsValue
  | [] => .ok .undefined
  | candidate :: statements => do
    if (← candidate.member "controlId").strictEq (← mapping.member "controlId") then
      return candidate
    else findStatement mapping statements

/-- mirrors packages/core/src/evidence-package-builder.ts:178-196 -/
def buildOscalControlImplementation (statements mapping : JsValue) :
    Except TypeFault JsonRecord := do
  let statement ← findStatement mapping (← statements.elements "find")
  return [
    ("controlId", ← mapping.member "controlId"),
    ("status", (statement.optional "status").coalesce (mapping.optional "status")),
    ("statement",
      (statement.optional "statement").coalesce (mapping.optional "implementationSummary")),
    ("responsibleRole", (statement.optional "responsibleRole").coalesce (.str "ISSO")),
    ("reviewerRole",
      (statement.optional "reviewerRole").coalesce (.str "Security Control Assessor")),
    ("reviewedAt", (statement.optional "reviewedAt").coalesce (.str "1970-01-01T00:00:00.000Z")),
    ("sourceEventIds", mapping.optional "sourceEventIds"),
    ("sourceArtifactNames", (statement.optional "sourceArtifactNames").coalesce (.arr [])),
    ("gaps", (statement.optional "gaps").coalesce (mapping.optional "gaps"))]

/-- What the assessment results say about an implementation. -/
def observation (implementation : JsonRecord) : JsValue :=
  .obj [
    ("controlId", JsonRecord.get implementation "controlId"),
    ("status", JsonRecord.get implementation "status"),
    ("sourceEventIds", JsonRecord.get implementation "sourceEventIds"),
    ("gaps", JsonRecord.get implementation "gaps")]

/-- mirrors packages/core/src/evidence-package-builder.ts:90-134 -/
def buildOscalArtifacts (evidence : JsonRecord) (deploymentScope poamExport : JsValue) :
    Except TypeFault JsValue := do
  let mappings ← (JsonRecord.get evidence "controlMappings").elements "map"
  let implementations ← mappings.mapM
    (buildOscalControlImplementation (JsonRecord.get evidence "controlStatements"))
  let exportId ← sanitizeCanonicalId (JsonRecord.get evidence "exportId")
  let boundary := JsonRecord.get evidence "systemBoundary"
  return .obj [
    ("componentDefinition", .obj [
      ("uuid", .str ("oscal-component-definition:" ++ exportId)),
      ("title", .str "Access Kit evidence component definition"),
      ("framework", JsonRecord.get evidence "framework"),
      ("generatedAt", JsonRecord.get evidence "generatedAt"),
      ("components", ← boundary.member "components"),
      ("implementedRequirements", .arr (implementations.map .obj)),
      ("version", .str "oscal-component-definition-fragment:v1")]),
    ("systemSecurityPlan", .obj [
      ("uuid", .str ("oscal-ssp:" ++ exportId)),
      ("title", .str "Access Kit evidence SSP fragment"),
      ("systemName", ← boundary.member "name"),
      ("boundaryId", ← boundary.member "boundaryId"),
      ("deploymentScope", deploymentScope),
      ("dataFlows", JsonRecord.get evidence "dataFlows"),
      ("controlImplementationStatements", .arr (implementations.map .obj)),
      ("version", .str "oscal-ssp-fragment:v1")]),
    ("assessmentResults", .obj [
      ("uuid", .str ("oscal-assessment-results:" ++ exportId)),
      ("title", .str "Access Kit evidence assessment-results fragment"),
      ("generatedAt", JsonRecord.get evidence "generatedAt"),
      ("reviewedControls", .arr (implementations.map .obj)),
      ("observations", .arr (implementations.map observation)),
      ("version", .str "oscal-assessment-results-fragment:v1")]),
    ("planOfActionAndMilestones", poamExport),
    ("version", .str "oscal-evidence-artifacts:v1")]

/-- Who signs a package.
mirrors packages/core/src/evidence-package-builder.ts:20-23 -/
structure EvidencePackageSignatureRef where
  packageId : CanonicalId
  keyId : CanonicalId

def EvidencePackageSignatureRef.toJs (r : EvidencePackageSignatureRef) : JsValue :=
  .obj [("packageId", .str r.packageId), ("keyId", .str r.keyId)]

/-- `value.part.uuid` -/
def uuidOf (oscal : JsValue) (part : String) : Except TypeFault JsValue := do
  (← oscal.member part).member "uuid"

/-- mirrors packages/core/src/evidence-package-builder.ts:144-167 -/
def buildControlTraceView (exportId statements deploymentScope oscal : JsValue)
    (signatureRef : EvidencePackageSignatureRef) (mapping : JsValue) :
    Except TypeFault JsValue := do
  let statement ← findStatement mapping (← statements.elements "find")
  let exportId ← sanitizeCanonicalId exportId
  let controlId ← mapping.member "controlId"
  return .obj [
    ("traceId", .str ("control-trace:" ++ exportId ++ ":" ++ (← sanitizeCanonicalId controlId))),
    ("controlId", controlId),
    ("status", mapping.optional "status"),
    ("sourceEventIds", mapping.optional "sourceEventIds"),
    ("reviewedStatement", .obj [
      ("reviewerRole",
        (statement.optional "reviewerRole").coalesce (.str "Security Control Assessor")),
      ("reviewedAt", (statement.optional "reviewedAt").coalesce
        (deploymentScope.optional "periodEnd")),
      ("sourceArtifactNames", (statement.optional "sourceArtifactNames").coalesce (.arr []))]),
    ("signatureRef", signatureRef.toJs),
    ("deploymentScope", deploymentScope),
    ("oscalRefs", .obj [
      ("componentDefinitionUuid", ← uuidOf oscal "componentDefinition"),
      ("sspUuid", ← uuidOf oscal "systemSecurityPlan"),
      ("assessmentResultsUuid", ← uuidOf oscal "assessmentResults"),
      ("poamUuid", ← uuidOf oscal "planOfActionAndMilestones")]),
    ("gaps", mapping.optional "gaps"),
    ("version", .str "evidence-control-trace-view:v1")]

/-- mirrors packages/core/src/evidence-package-builder.ts:136-168 -/
def buildControlTraceViews (exportId mappings statements deploymentScope oscal : JsValue)
    (signatureRef : EvidencePackageSignatureRef) : Except TypeFault JsValue := do
  let mappings ← mappings.elements "map"
  let traces ← mappings.mapM
    (buildControlTraceView exportId statements deploymentScope oscal signatureRef)
  return .arr traces

/-- `given ?? build()` -/
def givenOr (given : JsValue) (build : Except TypeFault JsValue) : Except TypeFault JsValue :=
  if given.isNullish then build else .ok given

/-- mirrors packages/core/src/evidence-package-builder.ts:29-55 -/
def buildEvidencePackageContent (draft : JsonRecord) (keyId : Option CanonicalId) :
    Except TypeFault JsonRecord := do
  let exportId := JsonRecord.get draft "exportId"
  let controlMappings := JsonRecord.get draft "controlMappings"
  let controlStatements := JsonRecord.get draft "controlStatements"
  let deploymentScope ← buildDeploymentScope draft
  let poamExport ← givenOr (JsonRecord.get draft "poamExport")
    (buildPoamExport exportId (JsonRecord.get draft "poamItems") (JsonRecord.get draft "controls")
      (JsonRecord.get draft "generatedAt"))
  let oscal ← givenOr (JsonRecord.get draft "oscal")
    (buildOscalArtifacts draft deploymentScope poamExport)
  let signatureRef : EvidencePackageSignatureRef :=
    ⟨← signedEvidencePackageId exportId, keyId.getD defaultEvidenceSignatureKeyId⟩
  let controlTraceViews ← givenOr (JsonRecord.get draft "controlTraceViews")
    (buildControlTraceViews exportId controlMappings controlStatements deploymentScope oscal
      signatureRef)
  return JsonRecord.set "controlTraceViews" controlTraceViews
    (JsonRecord.set "oscal" oscal (JsonRecord.set "poamExport" poamExport draft))

end AccessKit.L2.Evidence
