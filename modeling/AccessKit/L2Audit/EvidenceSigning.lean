import AccessKit.L2Audit.EvidenceVerified

/-!
# Signing an evidence package

packages/core/src/evidence-integrity.ts:33-233: a draft is completed, hashed
section by section, signed, and then verified, with the checks added to the package. The
key pair of the default signer is made when the module is loaded.

That what is finalized is verified is in `EvidenceFinalized`.
-/
namespace AccessKit.L2.Evidence
open AccessKit.Core AccessKit.L1
open AccessKit.L2.Audit (bind_ok)

/-! ## Signers -/

/-- mirrors packages/core/src/evidence-integrity.ts:33-38 -/
structure EvidenceSigner where
  keyId : CanonicalId
  signatureAlgorithm : String
  signerRole : String
  sign : JsonRecord → String

/-- mirrors packages/core/src/evidence-integrity.ts:58-60 -/
def checkedInFixtureSignatureKeyId : CanonicalId := "key:local-proof-point-evidence-ed25519"

def defaultSignatureAlgorithm : String := "ed25519-local-proof-signature"

def defaultSignerRole : String := "ISSO"

/-- `signPayload` signs a text with the private key.
mirrors packages/core/src/evidence-integrity.ts:81-101 -/
def createEd25519EvidenceSigner (H : Host) (keyId : CanonicalId) (signPayload : String → String)
    (signerRole signatureAlgorithm : Option String := none) : EvidenceSigner :=
  let signatureAlgorithm := signatureAlgorithm.getD defaultSignatureAlgorithm
  { keyId
    signatureAlgorithm
    signerRole := signerRole.getD defaultSignerRole
    sign := fun unsigned => signatureAlgorithm ++ ":" ++
      signPayload ((stableStringify H (.obj unsigned)).getD "") }

/-- What the module has when it is loaded: the key pair it made, and the key of the
fixtures. -/
structure EvidenceModule (κ : Type) where
  host : Host
  verifyPayload : κ → String → String → Bool
  errorMessage : TypeFault → String
  runtimePublicKey : κ
  runtimeSignPayload : String → String
  fixturePublicKey : κ

/-- mirrors packages/core/src/evidence-integrity.ts:47-56 -/
structure EvidenceIntegrityOptions (κ : Type) where
  signer : Option EvidenceSigner := none
  trustedKeys : Option (List (String × TrustedEvidenceSigningKey κ)) := none
  verifiedAt : Option IsoDateTime := none

section
variable {κ : Type} (M : EvidenceModule κ)

/-- mirrors packages/core/src/evidence-integrity.ts:61-65 -/
def defaultEvidenceSigner : EvidenceSigner :=
  createEd25519EvidenceSigner M.host defaultEvidenceSignatureKeyId M.runtimeSignPayload

/-- mirrors packages/core/src/evidence-integrity.ts:66-79 -/
def defaultTrustedEvidenceSigningKeys : List (String × TrustedEvidenceSigningKey κ) :=
  [(defaultEvidenceSignatureKeyId, ⟨defaultSignatureAlgorithm, M.runtimePublicKey⟩),
   (checkedInFixtureSignatureKeyId, ⟨defaultSignatureAlgorithm, M.fixturePublicKey⟩)]

/-- mirrors packages/core/src/evidence-integrity.ts:103-105 -/
def resolveEvidenceSigner (options : EvidenceIntegrityOptions κ) : EvidenceSigner :=
  options.signer.getD (defaultEvidenceSigner M)

/-- The verifier with the keys of the options.
mirrors packages/core/src/evidence-integrity.ts:107-122 -/
def verifierOf (options : EvidenceIntegrityOptions κ) : EvidenceVerifier κ where
  host := M.host
  trustedKeys := options.trustedKeys.getD (defaultTrustedEvidenceSigningKeys M)
  verifyPayload := M.verifyPayload
  errorMessage := M.errorMessage

end

/-! ## The manifest -/

/-- The sections that are hashed on their own. -/
def evidenceSections : List String :=
  ["auditIntegrity", "controlMappings", "artifacts", "conmonMetrics", "poamItems", "poamExport",
   "siemExport", "systemBoundary", "dataFlows", "controlStatements", "accessReviews",
   "exceptionRegister", "operationalEvidence", "oscal", "controlTraceViews"]

/-- mirrors packages/core/src/evidence-integrity.ts:375-381 -/
def evidenceSectionHash (H : Host) (name : String) (value : JsValue) :
    Except TypeFault JsValue := do
  let itemCount := match value with
    | .arr items => [("itemCount", .num (.fin items.length))]
    | _ => []
  return .obj ([("name", .str name), ("hash", .str (← hashReference H value))] ++ itemCount)

/-- How to verify a package, in words. -/
def manifestVerifier : JsValue :=
  .obj [
    ("documentationPath", .str "docs/evidence-integrity-verifier.md"),
    ("summary", .str ("Recompute the stable-json package content hash before attestation " ++
      "metadata is added and compare section hashes.")),
    ("verificationSteps", .arr [
      .str "Remove storageReceipt if present.",
      .str "Remove integrityManifest from the evidence package.",
      .str "Remove signedPackage and verifierChecks from the evidence package.",
      .str "Canonicalize the remaining package content with stable JSON key ordering.",
      .str ("Compute sha256 over the canonical package and compare it with " ++
        "integrityManifest.packageHash."),
      .str ("Canonicalize each named section and compare sha256 values with " ++
        "integrityManifest.sections."),
      .str ("Verify signedPackage.signature over the signed metadata using the trusted public " ++
        "key for signedPackage.keyId.")])]

/-- mirrors packages/core/src/evidence-integrity.ts:145-187 -/
def attachEvidenceIntegrityManifest (H : Host) (evidence : JsonRecord) :
    Except TypeFault JsonRecord := do
  let packageHash ← hashReference H (.obj (canonicalEvidenceContent evidence))
  let sections ← evidenceSections.mapM fun name =>
    evidenceSectionHash H name (JsonRecord.get evidence name)
  return JsonRecord.set "integrityManifest" (.obj [
    ("packageHash", .str packageHash),
    ("hashAlgorithm", .str "sha256"),
    ("canonicalization", .str "stable-json"),
    ("generatedAt", JsonRecord.get evidence "generatedAt"),
    ("sections", .arr sections),
    ("verifier", manifestVerifier),
    ("version", .str "evidence-integrity-manifest:v1")]) evidence

/-! ## The signed package -/

/-- mirrors packages/core/src/evidence-integrity.ts:189-222 -/
def attachSignedEvidencePackage (H : Host) (signer : EvidenceSigner) (evidence : JsonRecord) :
    Except TypeFault JsonRecord := do
  let packageId ← signedEvidencePackageId (JsonRecord.get evidence "exportId")
  let plan ← (JsonRecord.get evidence "oscal").member "systemSecurityPlan"
  let deploymentScope ← plan.member "deploymentScope"
  let statements ← (JsonRecord.get evidence "controlStatements").elements "map"
  let reviewedStatementRefs ← statements.mapM fun statement => do
    return .str (← evidenceControlStatementRef H (← statement.member "controlId"))
  let traces ← (JsonRecord.get evidence "controlTraceViews").elements "map"
  let controlTraceIds ← traces.mapM fun trace => trace.member "traceId"
  let unsigned : JsonRecord := [
    ("packageId", .str packageId),
    ("packageHash", ← (JsonRecord.get evidence "integrityManifest").member "packageHash"),
    ("hashAlgorithm", .str "sha256"),
    ("canonicalization", .str "stable-json"),
    ("signatureAlgorithm", .str signer.signatureAlgorithm),
    ("keyId", .str signer.keyId),
    ("signedAt", JsonRecord.get evidence "generatedAt"),
    ("signerRole", .str signer.signerRole),
    ("deploymentScope", deploymentScope),
    ("sourceEventIds", JsonRecord.get evidence "sourceEventIds"),
    ("reviewedStatementRefs", .arr reviewedStatementRefs),
    ("controlTraceIds", .arr controlTraceIds),
    ("version", .str "signed-evidence-package:v1")]
  return JsonRecord.set "signedPackage"
    (.obj (unsigned ++ [("signature", .str (signer.sign unsigned))])) evidence

/-! ## Finalizing -/

def CheckStatus.toJs : CheckStatus → JsValue
  | .pass => .str "pass"
  | .fail => .str "fail"

def EvidenceVerifierCheck.toJs (c : EvidenceVerifierCheck) : JsValue :=
  let given (key : String) (text : Option String) : JsonRecord :=
    (text.map fun text => (key, JsValue.str text)).toList
  .obj ([("name", .str c.name), ("status", c.status.toJs), ("message", .str c.message)] ++
    given "expected" c.expected ++ given "actual" c.actual)

section
variable {κ : Type}

/-- mirrors packages/core/src/evidence-integrity.ts:224-233 -/
def attachEvidenceVerifierChecks (V : EvidenceVerifier κ) (evidence : JsonRecord)
    (verifiedAt : Option IsoDateTime) (now : IsoDateTime) : Except TypeFault JsonRecord := do
  let report ← verifyEvidenceExport V
    (.obj (JsonRecord.set "verifierChecks" (.arr []) evidence)) verifiedAt now
  return JsonRecord.set "verifierChecks" (.arr (report.checks.map (·.toJs))) evidence

/-- mirrors packages/core/src/evidence-integrity.ts:139-143 -/
def assertTrustedKeysCoverCustomSigner (M : EvidenceModule κ)
    (options : EvidenceIntegrityOptions κ) : Except String Unit :=
  match options.signer with
  | none => .ok ()
  | some signer =>
    if options.trustedKeys.isSome ∧ (trustedKey (verifierOf M options) signer.keyId).isSome then
      .ok ()
    else .error ("Evidence trustedKeys must include custom signer key " ++ signer.keyId ++
      " before verifier checks can be embedded.")

/-- A draft completed, hashed and signed. -/
def signedEvidence (H : Host) (signer : EvidenceSigner) (draft : JsonRecord) :
    Except TypeFault JsonRecord := do
  let content ← buildEvidencePackageContent draft (some signer.keyId)
  attachSignedEvidencePackage H signer (← attachEvidenceIntegrityManifest H content)

/-- mirrors packages/core/src/evidence-integrity.ts:124-137 -/
def finalizeEvidenceExport (M : EvidenceModule κ) (draft : JsonRecord)
    (options : EvidenceIntegrityOptions κ) (now : IsoDateTime) : Except String JsonRecord := do
  assertTrustedKeysCoverCustomSigner M options
  let finalized : Except TypeFault JsonRecord := do
    attachEvidenceVerifierChecks (verifierOf M options)
      (← signedEvidence M.host (resolveEvidenceSigner M options) draft) options.verifiedAt now
  finalized.mapError M.errorMessage

end

end AccessKit.L2.Evidence
