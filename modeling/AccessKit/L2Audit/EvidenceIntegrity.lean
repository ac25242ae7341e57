import AccessKit.L2Audit.EvidencePackages

/-!
# The integrity of an evidence package

packages/core/src/evidence-integrity.ts: the manifest of hashes, the signature over
what the manifest says, and the verifier, which takes any value and rebuilds what a
package should say from the package itself.

The verifier catches what its checks throw, but not what reading the list of
sections throws. `verifyPayload` is the check of an Ed25519 signature over a text.

What a package is that the verifier reports as verified is in `EvidenceVerified`.
-/
namespace AccessKit.L2.Evidence
open AccessKit.Core AccessKit.L1

/-! ## Checks -/

inductive CheckStatus
  | pass
  | fail
  deriving DecidableEq, Repr

/-- mirrors packages/core/src/domain/evidence.ts:230-236 -/
structure EvidenceVerifierCheck where
  name : String
  status : CheckStatus
  message : String
  expected : Option String
  actual : Option String
  deriving DecidableEq, Repr

/-- mirrors packages/core/src/evidence-integrity.ts:40-43 -/
structure TrustedEvidenceSigningKey (κ : Type) where
  algorithm : String
  publicKey : κ

/-- What a verifier works with. -/
structure EvidenceVerifier (κ : Type) where
  host : Host
  trustedKeys : List (String × TrustedEvidenceSigningKey κ)
  verifyPayload : κ → String → String → Bool
  /-- The texts of the errors of the language. -/
  errorMessage : TypeFault → String

/-- mirrors packages/core/src/evidence-integrity.ts:470-472 -/
def pass (name message : String) : EvidenceVerifierCheck := ⟨name, .pass, message, none, none⟩

/-- mirrors packages/core/src/evidence-integrity.ts:474-482 -/
def fail (H : Host) (name message : String) (expected actual : JsValue := .undefined) :
    Except TypeFault EvidenceVerifierCheck := do
  let textOf (v : JsValue) : Except TypeFault (Option String) :=
    if v.isUndefined then .ok none else some <$> toText H v
  return ⟨name, .fail, message, ← textOf expected, ← textOf actual⟩

/-- mirrors packages/core/src/evidence-integrity.ts:383-385 -/
def hashReference (H : Host) (value : JsValue) : Except TypeFault String :=
  match stableStringify H value with
  | none => .error .notText
  | some text => .ok ("sha256:" ++ H.sha256Hex text)

/-- mirrors packages/core/src/evidence-integrity.ts:484-486 -/
def stableComparable (H : Host) (value : JsValue) : Option String :=
  stringifyListed H
    (((flattenKeys value).dedup.filter (· ≠ "__proto__")).mergeSort stringLe) value

/-- What is added to the content of a package. -/
def attestationKeys : List String :=
  ["integrityManifest", "signedPackage", "verifierChecks", "storageReceipt"]

/-- mirrors packages/core/src/evidence-integrity.ts:235-248 -/
def canonicalEvidenceContent (evidence : JsonRecord) : JsonRecord :=
  evidence.filter fun p => p.1 ∉ attestationKeys

/-! ## The verifier -/

section
variable {κ : Type} (V : EvidenceVerifier κ) (evidence : JsonRecord)

/-- mirrors packages/core/src/evidence-integrity.ts:462-468 -/
def runCheck (name successMessage : String) (check : Except TypeFault EvidenceVerifierCheck) :
    EvidenceVerifierCheck :=
  match check with
  | .ok check => check
  | .error fault =>
    ⟨name, .fail, successMessage ++ " Verification threw: " ++ V.errorMessage fault, none, none⟩

def manifest : JsValue := JsonRecord.get evidence "integrityManifest"

def signedPackage : JsValue := JsonRecord.get evidence "signedPackage"

/-- mirrors packages/core/src/evidence-integrity.ts:268-277 -/
def checkPackageHash : EvidenceVerifierCheck :=
  runCheck V "package_hash" "Integrity manifest package hash matches canonical content." do
    let expected ← hashReference V.host (.obj (canonicalEvidenceContent evidence))
    let actual := (manifest evidence).optional "packageHash"
    if actual.strictEq (.str expected) then
      return pass "package_hash" "Integrity manifest package hash matches canonical content."
    else
      fail V.host "package_hash" "Integrity manifest package hash does not match canonical content."
        (.str expected) actual

/-- `contentRecord[name]`, if `name in contentRecord`. A method is `undefined` to
`JSON.stringify`, and the prototype an empty object. -/
def sectionAt (content : JsonRecord) (name : String) : Option JsValue :=
  if content.any fun p => p.1 == name then some (JsonRecord.get content name)
  else if name = "__proto__" then some (.obj [])
  else if name ∈ inheritedMethods then some .undefined
  else none

/-- mirrors packages/core/src/evidence-integrity.ts:416-428 -/
def checkSection (name : String) (hash : JsValue) : EvidenceVerifierCheck :=
  runCheck V ("section_hash:" ++ name) ("Section " ++ name ++ " hash matches canonical content.") do
    match sectionAt (canonicalEvidenceContent evidence) name with
    | none =>
      fail V.host ("section_hash:" ++ name)
        ("Section " ++ name ++ " is not present in the canonical content.")
    | some value =>
      let expected ← hashReference V.host value
      if hash.strictEq (.str expected) then
        return pass ("section_hash:" ++ name)
          ("Section " ++ name ++ " hash matches canonical content.")
      else
        fail V.host ("section_hash:" ++ name)
          ("Section " ++ name ++ " hash does not match canonical content.") (.str expected) hash

/-- mirrors packages/core/src/evidence-integrity.ts:407-429 -/
def verifySectionHashes : Except TypeFault (List EvidenceVerifierCheck) := do
  let sections := ((manifest evidence).optional "sections").coalesce (.arr [])
  if (← sections.lengthOf).strictEq (.num (.fin 0)) then
    return [⟨"section_hashes", .fail, "Integrity manifest does not contain section hashes.", none,
      none⟩]
  else
    (← sections.elements "map").mapM fun s => do
      let name ← toText V.host (← s.member "name")
      return checkSection V evidence name (s.optional "hash")

/-- mirrors packages/core/src/evidence-integrity.ts:280-289 -/
def checkSignedPackageHash : EvidenceVerifierCheck :=
  runCheck V "signed_package_hash"
      "Signed package metadata references the integrity manifest hash." do
    let expected := (manifest evidence).optional "packageHash"
    let actual := (signedPackage evidence).optional "packageHash"
    if actual.strictEq expected then
      return pass "signed_package_hash"
        "Signed package metadata references the integrity manifest hash."
    else
      fail V.host "signed_package_hash"
        "Signed package metadata does not reference the integrity manifest hash." expected actual

/-- What is found under a name in the registry of keys. -/
structure FoundKey (κ : Type) where
  algorithm : JsValue
  publicKey : Option κ

/-- `trustedKeys[name]` -/
def trustedKey (name : String) : Option (FoundKey κ) :=
  match V.trustedKeys.find? fun p => p.1 == name with
  | some p => some ⟨.str p.2.algorithm, some p.2.publicKey⟩
  | none => if name ∈ inheritedMethods ∨ name = "__proto__" then some ⟨.undefined, none⟩ else none

/-- The rest of a text after its start. -/
def textAfter (start text : String) : Option String :=
  if start.toList.isPrefixOf text.toList then
    some (String.ofList (text.toList.drop start.toList.length)) else none

/-- The package without its signature. What is no object has none. -/
def unsignedPackage : JsValue → JsonRecord
  | .obj fields => fields.filter fun p => p.1 ≠ "signature"
  | _ => []

/-- A key that cannot be read verifies nothing.
mirrors packages/core/src/evidence-integrity.ts:387-405 -/
def verifySignedPackageSignature (signedPackage : JsValue) (publicKey : Option κ) :
    Except TypeFault Bool := do
  let start := (← toText V.host (signedPackage.optional "signatureAlgorithm")) ++ ":"
  match signedPackage.optional "signature" with
  | .str signature =>
    match textAfter start signature, publicKey with
    | some signature, some publicKey =>
      return V.verifyPayload publicKey
        ((stableStringify V.host (.obj (unsignedPackage signedPackage))).getD "") signature
    | _, _ => return false
  | signature =>
    if signature.isNullish then .error (.reading "startsWith")
    else .error (.notCallable "startsWith")

/-- mirrors packages/core/src/evidence-integrity.ts:291-323 -/
def checkSignature : EvidenceVerifierCheck :=
  runCheck V "signed_package_signature" "Signed package proof signature verifies." do
    let signed := signedPackage evidence
    if !signed.toBoolean then
      fail V.host "signed_package_signature" "Signed package metadata is missing."
    else
      match trustedKey V (← toText V.host (signed.optional "keyId")) with
      | none =>
        fail V.host "signed_package_signature" "Signed package key is not trusted by this verifier."
          (.str (joinWith "," (V.trustedKeys.map (·.1)))) (signed.optional "keyId")
      | some trusted =>
        if trusted.algorithm.strictEq (signed.optional "signatureAlgorithm") = false then
          fail V.host "signed_package_signature"
            "Signed package algorithm does not match the trusted key." trusted.algorithm
            (signed.optional "signatureAlgorithm")
        else if ← verifySignedPackageSignature V signed trusted.publicKey then
          return pass "signed_package_signature"
            "Signed package proof signature verifies with a trusted key."
        else
          fail V.host "signed_package_signature"
            "Signed package proof signature does not verify with a trusted key."
            (.str ((← toText V.host trusted.algorithm) ++ ":<trusted-signature>"))
            (signed.optional "signature")

/-- The text of what may be `undefined`. -/
def textOrUndefined (text : Option String) : JsValue :=
  match text with
  | some text => .str text
  | none => .undefined

/-- mirrors packages/core/src/evidence-integrity.ts:325-334 -/
def checkDeploymentScope : EvidenceVerifierCheck :=
  runCheck V "deployment_scope"
      "Signed deployment scope matches the exported system boundary and period." do
    let expected ← buildExpectedDeploymentScope evidence
    let actual := (signedPackage evidence).optional "deploymentScope"
    if stableComparable V.host actual = stableComparable V.host expected then
      return pass "deployment_scope"
        "Signed deployment scope matches the exported system boundary and period."
    else
      fail V.host "deployment_scope"
        "Signed deployment scope does not match the exported system boundary and period."
        (textOrUndefined (stableComparable V.host expected))
        (textOrUndefined (stableComparable V.host actual))

/-- mirrors packages/core/src/evidence-integrity.ts:336-343 -/
def checkOscalFragments : EvidenceVerifierCheck :=
  runCheck V "oscal_fragments"
      "OSCAL component, SSP, assessment-results, and POA&M fragments are present." do
    let oscal := JsonRecord.get evidence "oscal"
    let present := (oscal.optional "componentDefinition").toBoolean &&
      (oscal.optional "systemSecurityPlan").toBoolean &&
      (oscal.optional "assessmentResults").toBoolean &&
      (oscal.optional "planOfActionAndMilestones").toBoolean
    if present then
      return pass "oscal_fragments"
        "OSCAL component, SSP, assessment-results, and POA&M fragments are present."
    else
      fail V.host "oscal_fragments" "One or more OSCAL fragments are missing."

/-- `(items ?? []).map((item) => item.id).sort().join(",")` -/
def sortedIds (H : Host) (items : JsValue) : Except TypeFault String := do
  let items ← (items.coalesce (.arr [])).elements "map"
  let ids ← items.mapM fun item => item.member "id"
  joinItems H (← sortItems H ids)

/-- mirrors packages/core/src/evidence-integrity.ts:345-354 -/
def checkPoamExport : EvidenceVerifierCheck :=
  runCheck V "poam_export" "POA&M export mirrors evidence POA&M items." do
    let expected ← sortedIds V.host (JsonRecord.get evidence "poamItems")
    let actual ← sortedIds V.host ((JsonRecord.get evidence "poamExport").optional "items")
    if actual = expected then
      return pass "poam_export" "POA&M export mirrors evidence POA&M items."
    else
      fail V.host "poam_export" "POA&M export items do not match evidence POA&M items."
        (.str expected) (.str actual)

/-- mirrors packages/core/src/evidence-integrity.ts:442-460 -/
def traceIsComplete (H : Host) (trace sourceEventIds packageId keyId deploymentScope : JsValue) :
    Except TypeFault Bool := do
  if !(trace.toBoolean && packageId.toBoolean && keyId.toBoolean && deploymentScope.toBoolean) then
    return false
  else
    let signatureRef := trace.optional "signatureRef"
    if !(← signatureRef.member "packageId").strictEq packageId then return false
    else if !(← signatureRef.member "keyId").strictEq keyId then return false
    else if stableComparable H (trace.optional "deploymentScope") ≠
        stableComparable H deploymentScope then return false
    else
      let traced ← sortItems H (← (trace.optional "sourceEventIds").spreadItems)
      let mapped ← sortItems H (← sourceEventIds.spreadItems)
      if stableComparable H (.arr traced) ≠ stableComparable H (.arr mapped) then return false
      else
        let reviewed := trace.optional "reviewedStatement"
        return (← reviewed.member "reviewedAt").toBoolean &&
          (← reviewed.member "reviewerRole").toBoolean

/-- The last trace of a control.
mirrors packages/core/src/evidence-integrity.ts:432 -/
def traceOf (traces : List (JsValue × JsValue)) (controlId : JsValue) : JsValue :=
  match traces.reverse.find? fun p => p.1.sameValueZero controlId with
  | some p => p.2
  | none => .undefined

/-- The control of a mapping without a complete trace.
mirrors packages/core/src/evidence-integrity.ts:438-440 -/
def missingTrace (traces : List (JsValue × JsValue)) (mapping : JsValue) :
    Except TypeFault (Option JsValue) := do
  let controlId ← mapping.member "controlId"
  let signed := signedPackage evidence
  let complete ← traceIsComplete V.host (traceOf traces controlId)
    (mapping.optional "sourceEventIds") (signed.optional "packageId") (signed.optional "keyId")
    (signed.optional "deploymentScope")
  return if complete then none else some controlId

/-- mirrors packages/core/src/evidence-integrity.ts:431-440 -/
def missingControlTraceIds : Except TypeFault (List JsValue) := do
  let views ← ((JsonRecord.get evidence "controlTraceViews").coalesce (.arr [])).elements "map"
  let traces ← views.mapM fun trace => do return (← trace.member "controlId", trace)
  let mappings ← ((JsonRecord.get evidence "controlMappings").coalesce (.arr [])).elements "filter"
  let missing ← mappings.mapM (missingTrace V evidence traces)
  return missing.filterMap id

/-- mirrors packages/core/src/evidence-integrity.ts:356-364 -/
def checkControlTraceViews : EvidenceVerifierCheck :=
  runCheck V "control_trace_views" ("Control trace views link controls to source events, " ++
      "reviewed statements, signatures, and deployment scope.") do
    let missing ← missingControlTraceIds V evidence
    if missing.length = 0 then
      return pass "control_trace_views" ("Control trace views link controls to source events, " ++
        "reviewed statements, signatures, and deployment scope.")
    else
      fail V.host "control_trace_views" "One or more controls are missing a complete trace view."
        (.str "<none>") (.str (← joinItems V.host missing))

inductive EvidenceStatus
  | verified
  | failed
  deriving DecidableEq, Repr

/-- mirrors packages/core/src/domain/evidence.ts:238-244 -/
structure EvidenceVerificationReport where
  status : EvidenceStatus
  verifiedAt : IsoDateTime
  packageHash : JsValue
  checks : List EvidenceVerifierCheck
  version : String

/-- All the checks of a package, in the order of the report. -/
def evidenceChecks : Except TypeFault (List EvidenceVerifierCheck) := do
  return checkPackageHash V evidence :: (← verifySectionHashes V evidence) ++
    [checkSignedPackageHash V evidence, checkSignature V evidence,
     checkDeploymentScope V evidence, checkOscalFragments V evidence, checkPoamExport V evidence,
     checkControlTraceViews V evidence]

/-- `now` is what the clock shows.
mirrors packages/core/src/evidence-integrity.ts:252-373 -/
def verifyEvidenceExport (value : JsValue) (verifiedAt : Option IsoDateTime) (now : IsoDateTime) :
    Except TypeFault EvidenceVerificationReport :=
  match value with
  | .obj evidence => do
    let reportTime := verifiedAt.getD (match JsonRecord.get evidence "generatedAt" with
      | .str generatedAt => generatedAt
      | _ => now)
    let checks ← evidenceChecks V evidence
    return {
      status := if checks.all fun check => check.status = .pass then .verified else .failed
      verifiedAt := reportTime
      packageHash := (manifest evidence).optional "packageHash"
      checks
      version := "evidence-verification-report:v1" }
  | _ => .ok {
      status := .failed
      verifiedAt := verifiedAt.getD now
      packageHash := .undefined
      checks := [⟨"package_shape", .fail, "Evidence package must be a JSON object.", none, none⟩]
      version := "evidence-verification-report:v1" }

end

end AccessKit.L2.Evidence
