import AccessKit.L2Audit.EvidenceTrust

/-!
# Packages under other keys

packages/core/src/evidence-integrity.ts:66-122 and 252-405: the key pair of the default
signer is made when the module is loaded, so that a package outlives the registry it was
signed for. A verifier with other keys finds the hashes, the scope, the documents and the
traces as they were; what it says of the package rests on one check.

Results:
* `reported_otherKeys`: what a verifier with other keys says of a verified package.
-/
namespace AccessKit.L2.Evidence
open AccessKit.Core AccessKit.L1
open AccessKit.L2.Audit (bind_ok)
open AccessKit.L2.Audit.Fixtures (exactHost)
open AccessKit.L2.Fixtures (timestamp)

/-! ## The name of a check -/

/-- Whatever the check returns has the name. -/
def NamedCheck (name : String) (check : Except TypeFault EvidenceVerifierCheck) : Prop :=
  ∀ c, check = .ok c → c.name = name

section
variable {κ : Type} {V : EvidenceVerifier κ} {evidence : JsonRecord} {name message : String}

theorem namedCheck_pass : NamedCheck name (.ok (pass name message)) := by
  intro c hc
  cases hc
  rfl

theorem namedCheck_fail {H : Host} {expected actual : JsValue} :
    NamedCheck name (fail H name message expected actual) := by
  intro c hc
  unfold fail at hc
  obtain ⟨_, -, hc⟩ := bind_ok.1 hc
  obtain ⟨_, -, hc⟩ := bind_ok.1 hc
  cases hc
  rfl

theorem namedCheck_bind {α : Type} {x : Except TypeFault α}
    {f : α → Except TypeFault EvidenceVerifierCheck} (h : ∀ a, NamedCheck name (f a)) :
    NamedCheck name (x >>= f) := by
  intro c hc
  obtain ⟨a, -, hc⟩ := bind_ok.1 hc
  exact h a c hc

theorem namedCheck_ite {p : Prop} [Decidable p]
    {check check' : Except TypeFault EvidenceVerifierCheck} (h : NamedCheck name check)
    (h' : NamedCheck name check') : NamedCheck name (if p then check else check') := by
  split
  · exact h
  · exact h'

theorem runCheck_name {check : Except TypeFault EvidenceVerifierCheck}
    (h : NamedCheck name check) : (runCheck V name message check).name = name := by
  unfold runCheck
  cases check with
  | ok c => exact h c rfl
  | error fault => rfl

theorem checkSignature_name : (checkSignature V evidence).name = "signed_package_signature" := by
  refine runCheck_name ?_
  dsimp only
  refine namedCheck_ite namedCheck_fail (namedCheck_bind fun keyId => ?_)
  cases trustedKey V keyId with
  | none => exact namedCheck_fail
  | some trusted =>
    refine namedCheck_ite namedCheck_fail (namedCheck_bind fun verifies => ?_)
    exact namedCheck_ite namedCheck_pass (namedCheck_bind fun algorithm => namedCheck_fail)

end

/-! ## Other keys -/

section
variable {κ : Type} {V V' : EvidenceVerifier κ} {evidence : JsonRecord}

/-- Verifiers of one program, with registries of their own. -/
structure OtherKeys (V V' : EvidenceVerifier κ) : Prop where
  host : V'.host = V.host
  verifyPayload : V'.verifyPayload = V.verifyPayload

/-- The key that the registry has under the identifier of the package verifies its
signature. -/
def TrustedBy (V : EvidenceVerifier κ) (evidence : JsonRecord) : Prop :=
  ∃ name p, toText V.host ((signedPackage evidence).optional "keyId") = .ok name ∧
    (V.trustedKeys.find? fun p => p.1 == name) = some p ∧ SignedBy V (signedPackage evidence) p.2

/-- The names of the checks that did not pass. -/
def failedNames (checks : List EvidenceVerifierCheck) : List String :=
  (checks.filter fun check => check.status ≠ .pass).map (·.name)

theorem failedNames_append (checks checks' : List EvidenceVerifierCheck) :
    failedNames (checks ++ checks') = failedNames checks ++ failedNames checks' := by
  rw [failedNames, List.filter_append, List.map_append]
  rfl

theorem failedNames_pass {checks : List EvidenceVerifierCheck}
    (h : ∀ c ∈ checks, c.status = .pass) : failedNames checks = [] := by
  rw [failedNames, List.filter_eq_nil_iff.2 fun c hc => by simp [h c hc], List.map_nil]

/-- All the checks but that of the signature pass under other keys. -/
theorem evidenceChecks_otherKeys (hother : OtherKeys V V') (h : Verified V evidence) :
    ∃ checks, evidenceChecks V' evidence = .ok checks ∧ failedNames checks =
      if (checkSignature V' evidence).status = .pass then [] else ["signed_package_signature"] := by
  have hhost := hother.host
  have hmatches : ∀ s, SectionMatches V evidence s → SectionMatches V' evidence s := by
    intro s hs
    unfold SectionMatches at hs ⊢
    rw [hhost]
    exact hs
  obtain ⟨sections, hsections, hne, hall⟩ := h.sections
  obtain ⟨sectionChecks, hchecks, hpassed⟩ := verifySectionHashes_pass.2
    ⟨sections, hsections, hne, fun s hs => hmatches s (hall s hs)⟩
  have hpackageHash := h.packageHash
  rw [← hhost] at hpackageHash
  have hpackage := checkPackageHash_pass.2 hpackageHash
  have hsigned := (checkSignedPackageHash_pass (V := V') hpackageHash).2 (hhost ▸ h.signedHash)
  have hscope : (checkDeploymentScope V' evidence).status = .pass :=
    checkDeploymentScope_pass.2 (hhost ▸ h.scope)
  have hoscal : (checkOscalFragments V' evidence).status = .pass :=
    checkOscalFragments_pass.2 h.oscal
  have hpoam : (checkPoamExport V' evidence).status = .pass :=
    checkPoamExport_pass.2 (hhost ▸ h.poam)
  have htraces : (checkControlTraceViews V' evidence).status = .pass := by
    refine checkControlTraceViews_pass.2 ?_
    have htraces := h.traces
    unfold TracesComplete at htraces ⊢
    rw [hhost]
    exact htraces
  refine ⟨_, bind_ok.2 ⟨sectionChecks, hchecks, rfl⟩, ?_⟩
  rw [failedNames_append, failedNames_pass (List.forall_mem_cons.2 ⟨hpackage, hpassed⟩),
    List.nil_append]
  unfold failedNames
  split
  · rename_i hsignature
    simp [hsigned, hsignature, hscope, hoscal, hpoam, htraces]
  · rename_i hsignature
    simp [hsigned, hsignature, hscope, hoscal, hpoam, htraces, checkSignature_name]

/-- **Under other keys**, a verified package is verified if its key is trusted; otherwise
the check of its signature fails, and no other. -/
theorem reported_otherKeys (hother : OtherKeys V V') {verifiedAt verifiedAt' : Option IsoDateTime}
    {now now' : IsoDateTime} (h : ReportedVerified V (.obj evidence) verifiedAt now) :
    ∃ report, verifyEvidenceExport V' (.obj evidence) verifiedAt' now' = .ok report ∧
      (report.status = .verified ↔ TrustedBy V' evidence) ∧
      (¬ TrustedBy V' evidence → failedNames report.checks = ["signed_package_signature"]) := by
  obtain ⟨checks, hchecks, hfailed⟩ := evidenceChecks_otherKeys hother (verified_iff.1 h)
  have htrusted : (checkSignature V' evidence).status = .pass ↔ TrustedBy V' evidence :=
    checkSignature_pass
  have hall : (checks.all fun check => check.status = .pass) = true ↔ failedNames checks = [] := by
    simp [failedNames, List.filter_eq_nil_iff]
  refine ⟨_, bind_ok.2 ⟨checks, hchecks, rfl⟩, ?_, fun hnot => ?_⟩
  · by_cases htrust : TrustedBy V' evidence
    · rw [if_pos (htrusted.2 htrust)] at hfailed
      exact iff_of_true (if_pos (hall.2 hfailed)) htrust
    · rw [if_neg (htrust ∘ htrusted.1)] at hfailed
      refine iff_of_false ?_ htrust
      rw [if_neg fun hpass => by rw [hall.1 hpass] at hfailed; cases hfailed]
      intro hstatus
      cases hstatus
  · rw [if_neg (hnot ∘ htrusted.1)] at hfailed
    exact hfailed

end

/-- After a restart the key pair is another one, and a quarter that was verified fails the
check of its signature. -/
theorem otherKeys_quarter : ∃ report,
    verifyEvidenceExport { verifierOf plainModule {} with trustedKeys := [] }
      (.obj quarterEvidence) none timestamp = .ok report ∧ report.status ≠ .verified ∧
    failedNames report.checks = ["signed_package_signature"] := by
  have hnot : ¬ TrustedBy { verifierOf plainModule {} with trustedKeys := [] }
      quarterEvidence := by
    rintro ⟨_, _, -, hfound, -⟩
    cases hfound
  have hother : OtherKeys (verifierOf plainModule {})
      { verifierOf plainModule {} with trustedKeys := [] } := ⟨rfl, rfl⟩
  obtain ⟨report, hreport, hstatus, hfailed⟩ := reported_otherKeys hother reported_quarter
  exact ⟨report, hreport, hnot ∘ hstatus.1, hfailed hnot⟩

end AccessKit.L2.Evidence
