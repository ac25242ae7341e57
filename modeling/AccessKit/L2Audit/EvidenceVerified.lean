import AccessKit.L2Audit.EvidenceIntegrity
import AccessKit.L2Audit.Records

/-!
# What a verified evidence package says

packages/core/src/evidence-integrity.ts:252-373, check by check: what a package is
that passes it. The checks compare hashes, one signature and two texts of
the deployment scope; what follows for the package itself is in `EvidenceTrust`.

Results:
* `verified_iff`: the report says `verified` exactly when all of it holds.
-/
namespace AccessKit.L2.Evidence
open AccessKit.Core AccessKit.L1
open AccessKit.L2.Audit (bind_ok)

/-! ## Passing a check -/

theorem strictEq_str {v : JsValue} {s : String} : v.strictEq (.str s) = true ↔ v = .str s := by
  cases v <;> simp [JsValue.strictEq]

theorem strictEq_comm (v w : JsValue) : v.strictEq w = w.strictEq v := by
  have hnumber : ∀ m n : JsNumber, m.strictEq n = n.strictEq m := by
    intro m n
    cases m <;> cases n <;> simp [JsNumber.strictEq, eq_comm]
  cases v <;> cases w <;> simp [JsValue.strictEq, hnumber, Bool.beq_comm]

/-- The check returns, and passes. -/
def Passes (check : Except TypeFault EvidenceVerifierCheck) : Prop :=
  ∃ c, check = .ok c ∧ c.status = .pass

theorem passes_pass (name message : String) :
    Passes (Except.ok (pass name message)) := ⟨_, rfl, rfl⟩

theorem not_passes_fail {H : Host} {name message : String} {expected actual : JsValue} :
    ¬ Passes (fail H name message expected actual) := by
  rintro ⟨c, hc, hpass⟩
  unfold fail at hc
  obtain ⟨_, _, hc⟩ := bind_ok.1 hc
  obtain ⟨_, _, hc⟩ := bind_ok.1 hc
  cases hc
  cases hpass

theorem passes_bind {α : Type} {x : Except TypeFault α}
    {f : α → Except TypeFault EvidenceVerifierCheck} :
    Passes (x >>= f) ↔ ∃ a, x = .ok a ∧ Passes (f a) := by
  unfold Passes
  simp only [bind_ok]
  exact ⟨fun ⟨c, ⟨a, ha, hc⟩, hp⟩ => ⟨a, ha, c, hc, hp⟩,
    fun ⟨a, ha, c, hc, hp⟩ => ⟨c, ⟨a, ha, hc⟩, hp⟩⟩

theorem passes_ite {p : Prop} [Decidable p] {name message : String}
    {check : Except TypeFault EvidenceVerifierCheck} (hcheck : ¬ Passes check) :
    Passes (if p then Except.ok (pass name message) else check) ↔ p := by
  by_cases hp : p
  · rw [if_pos hp]
    exact iff_of_true (passes_pass _ _) hp
  · rw [if_neg hp]
    exact iff_of_false hcheck hp

section
variable {κ : Type} {V : EvidenceVerifier κ} {evidence : JsonRecord}

theorem runCheck_pass {name message : String}
    {check : Except TypeFault EvidenceVerifierCheck} :
    (runCheck V name message check).status = .pass ↔ Passes check := by
  unfold runCheck Passes
  cases check with
  | ok c => simp
  | error fault => simp

theorem hashReference_ok {H : Host} {v : JsValue} {t : String} :
    hashReference H v = .ok t ↔
      ∃ text, stableStringify H v = some text ∧ t = "sha256:" ++ H.sha256Hex text := by
  unfold hashReference
  cases stableStringify H v <;> simp [eq_comm]

theorem hashReference_obj {H : Host} (fields : JsonRecord) :
    hashReference H (.obj fields) = .ok ("sha256:" ++ sha256 H (.obj fields)) := by
  rw [hashReference, sha256, stableStringify]
  rfl

theorem checkPackageHash_pass : (checkPackageHash V evidence).status = .pass ↔
    (manifest evidence).optional "packageHash" =
      .str ("sha256:" ++ sha256 V.host (.obj (canonicalEvidenceContent evidence))) := by
  rw [checkPackageHash, runCheck_pass, hashReference_obj]
  exact (passes_ite not_passes_fail).trans strictEq_str

theorem checkSignedPackageHash_pass {t : String}
    (h : (manifest evidence).optional "packageHash" = .str t) :
    (checkSignedPackageHash V evidence).status = .pass ↔
      (signedPackage evidence).optional "packageHash" = .str t := by
  rw [checkSignedPackageHash, runCheck_pass, h]
  exact (passes_ite not_passes_fail).trans strictEq_str

/-! ## The hashes of the sections -/

/-- The hash of a section in the manifest is that of the section it names. -/
def SectionMatches (V : EvidenceVerifier κ) (evidence : JsonRecord) (s : JsValue) : Prop :=
  ∃ name value text, (s.member "name" >>= toText V.host) = .ok name ∧
    sectionAt (canonicalEvidenceContent evidence) name = some value ∧
    stableStringify V.host value = some text ∧
    s.optional "hash" = .str ("sha256:" ++ V.host.sha256Hex text)

theorem checkSection_pass {name : String} {hash : JsValue} :
    (checkSection V evidence name hash).status = .pass ↔
      ∃ value text, sectionAt (canonicalEvidenceContent evidence) name = some value ∧
        stableStringify V.host value = some text ∧
        hash = .str ("sha256:" ++ V.host.sha256Hex text) := by
  rw [checkSection, runCheck_pass]
  cases sectionAt (canonicalEvidenceContent evidence) name with
  | none => exact iff_of_false not_passes_fail fun ⟨_, _, h, _⟩ => nomatch h
  | some value =>
    refine passes_bind.trans ?_
    constructor
    · rintro ⟨t, ht, hpass⟩
      obtain ⟨text, htext, rfl⟩ := hashReference_ok.1 ht
      exact ⟨value, text, rfl, htext, strictEq_str.1 ((passes_ite not_passes_fail).1 hpass)⟩
    · rintro ⟨_, text, h, htext, hhash⟩
      cases h
      exact ⟨_, hashReference_ok.2 ⟨text, htext, rfl⟩,
        (passes_ite not_passes_fail).2 (strictEq_str.2 hhash)⟩

theorem elements_ok {v : JsValue} {method : String} {items : List JsValue} :
    v.elements method = .ok items ↔ v = .arr items := by
  cases v <;> simp [JsValue.elements, JsValue.isNullish]

theorem verifySectionHashes_pass :
    (∃ checks, verifySectionHashes V evidence = .ok checks ∧ ∀ c ∈ checks, c.status = .pass) ↔
      ∃ sections, (manifest evidence).optional "sections" = .arr sections ∧ sections ≠ [] ∧
        ∀ s ∈ sections, SectionMatches V evidence s := by
  unfold verifySectionHashes
  constructor
  · rintro ⟨checks, hchecks, hpass⟩
    obtain ⟨length, hlength, hchecks⟩ := bind_ok.1 hchecks
    split at hchecks
    · cases hchecks
      exact absurd (hpass _ (List.mem_singleton_self _)) (by simp)
    · rename_i hne
      obtain ⟨sections, hsections, hchecks⟩ := bind_ok.1 hchecks
      rw [elements_ok] at hsections
      have hall := mapM_forall.1 ⟨checks, hchecks, hpass⟩
      rw [hsections] at hlength
      cases hlength
      have hnil : sections ≠ [] := by
        rintro rfl
        exact hne rfl
      refine ⟨sections, ?_, hnil, fun s hs => ?_⟩
      · unfold JsValue.coalesce at hsections
        split at hsections
        · cases hsections
          exact absurd rfl hnil
        · exact hsections
      · obtain ⟨c, hc, hp⟩ := hall s hs
        obtain ⟨v, hv, hc⟩ := bind_ok.1 hc
        obtain ⟨name, hname, hc⟩ := bind_ok.1 hc
        cases hc
        obtain ⟨value, text, hvalue, htext, hhash⟩ := checkSection_pass.1 hp
        exact ⟨name, value, text, bind_ok.2 ⟨v, hv, hname⟩, hvalue, htext, hhash⟩
  · rintro ⟨sections, hsections, hnil, hall⟩
    have hchecked : ∀ s ∈ sections, ∃ c, (do
        let name ← toText V.host (← s.member "name")
        return checkSection V evidence name (s.optional "hash")) = Except.ok c ∧
          c.status = .pass := by
      intro s hs
      obtain ⟨name, value, text, hname, hvalue, htext, hhash⟩ := hall s hs
      obtain ⟨v, hv, hname⟩ := bind_ok.1 hname
      exact ⟨_, bind_ok.2 ⟨v, hv, bind_ok.2 ⟨name, hname, rfl⟩⟩,
        checkSection_pass.2 ⟨value, text, hvalue, htext, hhash⟩⟩
    obtain ⟨checks, hchecks, hpass⟩ := mapM_forall.2 hchecked
    refine ⟨checks, ?_, hpass⟩
    have hlength : (JsValue.num (.fin sections.length)).strictEq (.num (.fin 0)) = false := by
      simpa [JsValue.strictEq, JsNumber.strictEq] using hnil
    have hgiven : ((manifest evidence).optional "sections").coalesce (.arr []) = .arr sections := by
      rw [hsections]
      rfl
    rw [hgiven]
    refine bind_ok.2 ⟨_, rfl, ?_⟩
    rw [if_neg (by simp [hlength])]
    exact bind_ok.2 ⟨sections, rfl, hchecks⟩

/-! ## The signature -/

theorem textAfter_eq_some {start text rest : String} :
    textAfter start text = some rest ↔ text = start ++ rest := by
  unfold textAfter
  constructor
  · intro h
    split at h
    · rename_i hstart
      obtain ⟨tail, htail⟩ := List.isPrefixOf_iff_prefix.1 hstart
      cases h
      rw [← String.toList_inj, String.toList_append, ← htail, String.toList_ofList,
        List.drop_left]
    · cases h
  · rintro rfl
    rw [String.toList_append, if_pos (List.isPrefixOf_iff_prefix.2 (List.prefix_append _ _)),
      List.drop_left, String.ofList_toList]

/-- The text that is signed. -/
def signedText (H : Host) (signed : JsValue) : String :=
  (stableStringify H (.obj (unsignedPackage signed))).getD ""

/-- A key of the registry verifies the signature of a package over the package. -/
def SignedBy (V : EvidenceVerifier κ) (signed : JsValue) (key : TrustedEvidenceSigningKey κ) :
    Prop :=
  signed.optional "signatureAlgorithm" = .str key.algorithm ∧
    ∃ signature, signed.optional "signature" = .str (key.algorithm ++ ":" ++ signature) ∧
      V.verifyPayload key.publicKey (signedText V.host signed) signature = true

theorem verifySignedPackageSignature_ok {signed : JsValue} {publicKey : Option κ}
    {algorithm : String}
    (h : toText V.host (signed.optional "signatureAlgorithm") = .ok algorithm) :
    verifySignedPackageSignature V signed publicKey = .ok true ↔
      ∃ key signature, publicKey = some key ∧
        signed.optional "signature" = .str (algorithm ++ ":" ++ signature) ∧
        V.verifyPayload key (signedText V.host signed) signature = true := by
  unfold verifySignedPackageSignature
  rw [h]
  cases hs : signed.optional "signature" with
  | str text =>
    dsimp only [bind, Except.bind]
    cases hafter : textAfter (algorithm ++ ":") text with
    | none =>
      constructor
      · intro h
        cases h
      · rintro ⟨_, signature, _, heq, _⟩
        cases heq
        rw [textAfter_eq_some.2 rfl] at hafter
        cases hafter
    | some rest =>
      obtain rfl := textAfter_eq_some.1 hafter
      cases publicKey with
      | none =>
        constructor
        · intro h
          cases h
        · rintro ⟨_, _, h, _⟩
          cases h
      | some key =>
        constructor
        · intro hok
          exact ⟨key, rest, rfl, rfl, Except.ok.inj hok⟩
        · rintro ⟨key', signature, hkey, heq, hv⟩
          cases hkey
          have hsame : rest = signature := String.append_right_inj _ |>.1 (JsValue.str.inj heq)
          rw [hsame]
          exact congrArg Except.ok hv
  | _ =>
    refine iff_of_false (by simp [JsValue.isNullish, bind, Except.bind]) ?_
    rintro ⟨_, _, _, h, _⟩
    cases h

theorem passes_signature {signed : JsValue} {found : FoundKey κ}
    {name name' message message' : String} {failed : Except TypeFault EvidenceVerifierCheck}
    (hfailed : ¬ Passes failed) :
    Passes (if found.algorithm.strictEq (signed.optional "signatureAlgorithm") = false then
        failed
      else do
        if ← verifySignedPackageSignature V signed found.publicKey then
          return pass name message
        else
          fail V.host name' message'
            (.str ((← toText V.host found.algorithm) ++ ":<trusted-signature>"))
            (signed.optional "signature")) ↔
      found.algorithm.strictEq (signed.optional "signatureAlgorithm") = true ∧
        verifySignedPackageSignature V signed found.publicKey = .ok true := by
  cases hsame : found.algorithm.strictEq (signed.optional "signatureAlgorithm") with
  | false => exact iff_of_false hfailed (by simp)
  | true =>
    rw [if_neg (by simp), passes_bind]
    simp only [true_and]
    constructor
    · rintro ⟨b, hb, hpass⟩
      cases b with
      | true => exact hb
      | false =>
        obtain ⟨_, _, hfail⟩ := passes_bind.1 hpass
        exact absurd hfail not_passes_fail
    · exact fun h => ⟨true, h, passes_pass _ _⟩

theorem checkSignature_pass : (checkSignature V evidence).status = .pass ↔
    ∃ name p, toText V.host ((signedPackage evidence).optional "keyId") = .ok name ∧
      (V.trustedKeys.find? fun p => p.1 == name) = some p ∧
      SignedBy V (signedPackage evidence) p.2 := by
  rw [checkSignature, runCheck_pass]
  have htrue : ∀ {key : TrustedEvidenceSigningKey κ}, SignedBy V (signedPackage evidence) key →
      (signedPackage evidence).toBoolean = true := by
    rintro key ⟨-, _, hsignature, -⟩
    cases hs : signedPackage evidence <;> rw [hs] at hsignature <;> first
      | rfl
      | cases hsignature
  dsimp only
  cases hb : (signedPackage evidence).toBoolean with
  | false =>
    refine iff_of_false not_passes_fail fun ⟨_, _, _, _, hsigned⟩ => ?_
    rw [htrue hsigned] at hb
    cases hb
  | true =>
    refine passes_bind.trans ?_
    refine exists_congr fun name => ?_
    rw [exists_and_left]
    refine and_congr_right fun _ => ?_
    unfold trustedKey
    cases hf : V.trustedKeys.find? fun p => p.1 == name with
    | some p =>
      refine (passes_signature not_passes_fail).trans ?_
      rw [strictEq_comm, strictEq_str]
      constructor
      · rintro ⟨halgorithm, hv⟩
        obtain ⟨key, signature, hkey, hsignature, hv⟩ :=
          (verifySignedPackageSignature_ok (by rw [halgorithm]; rfl)).1 hv
        cases hkey
        exact ⟨p, rfl, halgorithm, signature, hsignature, hv⟩
      · rintro ⟨_, h, halgorithm, signature, hsignature, hv⟩
        cases h
        exact ⟨halgorithm, (verifySignedPackageSignature_ok (by rw [halgorithm]; rfl)).2
          ⟨_, signature, rfl, hsignature, hv⟩⟩
    | none =>
      refine iff_of_false (fun hpass => ?_) fun ⟨_, h, _⟩ => nomatch h
      by_cases hinherited : name ∈ inheritedMethods ∨ name = "__proto__"
      · -- what is inherited has no algorithm and is no key
        rw [if_pos hinherited] at hpass
        obtain ⟨halgorithm, hv⟩ := (passes_signature not_passes_fail).1 hpass
        have hu : (signedPackage evidence).optional "signatureAlgorithm" = .undefined := by
          cases h : (signedPackage evidence).optional "signatureAlgorithm" <;>
            simp_all [JsValue.strictEq]
        obtain ⟨_, _, hkey, _⟩ := (verifySignedPackageSignature_ok (by rw [hu]; rfl)).1 hv
        cases hkey
      · rw [if_neg hinherited] at hpass
        exact not_passes_fail hpass

/-! ## The scope, the documents and the plan of action -/

theorem checkDeploymentScope_pass : (checkDeploymentScope V evidence).status = .pass ↔
    ∃ expected, buildExpectedDeploymentScope evidence = .ok expected ∧
      stableComparable V.host ((signedPackage evidence).optional "deploymentScope") =
        stableComparable V.host expected := by
  rw [checkDeploymentScope, runCheck_pass, passes_bind]
  exact exists_congr fun _ => and_congr_right fun _ => passes_ite not_passes_fail

/-- The documents a package has to have. -/
def oscalParts : List String :=
  ["componentDefinition", "systemSecurityPlan", "assessmentResults", "planOfActionAndMilestones"]

theorem checkOscalFragments_pass : (checkOscalFragments V evidence).status = .pass ↔
    ∀ part ∈ oscalParts, ((JsonRecord.get evidence "oscal").optional part).toBoolean = true := by
  rw [checkOscalFragments, runCheck_pass]
  refine (passes_ite not_passes_fail).trans ?_
  simp [oscalParts, and_assoc]

theorem checkPoamExport_pass : (checkPoamExport V evidence).status = .pass ↔
    ∃ ids, sortedIds V.host (JsonRecord.get evidence "poamItems") = .ok ids ∧
      sortedIds V.host ((JsonRecord.get evidence "poamExport").optional "items") = .ok ids := by
  rw [checkPoamExport, runCheck_pass, passes_bind]
  refine exists_congr fun ids => and_congr_right fun _ => ?_
  rw [passes_bind]
  constructor
  · rintro ⟨actual, hactual, hpass⟩
    rw [hactual, (passes_ite not_passes_fail).1 hpass]
  · exact fun h => ⟨ids, h, (passes_ite not_passes_fail).2 rfl⟩

/-! ## The traces of the controls -/

/-- A trace says of a control what its mapping and the signed package say. -/
structure TraceComplete (H : Host) (trace sourceEventIds signed : JsValue) : Prop where
  present : trace.toBoolean = true
  packageId : (signed.optional "packageId").toBoolean = true
  keyId : (signed.optional "keyId").toBoolean = true
  deploymentScope : (signed.optional "deploymentScope").toBoolean = true
  samePackageId : ((trace.optional "signatureRef").optional "packageId").strictEq
    (signed.optional "packageId") = true
  sameKeyId : ((trace.optional "signatureRef").optional "keyId").strictEq
    (signed.optional "keyId") = true
  sameScope : stableComparable H (trace.optional "deploymentScope") =
    stableComparable H (signed.optional "deploymentScope")
  sameEvents : ∃ traced mapped,
    ((trace.optional "sourceEventIds").spreadItems >>= sortItems H) = .ok traced ∧
    (sourceEventIds.spreadItems >>= sortItems H) = .ok mapped ∧
    stableComparable H (.arr traced) = stableComparable H (.arr mapped)
  reviewedAt : ((trace.optional "reviewedStatement").optional "reviewedAt").toBoolean = true
  reviewerRole : ((trace.optional "reviewedStatement").optional "reviewerRole").toBoolean = true

theorem member_ok {v w : JsValue} {key : String} :
    v.member key = .ok w ↔ v.isNullish = false ∧ v.optional key = w := by
  unfold JsValue.member
  cases v.isNullish <;> simp

/-- A part that is there is part of something. -/
theorem isNullish_of_optional {v : JsValue} {key : String} (h : v.optional key ≠ .undefined) :
    v.isNullish = false := by
  cases v with
  | undefined | null => exact absurd rfl h
  | _ => rfl

theorem ne_undefined_of_strictEq {v w : JsValue} (h : v.strictEq w = true)
    (hw : w.toBoolean = true) : v ≠ .undefined := by
  rintro rfl
  cases w with
  | undefined => cases hw
  | _ => cases h

theorem ne_undefined_of_toBoolean {v : JsValue} (h : v.toBoolean = true) : v ≠ .undefined := by
  rintro rfl
  cases h

theorem traceIsComplete_ok {trace sourceEventIds signed : JsValue} :
    traceIsComplete V.host trace sourceEventIds (signed.optional "packageId")
      (signed.optional "keyId") (signed.optional "deploymentScope") = .ok true ↔
      TraceComplete V.host trace sourceEventIds signed := by
  unfold traceIsComplete
  constructor
  · intro h
    split at h
    · cases h
    · rename_i hpresent
      simp only [Bool.not_eq_true, Bool.not_eq_false', Bool.and_eq_true] at hpresent
      obtain ⟨⟨⟨htrace, hpackage⟩, hkey⟩, hscope⟩ := hpresent
      obtain ⟨packageId, hpackageId, h⟩ := bind_ok.1 h
      obtain ⟨-, rfl⟩ := member_ok.1 hpackageId
      split at h
      · cases h
      · rename_i hsamePackage
        obtain ⟨keyId, hkeyId, h⟩ := bind_ok.1 h
        obtain ⟨-, rfl⟩ := member_ok.1 hkeyId
        split at h
        · cases h
        · rename_i hsameKey
          split at h
          · cases h
          · rename_i hsameScope
            obtain ⟨_, hspread, h⟩ := bind_ok.1 h
            obtain ⟨traced, htraced, h⟩ := bind_ok.1 h
            obtain ⟨_, hspread', h⟩ := bind_ok.1 h
            obtain ⟨mapped, hmapped, h⟩ := bind_ok.1 h
            split at h
            · cases h
            · rename_i hsameEvents
              obtain ⟨reviewedAt, hreviewedAt, h⟩ := bind_ok.1 h
              obtain ⟨-, rfl⟩ := member_ok.1 hreviewedAt
              obtain ⟨reviewerRole, hreviewerRole, h⟩ := bind_ok.1 h
              obtain ⟨-, rfl⟩ := member_ok.1 hreviewerRole
              have hreviewed := Except.ok.inj h
              simp only [Bool.and_eq_true] at hreviewed
              exact ⟨htrace, hpackage, hkey, hscope, by simpa using hsamePackage,
                by simpa using hsameKey, not_not.1 hsameScope,
                ⟨traced, mapped, bind_ok.2 ⟨_, hspread, htraced⟩,
                  bind_ok.2 ⟨_, hspread', hmapped⟩, not_not.1 hsameEvents⟩,
                hreviewed.1, hreviewed.2⟩
  · intro h
    obtain ⟨traced, mapped, htraced, hmapped, hsame⟩ := h.sameEvents
    obtain ⟨_, hspread, htraced⟩ := bind_ok.1 htraced
    obtain ⟨_, hspread', hmapped⟩ := bind_ok.1 hmapped
    have hreference := isNullish_of_optional (ne_undefined_of_strictEq h.samePackageId h.packageId)
    have hreviewed := isNullish_of_optional (ne_undefined_of_toBoolean h.reviewedAt)
    rw [if_neg (by simp [h.present, h.packageId, h.keyId, h.deploymentScope])]
    refine bind_ok.2 ⟨_, member_ok.2 ⟨hreference, rfl⟩, ?_⟩
    rw [if_neg (by simp [h.samePackageId])]
    refine bind_ok.2 ⟨_, member_ok.2 ⟨hreference, rfl⟩, ?_⟩
    rw [if_neg (by simp [h.sameKeyId]), if_neg (not_not.2 h.sameScope)]
    refine bind_ok.2 ⟨_, hspread, bind_ok.2 ⟨_, htraced, bind_ok.2 ⟨_, hspread',
      bind_ok.2 ⟨_, hmapped, ?_⟩⟩⟩⟩
    rw [if_neg (not_not.2 hsame)]
    refine bind_ok.2 ⟨_, member_ok.2 ⟨hreviewed, rfl⟩,
      bind_ok.2 ⟨_, member_ok.2 ⟨hreviewed, rfl⟩, ?_⟩⟩
    rw [h.reviewedAt, h.reviewerRole]
    rfl

/-- Every mapping of a control has a complete trace. -/
def TracesComplete (V : EvidenceVerifier κ) (evidence : JsonRecord) : Prop :=
  ∃ views keyed mappings,
    (JsonRecord.get evidence "controlTraceViews").coalesce (.arr []) = .arr views ∧
    (views.mapM fun trace => do return (← trace.member "controlId", trace)) = Except.ok keyed ∧
    (JsonRecord.get evidence "controlMappings").coalesce (.arr []) = .arr mappings ∧
    ∀ m ∈ mappings, m.isNullish = false ∧ TraceComplete V.host
      (traceOf keyed (m.optional "controlId")) (m.optional "sourceEventIds")
      (signedPackage evidence)

theorem missingTrace_ok {traces : List (JsValue × JsValue)} {m : JsValue} :
    missingTrace V evidence traces m = .ok none ↔
      m.isNullish = false ∧ TraceComplete V.host (traceOf traces (m.optional "controlId"))
        (m.optional "sourceEventIds") (signedPackage evidence) := by
  unfold missingTrace
  simp only [bind_ok, member_ok, ← traceIsComplete_ok]
  constructor
  · rintro ⟨_, ⟨hm, rfl⟩, complete, hcomplete, h⟩
    cases complete with
    | true => exact ⟨hm, hcomplete⟩
    | false => cases h
  · rintro ⟨hm, hcomplete⟩
    exact ⟨_, ⟨hm, rfl⟩, true, hcomplete, rfl⟩

theorem checkControlTraceViews_pass : (checkControlTraceViews V evidence).status = .pass ↔
    TracesComplete V evidence := by
  have hcheck : ∀ missing : List JsValue, Passes (if missing.length = 0 then
        Except.ok (pass "control_trace_views" (
          "Control trace views link controls to source events, " ++
            "reviewed statements, signatures, and deployment scope."))
      else do
        fail V.host "control_trace_views" "One or more controls are missing a complete trace view."
          (.str "<none>") (.str (← joinItems V.host missing))) ↔ missing = [] := by
    intro missing
    refine (passes_ite fun hfail => ?_).trans List.length_eq_zero_iff
    obtain ⟨_, _, hfail⟩ := passes_bind.1 hfail
    exact not_passes_fail hfail
  rw [checkControlTraceViews, runCheck_pass, passes_bind]
  constructor
  · rintro ⟨missing, hmissing, hpass⟩
    obtain rfl := (hcheck missing).1 hpass
    obtain ⟨views, hviews, h⟩ := bind_ok.1 hmissing
    obtain ⟨keyed, hkeyed, h⟩ := bind_ok.1 h
    obtain ⟨mappings, hmappings, h⟩ := bind_ok.1 h
    obtain ⟨found, hfound, h⟩ := bind_ok.1 h
    have hnone : ∀ o ∈ found, o = none := List.filterMap_eq_nil_iff.1 (Except.ok.inj h)
    refine ⟨views, keyed, mappings, elements_ok.1 hviews, hkeyed, elements_ok.1 hmappings,
      fun m hm => missingTrace_ok.1 ?_⟩
    obtain ⟨o, ho, hnil⟩ := mapM_forall.1 ⟨found, hfound, hnone⟩ m hm
    rw [ho, hnil]
  · rintro ⟨views, keyed, mappings, hviews, hkeyed, hmappings, hall⟩
    obtain ⟨found, hfound, hnone⟩ := mapM_forall.2 fun m hm =>
      (⟨none, missingTrace_ok.2 (hall m hm), rfl⟩ :
        ∃ o, missingTrace V evidence keyed m = .ok o ∧ o = none)
    refine ⟨[], ?_, (hcheck []).2 rfl⟩
    refine bind_ok.2 ⟨views, elements_ok.2 hviews, bind_ok.2 ⟨keyed, hkeyed,
      bind_ok.2 ⟨mappings, elements_ok.2 hmappings, bind_ok.2 ⟨found, hfound, ?_⟩⟩⟩⟩
    have hnil : found.filterMap (fun o => o) = [] := by
      refine List.filterMap_eq_nil_iff.2 fun o ho => hnone o ho
    exact congrArg Except.ok hnil

/-! ## The report -/

/-- What a package is that passes every check. -/
structure Verified (V : EvidenceVerifier κ) (evidence : JsonRecord) : Prop where
  packageHash : (manifest evidence).optional "packageHash" =
    .str ("sha256:" ++ sha256 V.host (.obj (canonicalEvidenceContent evidence)))
  sections : ∃ sections, (manifest evidence).optional "sections" = .arr sections ∧
    sections ≠ [] ∧ ∀ s ∈ sections, SectionMatches V evidence s
  signedHash : (signedPackage evidence).optional "packageHash" =
    .str ("sha256:" ++ sha256 V.host (.obj (canonicalEvidenceContent evidence)))
  signature : ∃ name p, toText V.host ((signedPackage evidence).optional "keyId") = .ok name ∧
    (V.trustedKeys.find? fun p => p.1 == name) = some p ∧ SignedBy V (signedPackage evidence) p.2
  scope : ∃ expected, buildExpectedDeploymentScope evidence = .ok expected ∧
    stableComparable V.host ((signedPackage evidence).optional "deploymentScope") =
      stableComparable V.host expected
  oscal : ∀ part ∈ oscalParts, ((JsonRecord.get evidence "oscal").optional part).toBoolean = true
  poam : ∃ ids, sortedIds V.host (JsonRecord.get evidence "poamItems") = .ok ids ∧
    sortedIds V.host ((JsonRecord.get evidence "poamExport").optional "items") = .ok ids
  traces : TracesComplete V evidence

/-- The report of the verifier says that a package is verified. -/
def ReportedVerified (V : EvidenceVerifier κ) (value : JsValue) (verifiedAt : Option IsoDateTime)
    (now : IsoDateTime) : Prop :=
  ∃ report, verifyEvidenceExport V value verifiedAt now = .ok report ∧ report.status = .verified

theorem evidenceChecks_pass :
    (∃ checks, evidenceChecks V evidence = .ok checks ∧ ∀ c ∈ checks, c.status = .pass) ↔
      Verified V evidence := by
  unfold evidenceChecks
  constructor
  · rintro ⟨checks, hchecks, hpass⟩
    obtain ⟨sections, hsections, h⟩ := bind_ok.1 hchecks
    cases h
    obtain ⟨hpackage, hpass⟩ := List.forall_mem_cons.1 hpass
    obtain ⟨hall, hpass⟩ := List.forall_mem_append.1 hpass
    simp only [List.forall_mem_cons, List.not_mem_nil, false_imp_iff, implies_true,
      and_true] at hpass
    obtain ⟨hsigned, hsignature, hscope, hoscal, hpoam, htraces⟩ := hpass
    have hhash := checkPackageHash_pass.1 hpackage
    exact ⟨hhash, verifySectionHashes_pass.1 ⟨sections, hsections, hall⟩,
      (checkSignedPackageHash_pass hhash).1 hsigned, checkSignature_pass.1 hsignature,
      checkDeploymentScope_pass.1 hscope, checkOscalFragments_pass.1 hoscal,
      checkPoamExport_pass.1 hpoam, checkControlTraceViews_pass.1 htraces⟩
  · intro h
    obtain ⟨sections, hsections, hall⟩ := verifySectionHashes_pass.2 h.sections
    refine ⟨_, bind_ok.2 ⟨sections, hsections, rfl⟩, ?_⟩
    refine List.forall_mem_cons.2 ⟨checkPackageHash_pass.2 h.packageHash,
      List.forall_mem_append.2 ⟨hall, ?_⟩⟩
    simp only [List.forall_mem_cons, List.not_mem_nil, false_imp_iff, implies_true, and_true]
    exact ⟨(checkSignedPackageHash_pass h.packageHash).2 h.signedHash,
      checkSignature_pass.2 h.signature, checkDeploymentScope_pass.2 h.scope,
      checkOscalFragments_pass.2 h.oscal, checkPoamExport_pass.2 h.poam,
      checkControlTraceViews_pass.2 h.traces⟩

/-- **What a verified package is**, check by check. -/
theorem verified_iff {verifiedAt : Option IsoDateTime} {now : IsoDateTime} :
    ReportedVerified V (.obj evidence) verifiedAt now ↔ Verified V evidence := by
  rw [← evidenceChecks_pass]
  unfold ReportedVerified verifyEvidenceExport
  simp only [bind_ok]
  constructor
  · rintro ⟨report, ⟨checks, hchecks, h⟩, hstatus⟩
    cases h
    refine ⟨checks, hchecks, ?_⟩
    by_contra hne
    rw [if_neg (by simpa using hne)] at hstatus
    cases hstatus
  · rintro ⟨checks, hchecks, hpass⟩
    refine ⟨_, ⟨checks, hchecks, rfl⟩, ?_⟩
    rw [if_pos (by simpa using hpass)]

end

end AccessKit.L2.Evidence
