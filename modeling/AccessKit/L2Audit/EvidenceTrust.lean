import AccessKit.L2Audit.EvidenceFinalized
import AccessKit.L2Audit.EvidenceJson

/-!
# What a verified evidence package can be trusted for

packages/core/src/evidence-integrity.ts:235-460. The manifest hashes the content, the
signed package repeats the hash, and a trusted key signs the signed package, so that
nothing in the content can be changed under one signature, unless SHA-256 collides.

The scope and the traces are compared as texts that leave out what is named
`__proto__`, so that nothing is known of that.

Results:
* `sameContent_of_verified`: two verified packages with one signed package have
  one content.
* `attested_of_verified`: a verified package has the content of one that the owner
  of a trusted key attested.
* `scope_and_traces_of_verified`: what it says of its scope and its controls.
-/
namespace AccessKit.L2.Evidence
open AccessKit.Core AccessKit.L1
open AccessKit.L2.Audit (bind_ok)
open AccessKit.L2.Audit.Fixtures (exactHost printsNumbers_exact)
open AccessKit.L2.Fixtures (timestamp)

/-! ## What is hashed and what is signed -/

theorem isJson_content {evidence : JsonRecord} (h : IsJson (.obj evidence)) :
    IsJson (.obj (canonicalEvidenceContent evidence)) := isJson_filter h _

theorem isJson_unsigned (h : v ≠ .undefined → IsJson v) : IsJson (.obj (unsignedPackage v)) := by
  cases v with
  | obj fields => exact isJson_filter (h nofun) _
  | _ => exact .obj List.nodup_nil nofun

theorem optional_unsigned {signed : JsValue} {k : String} (hk : k ≠ "signature") :
    (JsValue.obj (unsignedPackage signed)).optional k = signed.optional k := by
  cases signed with
  | obj fields => exact get_filter fun _ => by simpa using hk
  | _ => rfl

/-! ## A quarter that is signed -/

/-- The signed package of the quarter. -/
def quarterEvidence : JsonRecord :=
  match signedEvidence exactHost (defaultEvidenceSigner plainModule) quarterDraft with
  | .ok evidence => evidence
  | .error _ => []

theorem signed_quarter : ∃ content ids ref,
    signedEvidence exactHost (defaultEvidenceSigner plainModule) quarterDraft =
      .ok quarterEvidence ∧
    SignedDraft exactHost (defaultEvidenceSigner plainModule) quarterDraft content quarterEvidence
      ids ref := by
  obtain ⟨content, evidence, ids, ref, hsigned, hs⟩ :=
    draft_quarter.signed exactHost (defaultEvidenceSigner plainModule)
  obtain rfl : quarterEvidence = evidence := by
    rw [quarterEvidence, hsigned]
  exact ⟨content, ids, ref, hsigned, hs⟩

theorem verified_quarter {V : EvidenceVerifier Unit} (hhost : V.host = exactHost)
    (hsigns : Signs V (defaultEvidenceSigner plainModule)
      (unsignedPackage (signedPackage quarterEvidence))) : Verified V quarterEvidence := by
  obtain ⟨content, ids, ref, -, hs⟩ := signed_quarter
  rw [← hhost] at hs
  exact (hs.verified_iff (hhost ▸ printsNumbers_exact) draft_quarter hsigns).2 sameEvents_quarter

theorem reported_quarter :
    ReportedVerified (verifierOf plainModule {}) (.obj quarterEvidence) none timestamp :=
  verified_iff.2 (verified_quarter rfl (signs_default (M := plainModule)
    (fun _ => beq_self_eq_true _) _))

theorem isJson_quarterDraft : IsJson (.obj quarterDraft) := by
  have hkeys : (quarterDraft.map (·.1)).Nodup := by decide
  have hempty : IsPart (.obj []) := isPart_fields List.nodup_nil trivial
  have hitem : ∀ {v}, IsPart v → v ≠ .undefined → IsPart (.arr [v]) := fun h hne =>
    isPart_json (.arr fun w hw => List.mem_singleton.1 hw ▸ h hne)
  have hname : ∀ {k s}, IsPart (.obj [(k, .str s)]) := fun {k s} =>
    isPart_fields (List.nodup_singleton k) (isPart_str s)
  have hboundary : ["boundaryId", "components"].Nodup := by decide
  have hmapping : ["controlId", "sourceEventIds"].Nodup := by decide
  have hstatement : ["controlId", "reviewerRole", "reviewedAt"].Nodup := by decide
  refine isJson_fields hkeys ⟨isPart_str _, isPart_str _, isPart_str _, isPart_str _,
    hitem (isPart_str _) nofun, hitem (isPart_str _) nofun,
    isPart_fields hboundary ⟨isPart_str _, hitem hname nofun⟩,
    hitem (isPart_fields hmapping ⟨isPart_str _, hitem (isPart_str _) nofun⟩) nofun,
    hitem (isPart_fields hstatement ⟨isPart_str _, isPart_str _, isPart_str _⟩) nofun,
    hitem hname nofun, hempty, isPart_nil, hempty, hempty, isPart_nil, isPart_nil, isPart_nil,
    hempty⟩

theorem isJson_quarter : IsJson (.obj quarterEvidence) := by
  obtain ⟨content, ids, ref, hsigned, -⟩ := signed_quarter
  refine draft_quarter.isJson_signedEvidence isJson_quarterDraft (fun ids hids hu => ?_) hsigned
  cases hids
  simp [JsValue.optional, JsonRecord.get] at hu

/-- A verifier that knows one signature. -/
def knowsQuarter : EvidenceVerifier Unit :=
  { verifierOf plainModule {} with
    verifyPayload := fun _ text _ =>
      text == signedText exactHost (signedPackage quarterEvidence) }

/-! ## One content -/

/-- Two texts with one hash. -/
def Collision (H : Host) (s t : String) : Prop := s ≠ t ∧ H.sha256Hex s = H.sha256Hex t

/-- The text of the content of a package. -/
def contentText (H : Host) (evidence : JsonRecord) : String :=
  (stableStringify H (.obj (canonicalEvidenceContent evidence))).getD ""

section
variable {κ : Type} {V : EvidenceVerifier κ} {evidence evidence' : JsonRecord}
  {verifiedAt verifiedAt' : Option IsoDateTime} {now now' : IsoDateTime}

/-- Contents with one hash are one content, or their texts collide. -/
theorem sameContent_of_hash {H : Host} (hprint : PrintsNumbers H)
    (he : IsJson (.obj evidence)) (he' : IsJson (.obj evidence'))
    (h : sha256 H (.obj (canonicalEvidenceContent evidence)) =
      sha256 H (.obj (canonicalEvidenceContent evidence'))) :
    SameJson (.obj (canonicalEvidenceContent evidence))
        (.obj (canonicalEvidenceContent evidence')) ∨
      Collision H (contentText H evidence) (contentText H evidence') := by
  by_cases htext : contentText H evidence = contentText H evidence'
  · refine .inl ((stableStringify_iff hprint (fun _ => isJson_content he)
      (fun _ => isJson_content he')).1 ?_)
    exact congrArg some htext
  · exact .inr ⟨htext, h⟩

theorem Verified.sameContent (hprint : PrintsNumbers V.host) (he : IsJson (.obj evidence))
    (he' : IsJson (.obj evidence')) (hv : Verified V evidence) (hv' : Verified V evidence')
    (hsigned : SameJson (signedPackage evidence) (signedPackage evidence')) :
    SameJson (.obj (canonicalEvidenceContent evidence))
        (.obj (canonicalEvidenceContent evidence')) ∨
      Collision V.host (contentText V.host evidence) (contentText V.host evidence') := by
  have hpart := hsigned.optional "packageHash"
  rw [hv.signedHash, hv'.signedHash] at hpart
  exact sameContent_of_hash hprint he he' (String.append_right_inj _ |>.1 hpart.str_inj)

/-- **Tamper evidence**: two verified packages with one signed package have one
content, up to the order of keys, or a collision of SHA-256. -/
theorem sameContent_of_verified (hprint : PrintsNumbers V.host)
    (he : IsJson (.obj evidence)) (he' : IsJson (.obj evidence'))
    (hv : ReportedVerified V (.obj evidence) verifiedAt now)
    (hv' : ReportedVerified V (.obj evidence') verifiedAt' now')
    (hsigned : SameJson (signedPackage evidence) (signedPackage evidence')) :
    SameJson (.obj (canonicalEvidenceContent evidence))
        (.obj (canonicalEvidenceContent evidence')) ∨
      Collision V.host (contentText V.host evidence) (contentText V.host evidence') :=
  (verified_iff.1 hv).sameContent hprint he he' (verified_iff.1 hv') hsigned

/-- The quarter and the quarter with a receipt have one content. -/
theorem sameContent_quarter :
    SameJson (.obj (canonicalEvidenceContent quarterEvidence))
        (.obj (canonicalEvidenceContent
          (JsonRecord.set "storageReceipt" .null quarterEvidence))) ∨
      Collision exactHost (contentText exactHost quarterEvidence)
        (contentText exactHost (JsonRecord.set "storageReceipt" .null quarterEvidence)) := by
  have hreported' : ReportedVerified (verifierOf plainModule {})
      (.obj (JsonRecord.set "storageReceipt" .null quarterEvidence)) none timestamp :=
    verified_iff.2
      ((verified_congr (evidenceChecks_set (by decide) (by decide) (by decide) _)).2
        (verified_iff.1 reported_quarter))
  refine sameContent_of_verified printsNumbers_exact isJson_quarter
    (isJson_set isJson_quarter .null) reported_quarter hreported' ?_
  rw [signedPackage, signedPackage, JsonRecord.get_set, if_neg (by decide)]
  exact .refl _

/-- **Unforgeability**: if a trusted key verifies a signature only over the signed
package of a package that its owner attested, a verified package has the content of
one that was attested, or there is a collision of SHA-256. -/
theorem attested_of_verified (Attested : κ → JsonRecord → Prop) (hprint : PrintsNumbers V.host)
    (hattested : ∀ key attested, Attested key attested → IsJson (.obj attested) ∧
      (signedPackage attested).optional "packageHash" =
        .str ("sha256:" ++ sha256 V.host (.obj (canonicalEvidenceContent attested))))
    (howner : ∀ p ∈ V.trustedKeys, ∀ text signature,
      V.verifyPayload p.2.publicKey text signature = true →
        ∃ attested, Attested p.2.publicKey attested ∧
          signedText V.host (signedPackage attested) = text)
    (he : IsJson (.obj evidence)) (hv : ReportedVerified V (.obj evidence) verifiedAt now) :
    ∃ p ∈ V.trustedKeys, ∃ attested, Attested p.2.publicKey attested ∧
      SameJson (.obj (unsignedPackage (signedPackage evidence)))
        (.obj (unsignedPackage (signedPackage attested))) ∧
      (SameJson (.obj (canonicalEvidenceContent evidence))
          (.obj (canonicalEvidenceContent attested)) ∨
        Collision V.host (contentText V.host evidence) (contentText V.host attested)) := by
  have hverified := verified_iff.1 hv
  obtain ⟨name, p, -, hp, -, signature, -, hsignature⟩ := hverified.signature
  have hmem := List.mem_of_find?_eq_some hp
  obtain ⟨attested, hby, htext⟩ := howner p hmem _ _ hsignature
  obtain ⟨hjson, hhash⟩ := hattested _ _ hby
  have hunsigned : SameJson (.obj (unsignedPackage (signedPackage evidence)))
      (.obj (unsignedPackage (signedPackage attested))) := by
    refine (stableStringify_iff hprint (fun _ => isJson_unsigned (isJson_get he))
      (fun _ => isJson_unsigned (isJson_get hjson))).1 (congrArg some htext.symm)
  have hpart := hunsigned.optional "packageHash"
  rw [optional_unsigned (by decide), optional_unsigned (by decide), hverified.signedHash,
    hhash] at hpart
  exact ⟨p, hmem, attested, hby, hunsigned,
    sameContent_of_hash hprint he hjson (String.append_right_inj _ |>.1 hpart.str_inj)⟩

/-- The quarter is what the owner of the key attested. -/
theorem attested_quarter : ∃ p ∈ knowsQuarter.trustedKeys, ∃ attested,
    attested = quarterEvidence ∧
      SameJson (.obj (unsignedPackage (signedPackage quarterEvidence)))
        (.obj (unsignedPackage (signedPackage attested))) ∧
      (SameJson (.obj (canonicalEvidenceContent quarterEvidence))
          (.obj (canonicalEvidenceContent attested)) ∨
        Collision exactHost (contentText exactHost quarterEvidence)
          (contentText exactHost attested)) := by
  have hv : Verified knowsQuarter quarterEvidence := verified_quarter rfl
    { named := by decide
      key := ⟨(defaultEvidenceSignatureKeyId, ⟨defaultSignatureAlgorithm, ()⟩), rfl, rfl, _, rfl,
        beq_self_eq_true _⟩ }
  have hreported : ReportedVerified knowsQuarter (.obj quarterEvidence) none timestamp :=
    verified_iff.2 hv
  refine attested_of_verified (fun _ attested => attested = quarterEvidence) printsNumbers_exact
    ?_ ?_ isJson_quarter hreported
  · rintro _ _ rfl
    exact ⟨isJson_quarter, hv.signedHash⟩
  · intro p _ text signature h
    exact ⟨quarterEvidence, rfl, (beq_iff_eq.1 h).symm⟩

/-! ## The scope -/

/-- A missing identifier is written as `null`. -/
theorem stableComparable_orNull {H : Host} (ids : List JsValue) :
    stableComparable H (deploymentScopeOf evidence ids) =
      stableComparable H (deploymentScopeOf evidence (ids.map JsValue.orNull)) := by
  have hkeys : flattenItems (ids.map JsValue.orNull) = flattenItems ids := by
    induction ids with
    | nil => rfl
    | cons v ids ih =>
      rw [List.map_cons, flattenItems, flattenItems, ih]
      cases v <;> rfl
  have htexts : ∀ keys, listedItems H keys (ids.map JsValue.orNull) = listedItems H keys ids := by
    intro keys
    rw [listedItems_eq, listedItems_eq, List.map_map]
    refine List.map_congr_left fun v _ => ?_
    cases v <;> rfl
  simp only [stableComparable, deploymentScopeOf, flattenKeys, flattenFields, hkeys,
    stringifyListed, listedFields, htexts]

theorem isJson_orNull {v : JsValue} (h : IsPart v) : IsJson v.orNull := by
  cases v with
  | undefined => exact .null
  | _ => exact h nofun

theorem scope_of_verified (hprint : PrintsNumbers V.host) (he : IsJson (.obj evidence))
    (hv : Verified V evidence) :
    buildExpectedDeploymentScope evidence = .ok .undefined ∧
        (signedPackage evidence).optional "deploymentScope" = .undefined ∨
      ∃ ids, componentIds (JsonRecord.get evidence "systemBoundary") = .ok ids ∧
        buildExpectedDeploymentScope evidence = .ok (deploymentScopeOf evidence ids) ∧
        SameJson (withoutProto ((signedPackage evidence).optional "deploymentScope"))
          (withoutProto (deploymentScopeOf evidence (ids.map JsValue.orNull))) := by
  obtain ⟨expected, hexpected, hsame⟩ := hv.scope
  have hscope : (signedPackage evidence).optional "deploymentScope" ≠ .undefined →
      IsJson ((signedPackage evidence).optional "deploymentScope") :=
    isJson_optional (isJson_get he)
  have hbuilt := hexpected
  unfold buildExpectedDeploymentScope at hbuilt
  dsimp only at hbuilt
  split at hbuilt
  · obtain ⟨ids, hids, h⟩ := bind_ok.1 hbuilt
    cases h
    have hnamed : ∀ id ∈ ids.map JsValue.orNull, IsJson id := by
      intro id hid
      obtain ⟨v, hv, rfl⟩ := List.mem_map.1 hid
      exact isJson_orNull (isPart_componentIds (isJson_get he) hids v hv)
    refine .inr ⟨ids, hids, hexpected, (stableComparable_iff hprint hscope fun _ =>
      isJson_deploymentScopeOf he hnamed).1 ?_⟩
    rw [← stableComparable_orNull]
    exact hsame
  · cases hbuilt
    refine .inl ⟨hexpected, ?_⟩
    have hnone := (stableComparable_iff hprint hscope fun h => absurd rfl h).1 hsame
    exact withoutProto_eq_undefined.1 hnone.symm.undefined_left

/-! ## The traces -/

/-- What a trace says of the control of a mapping under a signed package. -/
structure Traces (trace mapping signed : JsValue) : Prop where
  controlId : trace.optional "controlId" = mapping.optional "controlId"
  packageId : (trace.optional "signatureRef").optional "packageId" = signed.optional "packageId"
  keyId : (trace.optional "signatureRef").optional "keyId" = signed.optional "keyId"
  deploymentScope : SameJson (withoutProto (trace.optional "deploymentScope"))
    (withoutProto (signed.optional "deploymentScope"))
  sourceEventIds : SameItems (trace.optional "sourceEventIds") (mapping.optional "sourceEventIds")

theorem mem_of_traceOf {traces : List (JsValue × JsValue)} {id : JsValue}
    (h : (traceOf traces id).toBoolean = true) :
    ∃ key, (key, traceOf traces id) ∈ traces ∧ key.sameValueZero id = true := by
  unfold traceOf at h ⊢
  cases hf : traces.reverse.find? fun p => p.1.sameValueZero id with
  | none =>
    rw [hf] at h
    cases h
  | some p =>
    have hkey : p.1.sameValueZero id = true := by simpa using List.find?_some hf
    exact ⟨p.1, List.mem_reverse.1 (List.mem_of_find?_eq_some hf), hkey⟩

theorem traces_of_verified (hprint : PrintsNumbers V.host) (he : IsJson (.obj evidence))
    (hv : Verified V evidence) :
    ∃ views mappings,
      (JsonRecord.get evidence "controlTraceViews").coalesce (.arr []) = .arr views ∧
      (JsonRecord.get evidence "controlMappings").coalesce (.arr []) = .arr mappings ∧
      ∀ m ∈ mappings, ∃ trace ∈ views, Traces trace m (signedPackage evidence) := by
  obtain ⟨views, keyed, mappings, hviews, hkeyed, hmappings, hall⟩ := hv.traces
  refine ⟨views, mappings, hviews, hmappings, fun m hm => ?_⟩
  obtain ⟨-, hcomplete⟩ := hall m hm
  obtain ⟨key, hmem, hkey⟩ := mem_of_traceOf hcomplete.present
  obtain ⟨trace, htrace, hread⟩ := forall₂_exists_right (mapM_ok.1 hkeyed).flip hmem
  obtain ⟨_, hid, hpair⟩ := bind_ok.1 hread
  obtain ⟨-, rfl⟩ := member_ok.1 hid
  obtain ⟨rfl, hfound⟩ := Prod.mk.inj (Except.ok.inj hpair)
  rw [← hfound] at hcomplete
  have hitem : ∀ {k : String} {items : List JsValue},
      (JsonRecord.get evidence k).coalesce (.arr []) = .arr items → ∀ v ∈ items, IsJson v := by
    intro k items hk
    have hjson := isJson_coalesce (isJson_get he (k := k)) (IsJson.arr (List.forall_mem_nil _))
    rw [hk] at hjson
    cases hjson with
    | arr hjson => exact hjson
  have hview := hitem hviews trace htrace
  have hmapping := hitem hmappings m hm
  obtain ⟨traced, mapped, htraced, hmapped, hevents⟩ := hcomplete.sameEvents
  refine ⟨trace, htrace, ⟨eq_of_sameValueZero (isJson_optional fun _ => hview) hkey,
    eq_of_strictEq hcomplete.samePackageId, eq_of_strictEq hcomplete.sameKeyId,
    (stableComparable_iff hprint (isJson_optional fun _ => hview)
      (isJson_optional (isJson_get he))).1 hcomplete.sameScope,
    sameItems_of_sorted hprint (isJson_optional fun _ => hview)
      (isJson_optional fun _ => hmapping) htraced hmapped hevents⟩⟩

/-- **What a verified package says**: its signed scope is the one of its content,
and each of its mappings is traced under the signed package. -/
theorem scope_and_traces_of_verified (hprint : PrintsNumbers V.host)
    (he : IsJson (.obj evidence)) (hv : ReportedVerified V (.obj evidence) verifiedAt now) :
    (buildExpectedDeploymentScope evidence = .ok .undefined ∧
        (signedPackage evidence).optional "deploymentScope" = .undefined ∨
      ∃ ids, componentIds (JsonRecord.get evidence "systemBoundary") = .ok ids ∧
        SameJson (withoutProto ((signedPackage evidence).optional "deploymentScope"))
          (withoutProto (deploymentScopeOf evidence (ids.map JsValue.orNull)))) ∧
    ∃ views mappings,
      (JsonRecord.get evidence "controlTraceViews").coalesce (.arr []) = .arr views ∧
      (JsonRecord.get evidence "controlMappings").coalesce (.arr []) = .arr mappings ∧
      ∀ m ∈ mappings, ∃ trace ∈ views, Traces trace m (signedPackage evidence) := by
  have hverified := verified_iff.1 hv
  refine ⟨(scope_of_verified hprint he hverified).imp_right ?_,
    traces_of_verified hprint he hverified⟩
  rintro ⟨ids, hids, -, hscope⟩
  exact ⟨ids, hids, hscope⟩

/-- What the quarter says. -/
theorem scope_and_traces_quarter :
    (buildExpectedDeploymentScope quarterEvidence = .ok .undefined ∧
        (signedPackage quarterEvidence).optional "deploymentScope" = .undefined ∨
      ∃ ids, componentIds (JsonRecord.get quarterEvidence "systemBoundary") = .ok ids ∧
        SameJson (withoutProto ((signedPackage quarterEvidence).optional "deploymentScope"))
          (withoutProto (deploymentScopeOf quarterEvidence (ids.map JsValue.orNull)))) ∧
    ∃ views mappings,
      (JsonRecord.get quarterEvidence "controlTraceViews").coalesce (.arr []) = .arr views ∧
      (JsonRecord.get quarterEvidence "controlMappings").coalesce (.arr []) = .arr mappings ∧
      ∀ m ∈ mappings, ∃ trace ∈ views, Traces trace m (signedPackage quarterEvidence) :=
  scope_and_traces_of_verified printsNumbers_exact isJson_quarter reported_quarter

end

end AccessKit.L2.Evidence
