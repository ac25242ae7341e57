import AccessKit.L2Audit.EvidenceDrafts
import AccessKit.L2Audit.EvidenceTexts
import AccessKit.L2Audit.Fixtures
import Mathlib.Data.Set.List

/-!
# What is finalized is verified

packages/core/src/evidence-integrity.ts:124-137 against 252-373: the builder, the
signer and the verifier each make the scope, the hashes and the traces of a package from
the draft. They agree on every draft that has its type, but for a control that is mapped
twice: the builder traces each mapping with its own source events, and the verifier
compares every mapping with the last trace of its control.

Results:
* `SignedDraft.verified_iff`: when a signed draft passes every check.
* `Draft.finalized`: a draft of its type is finalized.
* `finalized_verified`: what the verifier says of a finalized draft, at any time.
-/
namespace AccessKit.L2.Evidence
open AccessKit.Core AccessKit.L1
open AccessKit.L2.Audit (bind_ok)
open AccessKit.L2.Audit.Fixtures (exactHost printsNumbers_exact)
open AccessKit.L2.Fixtures (timestamp)

/-! ## The manifest -/

theorem filter_set {kept : String × JsValue → Bool} {key : String}
    (hkey : ∀ v, kept (key, v) = false) (v : JsValue) (fields : JsonRecord) :
    (JsonRecord.set key v fields).filter kept = fields.filter kept := by
  induction fields with
  | nil => simp [JsonRecord.set, hkey]
  | cons p fields ih =>
    obtain ⟨name, w⟩ := p
    by_cases hname : name = key
    · simp [JsonRecord.set, hname, hkey]
    · simp only [JsonRecord.set, beq_iff_eq, hname, if_false, List.filter_cons, ih]

/-- What is added to a package is no part of its content. -/
theorem content_set {key : String} (hkey : key ∈ attestationKeys) (v : JsValue)
    (evidence : JsonRecord) : canonicalEvidenceContent (JsonRecord.set key v evidence) =
      canonicalEvidenceContent evidence :=
  filter_set (fun _ => by simpa using hkey) v evidence

section
variable {H : Host} {draft content : JsonRecord} {scope : JsValue}
  {ref : EvidencePackageSignatureRef}

theorem Completed.section_ne (hc : Completed draft content scope ref) (h : Draft draft) :
    ∀ name ∈ evidenceSections, JsonRecord.get content name ≠ .undefined := by
  obtain ⟨_, hpoam, -⟩ := hc.poamExport
  obtain ⟨_, hpart⟩ := hc.oscal "componentDefinition" (by simp [oscalParts])
  obtain ⟨_, _, hmappings, hviews, -⟩ := hc.traces
  obtain ⟨_, hstatements, -⟩ := h.statements
  obtain ⟨_, hitems, -⟩ := h.poamItems
  obtain ⟨_, _, hboundary, -⟩ := h.boundary
  intro name hname
  by_cases hbuilt : name ∈ builtSections
  · simp only [builtSections, List.mem_cons, List.not_mem_nil, or_false] at hbuilt
    rcases hbuilt with rfl | rfl | rfl
    · simp [hpoam]
    · intro hu
      rw [hu] at hpart
      cases hpart
    · simp [hviews]
  · rw [hc.kept name hbuilt]
    by_cases hgiven : name ∈ givenSections
    · exact h.given name hgiven
    · have hrest : name ∈ ["controlMappings", "poamItems", "systemBoundary",
          "controlStatements"] := by
        simp only [evidenceSections, builtSections, givenSections, List.mem_cons, List.not_mem_nil,
          or_false] at hname hbuilt hgiven ⊢
        tauto
      simp only [List.mem_cons, List.not_mem_nil, or_false] at hrest
      rcases hrest with rfl | rfl | rfl | rfl
      · simp [hmappings]
      · simp [hitems]
      · simp [hboundary]
      · simp [hstatements]

/-- The entry of a section in the manifest. -/
structure SectionEntry (H : Host) (content : JsonRecord) (name : String) (s : JsValue) : Prop where
  present : s.isNullish = false
  named : s.optional "name" = .str name
  hash : ∃ text, stableStringify H (JsonRecord.get content name) = some text ∧
    s.optional "hash" = .str ("sha256:" ++ H.sha256Hex text)

theorem evidenceSectionHash_ok {name : String} (h : JsonRecord.get content name ≠ .undefined) :
    ∃ s, evidenceSectionHash H name (JsonRecord.get content name) = .ok s ∧
      SectionEntry H content name s := by
  cases htext : stableStringify H (JsonRecord.get content name) with
  | none => exact absurd (stableStringify_eq_none.1 htext) h
  | some text =>
    have hhash := hashReference_ok.2 ⟨text, htext, rfl⟩
    exact ⟨_, bind_ok.2 ⟨_, hhash, rfl⟩, rfl, rfl, text, htext, rfl⟩

theorem attachEvidenceIntegrityManifest_ok
    (h : ∀ name ∈ evidenceSections, JsonRecord.get content name ≠ .undefined) :
    ∃ manifest sections, attachEvidenceIntegrityManifest H content =
        .ok (JsonRecord.set "integrityManifest" manifest content) ∧
      manifest.optional "packageHash" =
        .str ("sha256:" ++ sha256 H (.obj (canonicalEvidenceContent content))) ∧
      manifest.optional "sections" = .arr sections ∧
      List.Forall₂ (SectionEntry H content) evidenceSections sections := by
  obtain ⟨sections, hsections, hall⟩ := mapM_exists fun name hname =>
    evidenceSectionHash_ok (H := H) (h name hname)
  exact ⟨_, sections, bind_ok.2 ⟨_, hashReference_obj _, bind_ok.2 ⟨sections, hsections, rfl⟩⟩,
    rfl, rfl, hall⟩

end

/-! ## The signed package -/

/-- A signature over a package, under a key that the verifier trusts for the algorithm
of the signer, and that it verifies. -/
structure Signs {κ : Type} (V : EvidenceVerifier κ) (signer : EvidenceSigner)
    (unsigned : JsonRecord) : Prop where
  named : signer.keyId ≠ ""
  key : ∃ p, (V.trustedKeys.find? fun p => p.1 == signer.keyId) = some p ∧
    p.2.algorithm = signer.signatureAlgorithm ∧
    ∃ signature, signer.sign unsigned = signer.signatureAlgorithm ++ ":" ++ signature ∧
      V.verifyPayload p.2.publicKey ((stableStringify V.host (.obj unsigned)).getD "") signature =
        true

/-- What the signed package of a completed draft says. -/
structure SignedPackage (H : Host) (signer : EvidenceSigner) (signed : JsValue)
    (packageId packageHash : String) (scope : JsValue) : Prop where
  packageId : signed.optional "packageId" = .str packageId
  packageHash : signed.optional "packageHash" = .str packageHash
  keyId : signed.optional "keyId" = .str signer.keyId
  algorithm : signed.optional "signatureAlgorithm" = .str signer.signatureAlgorithm
  deploymentScope : signed.optional "deploymentScope" = scope
  signature : signed.optional "signature" = .str (signer.sign (unsignedPackage signed))

section
variable {draft content evidence : JsonRecord} {scope : JsValue}
  {ref : EvidencePackageSignatureRef}

theorem attachSignedEvidencePackage_ok (H : Host) (signer : EvidenceSigner) (h : Draft draft)
    (hc : Completed draft content scope ref)
    (hkept : ∀ k, k ≠ "integrityManifest" → JsonRecord.get evidence k = JsonRecord.get content k)
    {packageId packageHash : String}
    (hid : signedEvidencePackageId (JsonRecord.get draft "exportId") = .ok packageId)
    (hhash : (manifest evidence).optional "packageHash" = .str packageHash) :
    ∃ signed, attachSignedEvidencePackage H signer evidence =
        .ok (JsonRecord.set "signedPackage" signed evidence) ∧
      SignedPackage H signer signed packageId packageHash scope := by
  obtain ⟨fields, hplan⟩ := hc.oscal "systemSecurityPlan" (by simp [oscalParts])
  obtain ⟨statements, hstatements, hshape⟩ := h.statements
  obtain ⟨_, views, -, hviews, htraces⟩ := hc.traces
  have hdraft : ∀ k, k ≠ "integrityManifest" → k ∉ builtSections →
      JsonRecord.get evidence k = JsonRecord.get draft k := fun k hk hb =>
    (hkept k hk).trans (hc.kept k hb)
  have hrefs : ∀ s ∈ statements, ∃ r, (do
      return JsValue.str (← evidenceControlStatementRef H (← s.member "controlId"))) =
        Except.ok r ∧ True := by
    intro s hs
    obtain ⟨id, hcontrol⟩ := (hshape s hs).controlId
    exact ⟨_, bind_ok.2 ⟨_, member_ok.2 ⟨isNullish_of_str hcontrol, hcontrol⟩,
      bind_ok.2 ⟨_, rfl, rfl⟩⟩, trivial⟩
  have hids : ∀ trace ∈ views, ∃ r, trace.member "traceId" = .ok r ∧ True := by
    intro trace htrace
    obtain ⟨_, -, hview⟩ := forall₂_exists_right htraces.flip htrace
    exact ⟨_, member_ok.2 ⟨isNullish_of_toBoolean hview.present, rfl⟩, trivial⟩
  obtain ⟨refs, hrefs, -⟩ := mapM_exists hrefs
  obtain ⟨ids, hids, -⟩ := mapM_exists hids
  refine ⟨_, bind_ok.2 ⟨packageId, ?_, bind_ok.2 ⟨.obj fields, ?_, bind_ok.2 ⟨scope, ?_,
    bind_ok.2 ⟨statements, ?_, bind_ok.2 ⟨refs, hrefs, bind_ok.2 ⟨views, ?_,
      bind_ok.2 ⟨ids, hids, bind_ok.2 ⟨.str packageHash, ?_, rfl⟩⟩⟩⟩⟩⟩⟩⟩,
    rfl, rfl, rfl, rfl, rfl, rfl⟩
  · rw [hdraft _ (by decide) (by simp [builtSections])]
    exact hid
  · rw [hkept _ (by decide)]
    have hpresent : (JsonRecord.get content "oscal").optional "systemSecurityPlan" ≠
        .undefined := by
      simp [hplan]
    exact member_ok.2 ⟨isNullish_of_optional hpresent, hplan⟩
  · have hscope := hc.plan
    rw [hplan] at hscope
    exact member_ok.2 ⟨rfl, hscope⟩
  · rw [hdraft _ (by decide) (by simp [builtSections])]
    exact elements_ok.2 hstatements
  · rw [hkept _ (by decide)]
    exact elements_ok.2 hviews
  · exact member_ok.2 ⟨isNullish_of_str hhash, hhash⟩

end

/-! ## The identifiers of the plan of action -/

theorem itemTexts_strings {H : Host} (ids : List String) :
    itemTexts H (ids.map .str) = .ok ids := by
  induction ids with
  | nil => rfl
  | cons id ids ih =>
    rw [List.map_cons, itemTexts, ih]
    rfl

theorem sortedIds_ok {H : Host} {items : List JsValue}
    (h : ∀ item ∈ items, ∃ id, item.optional "id" = .str id) :
    ∃ text, sortedIds H (.arr items) = .ok text := by
  have hread : ∀ item ∈ items, ∃ id, item.member "id" = .ok id ∧ ∃ s, JsValue.str s = id := by
    intro item hitem
    obtain ⟨id, hid⟩ := h item hitem
    exact ⟨_, member_ok.2 ⟨isNullish_of_str hid, hid⟩, id, rfl⟩
  obtain ⟨ids, hids, hall⟩ := mapM_exists hread
  obtain ⟨names, rfl⟩ : ids ∈ Set.range (List.map JsValue.str) := by
    rw [Set.range_list_map]
    intro id hid
    obtain ⟨_, -, hs⟩ := forall₂_exists_right hall.flip hid
    exact hs
  refine ⟨joinWith "," (names.mergeSort stringLe), bind_ok.2 ⟨items, rfl, bind_ok.2 ⟨_, hids,
    bind_ok.2 ⟨_, sortItems_strings names, ?_⟩⟩⟩⟩
  rw [joinItems, itemTexts_strings]
  rfl

/-! ## The report on a signed package -/

section
variable {κ : Type} {V : EvidenceVerifier κ} {evidence evidence' : JsonRecord}

theorem evidenceChecks_congr (hmanifest : manifest evidence' = manifest evidence)
    (hsigned : signedPackage evidence' = signedPackage evidence)
    (hcontent : canonicalEvidenceContent evidence' = canonicalEvidenceContent evidence) :
    evidenceChecks V evidence' = evidenceChecks V evidence := by
  have hkept : ∀ k ∉ attestationKeys, JsonRecord.get evidence' k = JsonRecord.get evidence k := by
    intro k hk
    have hget : ∀ fields, JsonRecord.get (canonicalEvidenceContent fields) k =
        JsonRecord.get fields k := fun fields => get_filter fun _ => by simpa using hk
    rw [← hget, hcontent, hget]
  have hoscal := hkept "oscal" (by decide)
  have hitems := hkept "poamItems" (by decide)
  have hpoam := hkept "poamExport" (by decide)
  have hviews := hkept "controlTraceViews" (by decide)
  have hmappings := hkept "controlMappings" (by decide)
  have hscope : buildExpectedDeploymentScope evidence' = buildExpectedDeploymentScope evidence := by
    unfold buildExpectedDeploymentScope buildDeploymentScope deploymentScopeOf
    rw [hkept _ (by decide), hkept _ (by decide), hkept _ (by decide), hkept _ (by decide)]
  have htraces : ∀ traces m, missingTrace V evidence' traces m = missingTrace V evidence traces m :=
    fun traces m => by rw [missingTrace, missingTrace, hsigned]
  have hmissing : missingControlTraceIds V evidence' = missingControlTraceIds V evidence := by
    unfold missingControlTraceIds
    rw [hviews, hmappings, funext₂ htraces]
  have hsections : verifySectionHashes V evidence' = verifySectionHashes V evidence := by
    unfold verifySectionHashes checkSection
    rw [hmanifest, hcontent]
  unfold evidenceChecks checkPackageHash checkSignedPackageHash checkSignature checkDeploymentScope
    checkOscalFragments checkPoamExport checkControlTraceViews
  rw [hmanifest, hsigned, hcontent, hoscal, hitems, hpoam, hscope, hmissing, hsections]

/-- What is added to a signed package does not change what the verifier checks. -/
theorem evidenceChecks_set {key : String} (hkey : key ∈ attestationKeys)
    (hmanifest : key ≠ "integrityManifest") (hsigned : key ≠ "signedPackage") (v : JsValue) :
    evidenceChecks V (JsonRecord.set key v evidence) = evidenceChecks V evidence := by
  refine evidenceChecks_congr ?_ ?_ (content_set hkey v evidence)
  · rw [manifest, JsonRecord.get_set, if_neg hmanifest]
    rfl
  · rw [signedPackage, JsonRecord.get_set, if_neg hsigned]
    rfl

theorem verified_congr (h : evidenceChecks V evidence' = evidenceChecks V evidence) :
    Verified V evidence' ↔ Verified V evidence := by
  rw [← evidenceChecks_pass, ← evidenceChecks_pass, h]

end

/-! ## The traces of a signed draft -/

/-- A completed draft with its manifest and its signed package. -/
structure SignedDraft (H : Host) (signer : EvidenceSigner) (draft content evidence : JsonRecord)
    (ids : List JsValue) (ref : EvidencePackageSignatureRef) : Prop where
  completed : Completed draft content (deploymentScopeOf draft ids) ref
  key : ref.keyId = signer.keyId
  components : componentIds (JsonRecord.get draft "systemBoundary") = .ok ids
  package : signedEvidencePackageId (JsonRecord.get draft "exportId") = .ok ref.packageId
  kept : ∀ k ∉ attestationKeys, JsonRecord.get evidence k = JsonRecord.get content k
  same : canonicalEvidenceContent evidence = canonicalEvidenceContent content
  hash : (manifest evidence).optional "packageHash" =
    .str ("sha256:" ++ sha256 H (.obj (canonicalEvidenceContent content)))
  sections : ∃ sections, (manifest evidence).optional "sections" = .arr sections ∧
    List.Forall₂ (SectionEntry H content) evidenceSections sections
  signed : SignedPackage H signer (signedPackage evidence) ref.packageId
    ("sha256:" ++ sha256 H (.obj (canonicalEvidenceContent content)))
    (deploymentScopeOf draft ids)

section
variable {κ : Type} {V : EvidenceVerifier κ} {signer : EvidenceSigner}
  {draft content evidence : JsonRecord} {ids : List JsValue} {ref : EvidencePackageSignatureRef}

theorem SignedDraft.packageId_ne (hs : SignedDraft V.host signer draft content evidence ids ref) :
    ref.packageId ≠ "" := by
  obtain ⟨id, -, h⟩ := bind_ok.1 hs.package
  rw [← Except.ok.inj h]
  simp [String.append_eq_empty_iff]

/-- A trace of another mapping of the control is complete, if its events are the same. -/
theorem SignedDraft.complete (hs : SignedDraft V.host signer draft content evidence ids ref)
    (hnamed : signer.keyId ≠ "") {trace mapping mapping' : JsValue} {events events' : List String}
    (ht : TraceView trace mapping' (deploymentScopeOf draft ids) ref)
    (hevents : mapping.optional "sourceEventIds" = .arr (events.map .str))
    (hevents' : mapping'.optional "sourceEventIds" = .arr (events'.map .str))
    (hperm : events'.Perm events) :
    TraceComplete V.host trace (mapping.optional "sourceEventIds") (signedPackage evidence) := by
  have hsigned := hs.signed
  have hsorted : ∀ (v : JsValue) (events : List String), v = .arr (events.map .str) →
      (v.spreadItems >>= sortItems V.host) = .ok ((events.mergeSort stringLe).map .str) := by
    rintro _ events rfl
    exact sortItems_strings events
  refine ⟨ht.present, ?_, ?_, ?_, ?_, ?_, ?_, ⟨_, _, hsorted _ events' ?_, hsorted _ events hevents,
    by rw [mergeSort_congr hperm]⟩, ht.reviewedAt, ht.reviewerRole⟩
  · rw [hsigned.packageId]
    simpa [JsValue.toBoolean] using hs.packageId_ne
  · rw [hsigned.keyId]
    simpa [JsValue.toBoolean] using hnamed
  · rw [hsigned.deploymentScope]
    rfl
  · rw [ht.signatureRef, hsigned.packageId]
    exact strictEq_str.2 rfl
  · rw [ht.signatureRef, hsigned.keyId, ← hs.key]
    exact strictEq_str.2 rfl
  · rw [ht.deploymentScope, hsigned.deploymentScope]
  · rw [ht.sourceEventIds, hevents']

theorem traceOf_found {traces : List (JsValue × JsValue)} {p : JsValue × JsValue} {id : JsValue}
    (hp : p ∈ traces) (hid : p.1.sameValueZero id = true) :
    ∃ q ∈ traces, q.1.sameValueZero id = true ∧ traceOf traces id = q.2 := by
  unfold traceOf
  cases hf : traces.reverse.find? fun p => p.1.sameValueZero id with
  | none => exact absurd hid (List.find?_eq_none.1 hf p (List.mem_reverse.2 hp))
  | some q =>
    have hq := List.find?_some hf
    exact ⟨q, List.mem_reverse.1 (List.mem_of_find?_eq_some hf), hq, rfl⟩

/-- Each mapping of a signed draft has a trace of its own. -/
theorem SignedDraft.views (hs : SignedDraft V.host signer draft content evidence ids ref) :
    ∃ views mappings,
      (JsonRecord.get evidence "controlTraceViews").coalesce (.arr []) = .arr views ∧
      (JsonRecord.get evidence "controlMappings").coalesce (.arr []) = .arr mappings ∧
      JsonRecord.get draft "controlMappings" = .arr mappings ∧
      List.Forall₂ (fun m trace => TraceView trace m (deploymentScopeOf draft ids) ref) mappings
        views := by
  obtain ⟨mappings, views, hmappings, hviews, hall⟩ := hs.completed.traces
  refine ⟨views, mappings, ?_, ?_, hmappings, hall⟩
  · rw [hs.kept _ (by decide), hviews]
    rfl
  · rw [hs.kept _ (by decide), hs.completed.kept _ (by simp [builtSections]), hmappings]
    rfl

theorem SignedDraft.keyed (h : Draft draft)
    (hs : SignedDraft V.host signer draft content evidence ids ref) :
    ∃ views mappings,
      (JsonRecord.get evidence "controlTraceViews").coalesce (.arr []) = .arr views ∧
      (JsonRecord.get evidence "controlMappings").coalesce (.arr []) = .arr mappings ∧
      JsonRecord.get draft "controlMappings" = .arr mappings ∧
      (views.mapM fun trace => do return (← trace.member "controlId", trace)) =
        Except.ok (views.map fun trace => (trace.optional "controlId", trace)) ∧
      ∀ m ∈ mappings, ∃ m' ∈ mappings, m'.optional "controlId" = m.optional "controlId" ∧
        TraceView (traceOf (views.map fun trace => (trace.optional "controlId", trace))
          (m.optional "controlId")) m' (deploymentScopeOf draft ids) ref := by
  obtain ⟨views, mappings, hviews, hmappings, hgiven, hall⟩ := hs.views
  obtain ⟨_, hgiven', hshape⟩ := h.mappings
  obtain rfl : mappings = _ := JsValue.arr.inj (hgiven.symm.trans hgiven')
  refine ⟨views, mappings, hviews, hmappings, hgiven, mapM_ok.2 ?_, fun m hm => ?_⟩
  · rw [List.forall₂_map_right_iff]
    refine List.forall₂_same.2 fun trace htrace => ?_
    obtain ⟨_, -, hview⟩ := forall₂_exists_right hall.flip htrace
    exact bind_ok.2 ⟨_, member_ok.2 ⟨isNullish_of_toBoolean hview.present, rfl⟩, rfl⟩
  · obtain ⟨controlId, hcontrol⟩ := (hshape m hm).controlId
    obtain ⟨trace, htrace, hview⟩ := forall₂_exists_right hall hm
    have hfound : (trace.optional "controlId").sameValueZero (m.optional "controlId") = true := by
      rw [hview.controlId, hcontrol]
      simp [JsValue.sameValueZero, JsValue.strictEq]
    obtain ⟨q, hq, hqid, htraceOf⟩ := traceOf_found
      (List.mem_map_of_mem (f := fun trace : JsValue => (trace.optional "controlId", trace)) htrace)
      hfound
    -- the last trace of the control may be the one of another mapping
    obtain ⟨trace', htrace', rfl⟩ := List.mem_map.1 hq
    obtain ⟨m', hm', hview'⟩ := forall₂_exists_right hall.flip htrace'
    obtain ⟨controlId', hcontrol'⟩ := (hshape m' hm').controlId
    refine ⟨m', hm', ?_, htraceOf ▸ hview'⟩
    rw [← hview'.controlId]
    refine eq_of_sameValueZero (fun _ => ?_) hqid
    rw [hview'.controlId, hcontrol']
    exact .str _

theorem SignedDraft.tracesComplete_iff (hprint : PrintsNumbers V.host) (h : Draft draft)
    (hs : SignedDraft V.host signer draft content evidence ids ref) (hnamed : signer.keyId ≠ "") :
    TracesComplete V evidence ↔ SameEvents draft := by
  obtain ⟨views, mappings, hviews, hmappings, hgiven, hkeyed, hlast⟩ := hs.keyed h
  obtain ⟨_, hgiven', hshape⟩ := h.mappings
  obtain rfl : mappings = _ := JsValue.arr.inj (hgiven.symm.trans hgiven')
  constructor
  · rintro ⟨views', keyed, mappings', hviews', hkeyed', hmappings', hall⟩ given hgiven'' m hm m' hm'
      hid events events' hevents hevents'
    obtain rfl : views = views' := JsValue.arr.inj (hviews.symm.trans hviews')
    obtain rfl := Except.ok.inj (hkeyed.symm.trans hkeyed')
    obtain rfl : mappings = mappings' := JsValue.arr.inj (hmappings.symm.trans hmappings')
    obtain rfl : mappings = given := JsValue.arr.inj (hgiven.symm.trans hgiven'')
    -- both mappings are compared with the last trace of the control
    obtain ⟨traced, mapped, htraced, hmapped, hsame⟩ := (hall m hm).2.sameEvents
    obtain ⟨traced', mapped', htraced', hmapped', hsame'⟩ := (hall m' hm').2.sameEvents
    rw [← hid, htraced] at htraced'
    obtain rfl := Except.ok.inj htraced'
    rw [hevents] at hmapped
    rw [hevents'] at hmapped'
    obtain rfl := Except.ok.inj ((sortItems_strings events).symm.trans hmapped)
    obtain rfl := Except.ok.inj ((sortItems_strings events').symm.trans hmapped')
    have heq := stableComparable_strings hprint (hsame.symm.trans hsame')
    exact (List.mergeSort_perm events _).symm.trans (heq ▸ List.mergeSort_perm events' _)
  · intro hsame
    refine ⟨views, _, mappings, hviews, hkeyed, hmappings, fun m hm => ?_⟩
    obtain ⟨controlId, hcontrol⟩ := (hshape m hm).controlId
    obtain ⟨m', hm', hid, hview⟩ := hlast m hm
    obtain ⟨events, hevents⟩ := (hshape m hm).sourceEventIds
    obtain ⟨events', hevents'⟩ := (hshape m' hm').sourceEventIds
    exact ⟨isNullish_of_str hcontrol, hs.complete hnamed hview hevents hevents'
      (hsame mappings hgiven m' hm' m hm hid events' events hevents' hevents)⟩

/-! ## The other checks of a signed draft -/

/-- The scope that is expected of a signed draft is the one it was built with. -/
theorem SignedDraft.expectedScope (h : Draft draft)
    (hs : SignedDraft V.host signer draft content evidence ids ref) :
    buildExpectedDeploymentScope evidence = .ok (deploymentScopeOf draft ids) := by
  have hdraft : ∀ k ∉ attestationKeys, k ∉ builtSections →
      JsonRecord.get evidence k = JsonRecord.get draft k := fun k hk hb =>
    (hs.kept k hk).trans (hs.completed.kept k hb)
  have hboundary := hdraft "systemBoundary" (by decide) (by simp [builtSections])
  have hstart := hdraft "periodStart" (by decide) (by simp [builtSections])
  have hend := hdraft "periodEnd" (by decide) (by simp [builtSections])
  have hcontrols := hdraft "controls" (by decide) (by simp [builtSections])
  obtain ⟨fields, components, hb, hcomponents, -⟩ := h.boundary
  have hpresent : (JsonRecord.get draft "systemBoundary").toBoolean = true := by
    rw [hb]
    rfl
  have hcomponents : ((JsonRecord.get draft "systemBoundary").optional "components").toBoolean =
      true := by
    rw [hb]
    change (JsonRecord.get fields "components").toBoolean = true
    rw [hcomponents]
    rfl
  unfold buildExpectedDeploymentScope buildDeploymentScope deploymentScopeOf
  rw [hboundary, hstart, hend, hcontrols]
  dsimp only
  rw [if_pos (by simp [hpresent, hcomponents, h.periodStart, h.periodEnd])]
  exact bind_ok.2 ⟨ids, hs.components, rfl⟩

theorem sectionAt_content {name : String} (hname : name ∉ attestationKeys)
    (h : JsonRecord.get evidence name ≠ .undefined) :
    sectionAt (canonicalEvidenceContent evidence) name = some (JsonRecord.get evidence name) := by
  have hget : JsonRecord.get (canonicalEvidenceContent evidence) name =
      JsonRecord.get evidence name := get_filter fun _ => by simpa using hname
  have hmem := mem_of_get (hget ▸ h)
  rw [sectionAt, if_pos (List.any_eq_true.2 ⟨_, hmem, by simp⟩), hget]

theorem not_attestation {name : String} (h : name ∈ evidenceSections) :
    name ∉ attestationKeys := by
  simp only [evidenceSections, List.mem_cons, List.not_mem_nil, or_false] at h
  rcases h with rfl | rfl | rfl | rfl | rfl | rfl | rfl | rfl | rfl | rfl | rfl | rfl | rfl | rfl |
    rfl <;> decide

theorem SignedDraft.sectionsMatch (h : Draft draft)
    (hs : SignedDraft V.host signer draft content evidence ids ref) :
    ∃ sections, (manifest evidence).optional "sections" = .arr sections ∧ sections ≠ [] ∧
      ∀ s ∈ sections, SectionMatches V evidence s := by
  obtain ⟨sections, hsections, hentries⟩ := hs.sections
  refine ⟨sections, hsections, ?_, fun s hmem => ?_⟩
  · rintro rfl
    cases hentries
  · obtain ⟨name, hname, hentry⟩ := forall₂_exists_right hentries.flip hmem
    obtain ⟨text, htext, hhash⟩ := hentry.hash
    have hget := hs.kept name (not_attestation hname)
    refine ⟨name, JsonRecord.get content name, text,
      bind_ok.2 ⟨_, member_ok.2 ⟨hentry.present, hentry.named⟩, rfl⟩, ?_, htext, hhash⟩
    rw [← hget]
    exact sectionAt_content (not_attestation hname)
      (hget ▸ hs.completed.section_ne h name hname)

/-- Only the list of sections could throw. -/
theorem SignedDraft.checks_ok (h : Draft draft)
    (hs : SignedDraft V.host signer draft content evidence ids ref) :
    ∃ checks, evidenceChecks V evidence = .ok checks := by
  obtain ⟨checks, hchecks, -⟩ := verifySectionHashes_pass.2 (hs.sectionsMatch h)
  exact ⟨_, bind_ok.2 ⟨checks, hchecks, rfl⟩⟩

/-- A signed draft is verified exactly if the mappings of one control agree. -/
theorem SignedDraft.verified_iff (hprint : PrintsNumbers V.host) (h : Draft draft)
    (hs : SignedDraft V.host signer draft content evidence ids ref)
    (hsigns : Signs V signer (unsignedPackage (signedPackage evidence))) :
    Verified V evidence ↔ SameEvents draft := by
  rw [← hs.tracesComplete_iff hprint h hsigns.named]
  refine ⟨Verified.traces, fun htraces => ?_⟩
  have hc := hs.completed
  obtain ⟨items, hitems, hnamed⟩ := h.poamItems
  obtain ⟨poam, hpoam, hmirrored⟩ := hc.poamExport
  obtain ⟨text, htext⟩ := sortedIds_ok (H := V.host) hnamed
  obtain ⟨p, hp, halgorithm, signature, hsignature, hv⟩ := hsigns.key
  refine
    { packageHash := by rw [hs.same, hs.hash]
      sections := hs.sectionsMatch h
      signedHash := by rw [hs.same, hs.signed.packageHash]
      signature := ⟨signer.keyId, p, by rw [hs.signed.keyId]; rfl, hp, ?_⟩
      scope := ⟨_, hs.expectedScope h, by rw [hs.signed.deploymentScope]⟩
      oscal := fun part hpart => ?_
      poam := ⟨text, ?_, ?_⟩
      traces := htraces }
  · rw [SignedBy, halgorithm]
    exact ⟨hs.signed.algorithm, signature, by rw [hs.signed.signature, hsignature], hv⟩
  · obtain ⟨fields, hfields⟩ := hc.oscal part hpart
    rw [hs.kept _ (by decide), hfields]
    rfl
  · rw [hs.kept _ (by decide), hc.kept _ (by simp [builtSections]), hitems]
    exact htext
  · rw [hs.kept _ (by decide), hpoam]
    change sortedIds V.host (JsonRecord.get poam "items") = _
    rw [hmirrored, hitems]
    exact htext

end

/-! ## Finalized -/

theorem Draft.signed {draft : JsonRecord} (h : Draft draft) (H : Host) (signer : EvidenceSigner) :
    ∃ content evidence ids ref, signedEvidence H signer draft = .ok evidence ∧
      SignedDraft H signer draft content evidence ids ref := by
  obtain ⟨content, ids, packageId, hbuilt, hids, hid, hc⟩ := h.completed signer.keyId
  obtain ⟨m, sections, hmanifest, hhash, hsections, hentries⟩ :=
    attachEvidenceIntegrityManifest_ok (H := H) (hc.section_ne h)
  have hkept : ∀ k, k ≠ "integrityManifest" →
      JsonRecord.get (JsonRecord.set "integrityManifest" m content) k =
        JsonRecord.get content k := fun k hk => by
    rw [JsonRecord.get_set, if_neg (Ne.symm hk)]
  have hgiven : manifest (JsonRecord.set "integrityManifest" m content) = m := by
    rw [manifest, JsonRecord.get_set, if_pos rfl]
  obtain ⟨signed, hsigned, hs⟩ := attachSignedEvidencePackage_ok H signer h hc hkept hid
    (hgiven ▸ hhash)
  have hm : manifest (JsonRecord.set "signedPackage" signed
      (JsonRecord.set "integrityManifest" m content)) = m := by
    rw [manifest, JsonRecord.get_set, if_neg (by decide)]
    exact hgiven
  have hsigned' : signedPackage (JsonRecord.set "signedPackage" signed
      (JsonRecord.set "integrityManifest" m content)) = signed := by
    rw [signedPackage, JsonRecord.get_set, if_pos rfl]
  refine ⟨content, _, ids, ⟨packageId, signer.keyId⟩,
    bind_ok.2 ⟨content, hbuilt, bind_ok.2 ⟨_, hmanifest, hsigned⟩⟩, hc, rfl, hids, hid,
    fun k hk => ?_, ?_, hm.symm ▸ hhash, ⟨sections, hm.symm ▸ hsections, hentries⟩,
    hsigned'.symm ▸ hs⟩
  · have hne : ∀ key ∈ attestationKeys, key ≠ k := fun key hkey heq => hk (heq ▸ hkey)
    rw [JsonRecord.get_set, if_neg (hne _ (by decide)), hkept k (hne _ (by decide)).symm]
  · rw [content_set (by decide), content_set (by decide)]

section
variable {κ : Type} {M : EvidenceModule κ} {options : EvidenceIntegrityOptions κ}
  {draft : JsonRecord}

theorem covers_ok {unsigned : JsonRecord}
    (hsigns : Signs (verifierOf M options) (resolveEvidenceSigner M options) unsigned)
    (hkeys : options.signer.isSome = true → options.trustedKeys.isSome = true) :
    assertTrustedKeysCoverCustomSigner M options = .ok () := by
  unfold assertTrustedKeysCoverCustomSigner
  cases hsigner : options.signer with
  | none => rfl
  | some signer =>
    rw [hsigner] at hkeys
    rw [resolveEvidenceSigner, hsigner] at hsigns
    obtain ⟨p, hp, -⟩ := hsigns.key
    have hfound : (trustedKey (verifierOf M options) signer.keyId).isSome = true := by
      rw [trustedKey, show (verifierOf M options).trustedKeys.find?
        (fun p => p.1 == signer.keyId) = some p from hp]
      rfl
    exact if_pos ⟨hkeys rfl, hfound⟩

/-- The verifier reports, at any time, the checks that a package brings, and that it is
verified exactly if a condition holds. -/
def Reports (V : EvidenceVerifier κ) (evidence : JsonRecord) (condition : Prop) : Prop :=
  ∀ verifiedAt now, ∃ report, verifyEvidenceExport V (.obj evidence) verifiedAt now = .ok report ∧
    JsonRecord.get evidence "verifierChecks" = .arr (report.checks.map (·.toJs)) ∧
    (report.status = .verified ↔ condition)

theorem Reports.verified {V : EvidenceVerifier κ} {evidence : JsonRecord} {condition : Prop}
    (h : Reports V evidence condition) (hc : condition) (verifiedAt : Option IsoDateTime)
    (now : IsoDateTime) : ReportedVerified V (.obj evidence) verifiedAt now :=
  let ⟨report, hreport, _, hstatus⟩ := h verifiedAt now
  ⟨report, hreport, hstatus.2 hc⟩

theorem reports_of_checks {V : EvidenceVerifier κ} {evidence : JsonRecord} {condition : Prop}
    {checks : List EvidenceVerifierCheck} (h : evidenceChecks V evidence = .ok checks)
    (hgiven : JsonRecord.get evidence "verifierChecks" = .arr (checks.map (·.toJs)))
    (hverified : Verified V evidence ↔ condition) : Reports V evidence condition := by
  intro verifiedAt now
  refine ⟨_, bind_ok.2 ⟨checks, h, rfl⟩, hgiven, ?_⟩
  have hreported : ReportedVerified V (.obj evidence) verifiedAt now ↔ Verified V evidence :=
    verified_iff
  rw [← hverified, ← hreported]
  constructor
  · exact fun hstatus => ⟨_, bind_ok.2 ⟨checks, h, rfl⟩, hstatus⟩
  · rintro ⟨report, hreport, hstatus⟩
    obtain ⟨checks', h', hreport⟩ := bind_ok.1 hreport
    obtain rfl := Except.ok.inj (h.symm.trans h')
    cases hreport
    exact hstatus

/-- The signer and the keys of the module go together. -/
theorem signs_default (h : ∀ text, M.verifyPayload M.runtimePublicKey text
    (M.runtimeSignPayload text) = true) (unsigned : JsonRecord) :
    Signs (verifierOf M {}) (resolveEvidenceSigner M {}) unsigned where
  named := by
    change defaultEvidenceSignatureKeyId ≠ ""
    decide
  key := ⟨(defaultEvidenceSignatureKeyId, ⟨defaultSignatureAlgorithm, M.runtimePublicKey⟩), rfl,
    rfl, _, rfl, h _⟩

/-- What a draft is finalized to: the signed package with its checks. -/
theorem Draft.finalized (h : Draft draft)
    (hsigns : ∀ unsigned, Signs (verifierOf M options) (resolveEvidenceSigner M options) unsigned)
    (hkeys : options.signer.isSome = true → options.trustedKeys.isSome = true)
    (now : IsoDateTime) :
    ∃ content signed ids ref checks,
      signedEvidence M.host (resolveEvidenceSigner M options) draft = .ok signed ∧
      SignedDraft M.host (resolveEvidenceSigner M options) draft content signed ids ref ∧
      evidenceChecks (verifierOf M options) signed = .ok checks ∧
      finalizeEvidenceExport M draft options now =
        .ok (JsonRecord.set "verifierChecks" (.arr (checks.map (·.toJs))) signed) := by
  obtain ⟨content, signed, ids, ref, hsigned, hs⟩ :=
    h.signed M.host (resolveEvidenceSigner M options)
  obtain ⟨checks, hchecks⟩ := SignedDraft.checks_ok (V := verifierOf M options) h hs
  have hset : evidenceChecks (verifierOf M options)
      (JsonRecord.set "verifierChecks" (.arr []) signed) = .ok checks :=
    (evidenceChecks_set (by decide) (by decide) (by decide) _).trans hchecks
  have hfinal : (signedEvidence M.host (resolveEvidenceSigner M options) draft >>= fun signed =>
      attachEvidenceVerifierChecks (verifierOf M options) signed options.verifiedAt now) =
      .ok (JsonRecord.set "verifierChecks" (.arr (checks.map (·.toJs))) signed) :=
    bind_ok.2 ⟨signed, hsigned, bind_ok.2 ⟨_, bind_ok.2 ⟨checks, hset, rfl⟩, rfl⟩⟩
  refine ⟨content, signed, ids, ref, checks, hsigned, hs, hchecks,
    bind_ok.2 ⟨(), covers_ok (hsigns []) hkeys, ?_⟩⟩
  dsimp only
  rw [hfinal]
  rfl

theorem reports_set {signed : JsonRecord} {condition : Prop} {checks : List EvidenceVerifierCheck}
    (hchecks : evidenceChecks (verifierOf M options) signed = .ok checks)
    (hverified : Verified (verifierOf M options) signed ↔ condition) {key : String}
    (hkey : key = "verifierChecks" ∨ key = "storageReceipt") (v : JsValue) :
    evidenceChecks (verifierOf M options) (JsonRecord.set key v signed) = .ok checks ∧
      (Verified (verifierOf M options) (JsonRecord.set key v signed) ↔ condition) := by
  have hset : evidenceChecks (verifierOf M options) (JsonRecord.set key v signed) =
      evidenceChecks (verifierOf M options) signed := by
    rcases hkey with rfl | rfl <;>
      exact evidenceChecks_set (by decide) (by decide) (by decide) v
  exact ⟨hset.trans hchecks, (verified_congr hset).trans hverified⟩

/-- **What is finalized is verified** exactly if the mappings of one control agree: a
draft of its type is finalized, the verifier repeats the checks of the package at any time,
also once a receipt is added to it, and they pass under this condition only. -/
theorem finalized_verified (hprint : PrintsNumbers M.host) (h : Draft draft)
    (hsigns : ∀ unsigned, Signs (verifierOf M options) (resolveEvidenceSigner M options) unsigned)
    (hkeys : options.signer.isSome = true → options.trustedKeys.isSome = true)
    (now : IsoDateTime) :
    ∃ evidence, finalizeEvidenceExport M draft options now = .ok evidence ∧
      Reports (verifierOf M options) evidence (SameEvents draft) ∧
      ∀ receipt, Reports (verifierOf M options) (JsonRecord.set "storageReceipt" receipt evidence)
        (SameEvents draft) := by
  obtain ⟨content, signed, ids, ref, checks, -, hs, hchecks, hfinal⟩ :=
    h.finalized hsigns hkeys now
  have hverified : Verified (verifierOf M options) signed ↔ SameEvents draft :=
    SignedDraft.verified_iff hprint h hs (hsigns _)
  obtain ⟨hchecks', hverified'⟩ := reports_set hchecks hverified (.inl rfl)
    (.arr (checks.map (·.toJs)))
  refine ⟨_, hfinal, reports_of_checks hchecks' ?_ hverified', fun receipt => ?_⟩
  · rw [JsonRecord.get_set, if_pos rfl]
  · obtain ⟨hchecks'', hverified''⟩ := reports_set hchecks' hverified' (.inr rfl) receipt
    refine reports_of_checks hchecks'' ?_ hverified''
    rw [JsonRecord.get_set, if_neg (by decide), JsonRecord.get_set, if_pos rfl]

end

/-- A quarter with one control. -/
def quarterDraft : JsonRecord := [
  ("exportId", .str "evidence:2026-Q1"),
  ("generatedAt", .str timestamp),
  ("periodStart", .str "2026-01-01T00:00:00.000Z"),
  ("periodEnd", .str "2026-03-31T23:59:59.000Z"),
  ("controls", .arr [.str "AC-2"]),
  ("sourceEventIds", .arr [.str "audit:1"]),
  ("systemBoundary", .obj [
    ("boundaryId", .str "boundary:local"),
    ("components", .arr [.obj [("id", .str "component:engine")]])]),
  ("controlMappings", .arr [.obj [
    ("controlId", .str "AC-2"),
    ("sourceEventIds", .arr [.str "audit:1"])]]),
  ("controlStatements", .arr [.obj [
    ("controlId", .str "AC-2"),
    ("reviewerRole", .str "Assessor"),
    ("reviewedAt", .str timestamp)]]),
  ("poamItems", .arr [.obj [("id", .str "poam:1")]]),
  ("auditIntegrity", .obj []),
  ("artifacts", .arr []),
  ("conmonMetrics", .obj []),
  ("siemExport", .obj []),
  ("dataFlows", .arr []),
  ("accessReviews", .arr []),
  ("exceptionRegister", .arr []),
  ("operationalEvidence", .obj [])]

/-- A signature that is the text that is signed. -/
def plainModule : EvidenceModule Unit where
  host := exactHost
  verifyPayload := fun _ text signature => signature == text
  errorMessage := fun _ => "TypeError"
  runtimePublicKey := ()
  runtimeSignPayload := id
  fixturePublicKey := ()

theorem draft_quarter : Draft quarterDraft where
  exportId := ⟨_, rfl⟩
  boundary := ⟨_, _, rfl, rfl, by decide⟩
  periodStart := by decide
  periodEnd := by decide
  mappings := by
    refine ⟨_, rfl, fun m hm => ?_⟩
    obtain rfl := List.mem_singleton.1 hm
    exact ⟨⟨_, rfl⟩, ⟨["audit:1"], rfl⟩⟩
  statements := by
    refine ⟨_, rfl, fun s hs => ?_⟩
    obtain rfl := List.mem_singleton.1 hs
    exact ⟨⟨_, rfl⟩, by decide, by decide⟩
  poamItems := by
    refine ⟨_, rfl, fun item hitem => ?_⟩
    obtain rfl := List.mem_singleton.1 hitem
    exact ⟨_, rfl⟩
  given := by simp [givenSections, quarterDraft, JsonRecord.get]
  unbuilt := by decide

theorem sameEvents_quarter : SameEvents quarterDraft := by
  intro mappings hmappings m hm m' hm' _ events events' hevents hevents'
  cases hmappings
  rw [List.mem_singleton.1 hm] at hevents
  rw [List.mem_singleton.1 hm'] at hevents'
  have hmap := JsValue.arr.inj (hevents.symm.trans hevents')
  exact List.map_injective_iff.2 (fun _ _ => JsValue.str.inj) hmap ▸ List.Perm.refl events

/-- A draft of one control is finalized and verified. -/
theorem finalized_quarter : ∃ evidence,
    finalizeEvidenceExport plainModule quarterDraft {} timestamp = .ok evidence ∧
      ReportedVerified (verifierOf plainModule {}) (.obj evidence) none timestamp := by
  obtain ⟨evidence, hfinal, hreports, -⟩ := finalized_verified printsNumbers_exact draft_quarter
    (signs_default (M := plainModule) fun _ => beq_self_eq_true _) (by decide) timestamp
  exact ⟨evidence, hfinal, hreports.verified sameEvents_quarter none timestamp⟩

end AccessKit.L2.Evidence
