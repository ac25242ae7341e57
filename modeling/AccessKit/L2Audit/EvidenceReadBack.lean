import AccessKit.L1Domain.SameValues
import AccessKit.L2Audit.EvidenceTrust

/-!
# Packages that are the same JSON

packages/core/src/evidence-integrity.ts:235-502: the hashes, the signature and the
comparisons of the verifier do not depend on the order of the properties, nor on a
property that is `undefined`. Where the verifier turns values into texts, to sort and to
join them, they have to be texts: an object with a `toString` that is `undefined` has no
text, and loses the property once it is written.

Results:
* `verified_sameJson`: packages that are the same JSON pass the same checks.
* `SignedDraft.textPackage`: what is finalized has texts where it needs them.
-/
namespace AccessKit.L2.Evidence
open AccessKit.Core AccessKit.L1
open AccessKit.L2.Audit (bind_ok)

/-! ## Texts in a package -/

/-- A property of the items of an array. -/
def EachItem (P : JsValue → Prop) (v : JsValue) : Prop :=
  ∀ items, v = .arr items → ∀ item ∈ items, P item

/-- The item has a text under a key. -/
def Named (key : String) (item : JsValue) : Prop := ∃ text, item.optional key = .str text

/-- The item has a list of texts under a key. -/
def Listed (key : String) (item : JsValue) : Prop :=
  ∃ texts : List String, item.optional key = .arr (texts.map .str)

/-- A section with a name that an object may have as its own. -/
def NamedSection (s : JsValue) : Prop := ∃ name, s.optional "name" = .str name ∧ name ≠ "__proto__"

/-- Whatever the verifier makes a text of is one. -/
structure TextPackage (evidence : JsonRecord) : Prop where
  sections : EachItem NamedSection ((manifest evidence).optional "sections")
  keyId : Named "keyId" (signedPackage evidence)
  components : EachItem (Named "id")
    ((JsonRecord.get evidence "systemBoundary").optional "components")
  poamItems : EachItem (Named "id") (JsonRecord.get evidence "poamItems")
  poamExport : EachItem (Named "id") ((JsonRecord.get evidence "poamExport").optional "items")
  views : EachItem (Listed "sourceEventIds") (JsonRecord.get evidence "controlTraceViews")
  mappings : EachItem (Listed "sourceEventIds") (JsonRecord.get evidence "controlMappings")

section
variable {v w : JsValue} {key : String}

theorem EachItem.congr {P : JsValue → Prop} (hP : ∀ a b, SameJson a b → P a → P b)
    (h : SameJson v w) (hv : EachItem P v) : EachItem P w := by
  rintro items rfl b hb
  obtain ⟨items', rfl, hall⟩ := h.symm.eq_arr
  obtain ⟨a, ha, hab⟩ := forall₂_exists_right hall hb
  exact hP a b hab.symm (hv _ rfl a ha)

theorem Named.congr (h : SameJson v w) (hv : Named key v) : Named key w := by
  obtain ⟨text, ht⟩ := hv
  exact ⟨text, (ht ▸ h.optional key).eq_str⟩

theorem Listed.congr (h : SameJson v w) (hv : Listed key v) : Listed key w := by
  obtain ⟨texts, ht⟩ := hv
  exact ⟨texts, (ht ▸ h.optional key).eq_strings⟩

theorem NamedSection.congr (h : SameJson v w) (hv : NamedSection v) : NamedSection w := by
  obtain ⟨name, hname, hproto⟩ := hv
  exact ⟨name, (hname ▸ h.optional "name").eq_str, hproto⟩

theorem EachItem.coalesce {P : JsValue → Prop} (hv : EachItem P v) :
    EachItem P (v.coalesce (.arr [])) := by
  unfold JsValue.coalesce
  split
  · intro items hitems
    cases hitems
    exact List.forall_mem_nil _
  · exact hv

end

section
variable {evidence evidence' : JsonRecord}

theorem TextPackage.congr (h : SameJson (.obj evidence) (.obj evidence'))
    (ht : TextPackage evidence) : TextPackage evidence' where
  sections := ht.sections.congr (fun _ _ => NamedSection.congr) ((h.get _).optional _)
  keyId := ht.keyId.congr (h.get _)
  components := ht.components.congr (fun _ _ => Named.congr) ((h.get _).optional _)
  poamItems := ht.poamItems.congr (fun _ _ => Named.congr) (h.get _)
  poamExport := ht.poamExport.congr (fun _ _ => Named.congr) ((h.get _).optional _)
  views := ht.views.congr (fun _ _ => Listed.congr) (h.get _)
  mappings := ht.mappings.congr (fun _ _ => Listed.congr) (h.get _)

/-! ## Hashes and the signature -/

theorem sameJson_content (h : SameJson (.obj evidence) (.obj evidence')) :
    SameJson (.obj (canonicalEvidenceContent evidence))
      (.obj (canonicalEvidenceContent evidence')) :=
  h.filterKeys fun k => decide (k ∉ attestationKeys)

theorem sameJson_unsigned {v w : JsValue} (h : SameJson v w) :
    SameJson (.obj (unsignedPackage v)) (.obj (unsignedPackage w)) := by
  cases h with
  | obj h => exact (SameJson.obj h).filterKeys fun k => decide (k ≠ "signature")
  | _ => exact .refl _

theorem sha256_congr {H : Host} {v w : JsValue} (hv : IsJson v) (hw : IsJson w)
    (h : SameJson v w) : sha256 H v = sha256 H w := by
  rw [sha256, sha256, stableStringify_congr hv hw h]

theorem stableComparable_congr {H : Host} {v w : JsValue} (hv : IsPart v) (hw : IsPart w)
    (h : SameJson v w) : stableComparable H v = stableComparable H w := by
  rw [stableComparable_eq hv, stableComparable_eq hw]
  by_cases hu : v = .undefined
  · subst hu
    rw [h.undefined_left]
  · have hu' : w ≠ .undefined := fun he => hu (he ▸ h.symm).undefined_left
    exact stableStringify_congr (isJson_withoutProto (hv hu)) (isJson_withoutProto (hw hu'))
      h.withoutProto

theorem sectionAt_of_get {content : JsonRecord} {name : String}
    (h : JsonRecord.get content name ≠ .undefined) :
    sectionAt content name = some (JsonRecord.get content name) := by
  rw [sectionAt, if_pos (List.any_eq_true.2 ⟨_, mem_of_get h, by simp⟩)]

theorem get_of_sectionAt {content : JsonRecord} {name : String} {value : JsValue}
    (h : sectionAt content name = some value) (hvalue : value ≠ .undefined)
    (hproto : name ≠ "__proto__") : JsonRecord.get content name = value := by
  unfold sectionAt at h
  split at h
  · exact Option.some.inj h
  · split at h
    · exact absurd (Option.some.inj h).symm hvalue
    · cases h

section
variable {κ : Type} {V : EvidenceVerifier κ}

theorem SectionMatches.congr (h : SameJson (.obj evidence) (.obj evidence'))
    (he : IsJson (.obj evidence)) (he' : IsJson (.obj evidence')) {s s' : JsValue}
    (hs : SameJson s s') (hnamed : NamedSection s) (hm : SectionMatches V evidence s) :
    SectionMatches V evidence' s' := by
  obtain ⟨given, hgiven, hproto⟩ := hnamed
  obtain ⟨name, value, text, hname, hvalue, htext, hhash⟩ := hm
  obtain ⟨_, hread, hname⟩ := bind_ok.1 hname
  obtain ⟨-, rfl⟩ := member_ok.1 hread
  rw [hgiven] at hname
  obtain rfl : given = name := Except.ok.inj hname
  have hdefined : value ≠ .undefined := by
    rintro rfl
    cases htext
  obtain rfl := get_of_sectionAt hvalue hdefined hproto
  have hcontent := sameJson_content h
  have hdefined' : JsonRecord.get (canonicalEvidenceContent evidence') given ≠ .undefined :=
    fun hu => hdefined (hu ▸ (hcontent.get given).symm).undefined_left
  have hgiven' := (hgiven ▸ hs.optional "name").eq_str
  refine ⟨given, _, text, bind_ok.2 ⟨_, member_ok.2 ⟨isNullish_of_str hgiven', hgiven'⟩, rfl⟩,
    sectionAt_of_get hdefined', ?_, (hhash ▸ hs.optional "hash").eq_str⟩
  rw [← htext]
  exact (stableStringify_congr (isJson_get (isJson_content he) hdefined)
    (isJson_get (isJson_content he') hdefined') (hcontent.get given)).symm

theorem SignedBy.congr {signed signed' : JsValue} (hv : IsPart signed) (hv' : IsPart signed')
    (h : SameJson signed signed') {key : TrustedEvidenceSigningKey κ}
    (hs : SignedBy V signed key) : SignedBy V signed' key := by
  obtain ⟨halgorithm, signature, hsignature, hverified⟩ := hs
  have htext : signedText V.host signed' = signedText V.host signed := by
    rw [signedText, signedText, stableStringify_congr (isJson_unsigned hv) (isJson_unsigned hv')
      (sameJson_unsigned h)]
  exact ⟨(halgorithm ▸ h.optional "signatureAlgorithm").eq_str, signature,
    (hsignature ▸ h.optional "signature").eq_str, htext ▸ hverified⟩

/-! ## Identifiers -/

theorem members_congr {key : String} {items items' : List JsValue}
    (h : List.Forall₂ SameJson items items') (hnamed : ∀ item ∈ items, Named key item) :
    ∃ texts : List String, (items.mapM fun item => item.member key) = .ok (texts.map .str) ∧
      (items'.mapM fun item => item.member key) = .ok (texts.map .str) := by
  induction h with
  | nil => exact ⟨[], rfl, rfl⟩
  | @cons a b items items' hab _ ih =>
    obtain ⟨ha, hnamed⟩ := List.forall_mem_cons.1 hnamed
    obtain ⟨texts, hread, hread'⟩ := ih hnamed
    obtain ⟨text, htext⟩ := ha
    have htext' := (htext ▸ hab.optional key).eq_str
    refine ⟨text :: texts, ?_, ?_⟩ <;> rw [List.map_cons, mapM_ok]
    · exact .cons (member_ok.2 ⟨isNullish_of_str htext, htext⟩) (mapM_ok.1 hread)
    · exact .cons (member_ok.2 ⟨isNullish_of_str htext', htext'⟩) (mapM_ok.1 hread')

theorem componentIds_congr {boundary boundary' : JsValue} (h : SameJson boundary boundary')
    (hnamed : EachItem (Named "id") (boundary.optional "components")) {ids : List JsValue}
    (hids : componentIds boundary = .ok ids) :
    componentIds boundary' = .ok ids ∧ ∀ id ∈ ids, IsJson id := by
  unfold componentIds at hids ⊢
  rw [h.isNullish]
  split at hids
  · rename_i hnull
    cases hids
    exact ⟨if_pos hnull, List.forall_mem_nil _⟩
  · rename_i hpresent
    obtain ⟨components, hcomponents, hids⟩ := bind_ok.1 hids
    have hcomponents := elements_ok.1 hcomponents
    obtain ⟨components', hcomponents', hall⟩ := (hcomponents ▸ h.optional "components").eq_arr
    obtain ⟨texts, hread, hread'⟩ := members_congr hall (hnamed _ hcomponents)
    obtain rfl := Except.ok.inj (hread.symm.trans hids)
    refine ⟨?_, fun id hid => ?_⟩
    · rw [if_neg hpresent]
      exact bind_ok.2 ⟨components', elements_ok.2 hcomponents', hread'⟩
    · obtain ⟨text, -, rfl⟩ := List.mem_map.1 hid
      exact .str text

theorem sortedIds_congr {H : Host} {v w : JsValue} (h : SameJson v w)
    (hnamed : EachItem (Named "id") v) {text : String} (htext : sortedIds H v = .ok text) :
    sortedIds H w = .ok text := by
  obtain ⟨items, hitems, htext⟩ := bind_ok.1 htext
  have hitems := elements_ok.1 hitems
  obtain ⟨items', hitems', hall⟩ := (hitems ▸ h.coalesce (.refl (.arr []))).eq_arr
  obtain ⟨ids, hids, htext⟩ := bind_ok.1 htext
  obtain ⟨texts, hread, hread'⟩ := members_congr hall (hnamed.coalesce _ hitems)
  obtain rfl := Except.ok.inj (hread.symm.trans hids)
  exact bind_ok.2 ⟨items', elements_ok.2 hitems', bind_ok.2 ⟨_, hread', htext⟩⟩

/-! ## The scope -/

theorem sameJson_deploymentScopeOf (h : SameJson (.obj evidence) (.obj evidence'))
    (ids : List JsValue) :
    SameJson (deploymentScopeOf evidence ids) (deploymentScopeOf evidence' ids) := by
  have hboundary := h.get "systemBoundary"
  exact sameJson_fields (.cons ⟨rfl, (hboundary.optional _).coalesce (.refl _)⟩
    (.cons ⟨rfl, (hboundary.optional _).coalesce (.refl _)⟩
    (.cons ⟨rfl, (hboundary.optional _).coalesce (.refl _)⟩
    (.cons ⟨rfl, (h.get _).coalesce (.refl _)⟩ (.cons ⟨rfl, (h.get _).coalesce (.refl _)⟩
    (.cons ⟨rfl, (h.get _).coalesce (.refl _)⟩ (.cons ⟨rfl, .refl _⟩
    (.cons ⟨rfl, .refl _⟩ .nil))))))))

theorem expectedScope_congr {H : Host} (h : SameJson (.obj evidence) (.obj evidence'))
    (he : IsJson (.obj evidence)) (he' : IsJson (.obj evidence')) (ht : TextPackage evidence)
    {expected : JsValue} (hexpected : buildExpectedDeploymentScope evidence = .ok expected) :
    ∃ expected', buildExpectedDeploymentScope evidence' = .ok expected' ∧
      stableComparable H expected = stableComparable H expected' := by
  unfold buildExpectedDeploymentScope buildDeploymentScope at hexpected ⊢
  dsimp only at hexpected ⊢
  rw [(h.get "systemBoundary").toBoolean, (h.get "periodStart").toBoolean,
    (h.get "periodEnd").toBoolean, ((h.get "systemBoundary").optional "components").toBoolean]
  split at hexpected
  · rename_i hgiven
    obtain ⟨ids, hids, hexpected⟩ := bind_ok.1 hexpected
    cases hexpected
    obtain ⟨hids', hjson⟩ := componentIds_congr (h.get "systemBoundary") ht.components hids
    refine ⟨_, (if_pos hgiven).trans (bind_ok.2 ⟨ids, hids', rfl⟩), ?_⟩
    exact stableComparable_congr (isPart_json (isJson_deploymentScopeOf he hjson))
      (isPart_json (isJson_deploymentScopeOf he' hjson)) (sameJson_deploymentScopeOf h ids)
  · rename_i hmissing
    cases hexpected
    exact ⟨.undefined, if_neg hmissing, rfl⟩

/-! ## The traces -/

/-- Two lists of traces by their controls, pairwise the same JSON. -/
def SameTraces (keyed keyed' : List (JsValue × JsValue)) : Prop :=
  List.Forall₂ (fun p q => SameJson p.1 q.1 ∧ SameJson p.2 q.2) keyed keyed'

theorem traceOf_congr {keyed keyed' : List (JsValue × JsValue)} (h : SameTraces keyed keyed')
    {id id' : JsValue} (hid : SameJson id id') :
    SameJson (traceOf keyed id) (traceOf keyed' id') := by
  unfold traceOf
  have hreversed : SameTraces keyed.reverse keyed'.reverse := List.forall₂_reverse_iff.2 h
  revert hreversed
  generalize keyed.reverse = traces
  generalize keyed'.reverse = traces'
  intro hreversed
  induction hreversed with
  | nil => exact .refl _
  | @cons p q _ _ hpq _ ih =>
    have hfound := hpq.1.sameValueZero hid
    cases hp : p.1.sameValueZero id with
    | true =>
      rw [List.find?_cons_of_pos (by simp [hp]), List.find?_cons_of_pos (by simp [hfound, hp])]
      exact hpq.2
    | false =>
      rw [List.find?_cons_of_neg (by simp [hp]), List.find?_cons_of_neg (by simp [hfound, hp])]
      exact ih

theorem keyed_congr {views views' : List JsValue} (h : List.Forall₂ SameJson views views')
    {keyed : List (JsValue × JsValue)}
    (hkeyed : (views.mapM fun trace => do return (← trace.member "controlId", trace)) =
      Except.ok keyed) :
    ∃ keyed', (views'.mapM fun trace => do return (← trace.member "controlId", trace)) =
      Except.ok keyed' ∧ SameTraces keyed keyed' := by
  have hread := mapM_ok.1 hkeyed
  clear hkeyed
  induction h generalizing keyed with
  | nil =>
    cases hread
    exact ⟨[], rfl, .nil⟩
  | @cons a b views views' hab _ ih =>
    cases hread with
    | @cons _ p _ keyed ha hrest =>
      obtain ⟨keyed', hkeyed', hsame⟩ := ih hrest
      obtain ⟨_, hmember, hp⟩ := bind_ok.1 ha
      obtain ⟨hpresent, rfl⟩ := member_ok.1 hmember
      cases hp
      exact ⟨(b.optional "controlId", b) :: keyed',
        mapM_ok.2 (.cons (bind_ok.2 ⟨_, member_ok.2 ⟨hab.isNullish.trans hpresent, rfl⟩, rfl⟩)
          (mapM_ok.1 hkeyed')), .cons ⟨hab.optional _, hab⟩ hsame⟩

theorem TraceComplete.congr {H : Host} {trace trace' mapping mapping' signed signed' : JsValue}
    (htrace : SameJson trace trace') (hmapping : SameJson mapping mapping')
    (hsigned : SameJson signed signed') (hpart : IsPart trace ∧ IsPart trace')
    (hpart' : IsPart signed ∧ IsPart signed') (hlisted : Listed "sourceEventIds" trace)
    (hlisted' : Listed "sourceEventIds" mapping)
    (h : TraceComplete H trace (mapping.optional "sourceEventIds") signed) :
    TraceComplete H trace' (mapping'.optional "sourceEventIds") signed' := by
  obtain ⟨texts, htexts⟩ := hlisted
  obtain ⟨texts', htexts'⟩ := hlisted'
  obtain ⟨traced, mapped, htraced, hmapped, hsame⟩ := h.sameEvents
  have hevents : trace'.optional "sourceEventIds" = trace.optional "sourceEventIds" :=
    htexts ▸ (htexts ▸ htrace.optional _).eq_strings
  have hevents' : mapping'.optional "sourceEventIds" = mapping.optional "sourceEventIds" :=
    htexts' ▸ (htexts' ▸ hmapping.optional _).eq_strings
  have href := htrace.optional "signatureRef"
  have hreview := htrace.optional "reviewedStatement"
  exact
    { present := htrace.toBoolean.trans h.present
      packageId := (hsigned.optional _).toBoolean.trans h.packageId
      keyId := (hsigned.optional _).toBoolean.trans h.keyId
      deploymentScope := (hsigned.optional _).toBoolean.trans h.deploymentScope
      samePackageId :=
        ((href.optional _).strictEq_both (hsigned.optional _)).trans h.samePackageId
      sameKeyId := ((href.optional _).strictEq_both (hsigned.optional _)).trans h.sameKeyId
      sameScope :=
        (stableComparable_congr (hpart.1.optional _) (hpart.2.optional _)
          (htrace.optional _)).symm.trans (h.sameScope.trans
        (stableComparable_congr (hpart'.1.optional _) (hpart'.2.optional _) (hsigned.optional _)))
      sameEvents := ⟨traced, mapped, hevents ▸ htraced, hevents' ▸ hmapped, hsame⟩
      reviewedAt := (hreview.optional _).toBoolean.trans h.reviewedAt
      reviewerRole := (hreview.optional _).toBoolean.trans h.reviewerRole }

theorem isPart_traceOf {views : List JsValue} {keyed : List (JsValue × JsValue)}
    (hviews : ∀ trace ∈ views, IsJson trace)
    (hkeyed : (views.mapM fun trace => do return (← trace.member "controlId", trace)) =
      Except.ok keyed) {id : JsValue} (h : (traceOf keyed id).toBoolean = true) :
    traceOf keyed id ∈ views ∧ IsPart (traceOf keyed id) := by
  obtain ⟨key, hmem, -⟩ := mem_of_traceOf h
  obtain ⟨trace, htrace, hread⟩ := forall₂_exists_right (mapM_ok.1 hkeyed).flip hmem
  obtain ⟨_, -, hpair⟩ := bind_ok.1 hread
  obtain ⟨-, hfound⟩ := Prod.mk.inj (Except.ok.inj hpair)
  rw [← hfound]
  exact ⟨htrace, isPart_json (hviews trace htrace)⟩

theorem TracesComplete.congr (h : SameJson (.obj evidence) (.obj evidence'))
    (he : IsJson (.obj evidence)) (he' : IsJson (.obj evidence')) (ht : TextPackage evidence)
    (hc : TracesComplete V evidence) : TracesComplete V evidence' := by
  obtain ⟨views, keyed, mappings, hviews, hkeyed, hmappings, hall⟩ := hc
  obtain ⟨views', hviews', hsame⟩ :=
    (hviews ▸ (h.get "controlTraceViews").coalesce (.refl (.arr []))).eq_arr
  obtain ⟨mappings', hmappings', hmapped⟩ :=
    (hmappings ▸ (h.get "controlMappings").coalesce (.refl (.arr []))).eq_arr
  obtain ⟨keyed', hkeyed', hsameTraces⟩ := keyed_congr hsame hkeyed
  refine ⟨views', keyed', mappings', hviews', hkeyed', hmappings', fun m' hm' => ?_⟩
  obtain ⟨m, hm, hmm⟩ := forall₂_exists_right hmapped.flip hm'
  obtain ⟨hpresent, hcomplete⟩ := hall m hm
  have hfound := traceOf_congr hsameTraces (hmm.optional "controlId")
  have hitems : ∀ {fields : JsonRecord} (_ : IsJson (.obj fields)) (k : String) {items},
      (JsonRecord.get fields k).coalesce (.arr []) = .arr items → ∀ v ∈ items, IsJson v :=
    fun hf k _ hk => ((isPart_get hf k).coalesce isPart_nil).item hk
  obtain ⟨hmem, hpart⟩ := isPart_traceOf (hitems he _ hviews) hkeyed hcomplete.present
  obtain ⟨-, hpart'⟩ := isPart_traceOf (hitems he' _ hviews') hkeyed'
    (hfound.toBoolean.trans hcomplete.present)
  exact ⟨hmm.isNullish.trans hpresent, hcomplete.congr hfound hmm (h.get _) ⟨hpart, hpart'⟩
    ⟨isPart_get he _, isPart_get he' _⟩ (ht.views.coalesce _ hviews _ hmem)
    (ht.mappings.coalesce _ hmappings _ hm)⟩

/-! ## The verdict -/

theorem Verified.congr (h : SameJson (.obj evidence) (.obj evidence'))
    (he : IsJson (.obj evidence)) (he' : IsJson (.obj evidence')) (ht : TextPackage evidence)
    (hv : Verified V evidence) : Verified V evidence' := by
  have hmanifest : SameJson (manifest evidence) (manifest evidence') := h.get _
  have hsigned : SameJson (signedPackage evidence) (signedPackage evidence') := h.get _
  have hhash : sha256 V.host (.obj (canonicalEvidenceContent evidence')) =
      sha256 V.host (.obj (canonicalEvidenceContent evidence)) :=
    sha256_congr (isJson_content he') (isJson_content he) (sameJson_content h).symm
  obtain ⟨sections, hsections, hne, hall⟩ := hv.sections
  obtain ⟨sections', hsections', hsame⟩ := (hsections ▸ hmanifest.optional "sections").eq_arr
  obtain ⟨name, p, hname, hp, hsignedBy⟩ := hv.signature
  obtain ⟨id, hid⟩ := ht.keyId
  obtain ⟨expected, hexpected, hscope⟩ := hv.scope
  obtain ⟨expected', hexpected', hcompared⟩ := expectedScope_congr (H := V.host) h he he' ht
    hexpected
  obtain ⟨ids, hitems, hmirrored⟩ := hv.poam
  refine
    { packageHash := by
        rw [hhash]
        exact (hv.packageHash ▸ hmanifest.optional "packageHash").eq_str
      sections := ⟨sections', hsections', ?_, fun s' hs' => ?_⟩
      signedHash := by
        rw [hhash]
        exact (hv.signedHash ▸ hsigned.optional "packageHash").eq_str
      signature := ⟨name, p, ?_, hp, hsignedBy.congr (isPart_get he _) (isPart_get he' _) hsigned⟩
      scope := ⟨expected', hexpected', ?_⟩
      oscal := fun part hpart => (((h.get _).optional part).toBoolean).trans (hv.oscal part hpart)
      poam := ⟨ids, sortedIds_congr (h.get _) ht.poamItems hitems,
        sortedIds_congr ((h.get _).optional _) ht.poamExport hmirrored⟩
      traces := hv.traces.congr h he he' ht }
  · rintro rfl
    cases hsame
    exact hne rfl
  · obtain ⟨s, hs, hss⟩ := forall₂_exists_right hsame.flip hs'
    exact (hall s hs).congr h he he' hss (ht.sections _ hsections s hs)
  · have hid' := (hid ▸ hsigned.optional "keyId").eq_str
    rw [hid', ← hid]
    exact hname
  · rw [← hcompared, ← hscope]
    exact (stableComparable_congr ((isPart_get he _).optional _) ((isPart_get he' _).optional _)
      (hsigned.optional _)).symm

/-- **Packages that are the same JSON** pass the same checks. -/
theorem verified_sameJson (h : SameJson (.obj evidence) (.obj evidence'))
    (he : IsJson (.obj evidence)) (he' : IsJson (.obj evidence')) (ht : TextPackage evidence) :
    Verified V evidence' ↔ Verified V evidence :=
  ⟨Verified.congr h.symm he' he (ht.congr h), Verified.congr h he he' ht⟩

end

end

/-! ## What is finalized -/

section
variable {H : Host} {signer : EvidenceSigner} {draft content evidence : JsonRecord}
  {ids : List JsValue} {ref : EvidencePackageSignatureRef}

/-- The components of a boundary that are named. -/
def NamedBoundary (draft : JsonRecord) : Prop :=
  EachItem (Named "id") ((JsonRecord.get draft "systemBoundary").optional "components")

theorem SignedDraft.textPackage (h : Draft draft) (hcomponents : NamedBoundary draft)
    (hs : SignedDraft H signer draft content evidence ids ref) : TextPackage evidence := by
  have hdraft : ∀ k ∉ attestationKeys, k ∉ builtSections →
      JsonRecord.get evidence k = JsonRecord.get draft k := fun k hk hb =>
    (hs.kept k hk).trans (hs.completed.kept k hb)
  obtain ⟨mappings, hmappings, hshape⟩ := h.mappings
  obtain ⟨items, hitems, hnamed⟩ := h.poamItems
  obtain ⟨poam, hpoam, hmirrored⟩ := hs.completed.poamExport
  obtain ⟨sections, hsections, hentries⟩ := hs.sections
  obtain ⟨mappings', views, hmappings', hviews, htraces⟩ := hs.completed.traces
  obtain rfl : mappings = mappings' := JsValue.arr.inj (hmappings.symm.trans hmappings')
  refine
    { sections := fun given hgiven s hmem => ?_
      keyId := ⟨_, hs.signed.keyId⟩
      components := by
        rw [hdraft _ (by decide) (by simp [builtSections])]
        exact hcomponents
      poamItems := ?_
      poamExport := ?_
      views := fun given hgiven trace htrace => ?_
      mappings := fun given hgiven m hm => ?_ }
  · rw [hsections] at hgiven
    cases hgiven
    obtain ⟨name, hname, hentry⟩ := forall₂_exists_right hentries.flip hmem
    refine ⟨name, hentry.named, ?_⟩
    rintro rfl
    revert hname
    decide
  · rw [hdraft _ (by decide) (by simp [builtSections]), hitems]
    intro given hgiven
    cases hgiven
    exact hnamed
  · rw [hs.kept _ (by decide), hpoam]
    change EachItem (Named "id") (JsonRecord.get poam "items")
    rw [hmirrored, hitems]
    intro given hgiven
    cases hgiven
    exact hnamed
  · rw [hs.kept _ (by decide), hviews] at hgiven
    cases hgiven
    obtain ⟨m, hm, hview⟩ := forall₂_exists_right htraces.flip htrace
    obtain ⟨texts, htexts⟩ := (hshape m hm).sourceEventIds
    exact ⟨texts, hview.sourceEventIds.trans htexts⟩
  · rw [hdraft _ (by decide) (by simp [builtSections]), hmappings] at hgiven
    cases hgiven
    exact (hshape m hm).sourceEventIds

/-- What is added to a package after its signature leaves its texts. -/
theorem TextPackage.set (ht : TextPackage evidence) {key : String}
    (hkey : key = "verifierChecks" ∨ key = "storageReceipt") (v : JsValue) :
    TextPackage (JsonRecord.set key v evidence) := by
  have hget : ∀ k, k ≠ "verifierChecks" → k ≠ "storageReceipt" →
      JsonRecord.get (JsonRecord.set key v evidence) k = JsonRecord.get evidence k := by
    intro k hchecks hreceipt
    rw [JsonRecord.get_set, if_neg]
    rcases hkey with rfl | rfl
    · exact hchecks.symm
    · exact hreceipt.symm
  have hmanifest : manifest (JsonRecord.set key v evidence) = manifest evidence :=
    hget _ (by decide) (by decide)
  have hsigned : signedPackage (JsonRecord.set key v evidence) = signedPackage evidence :=
    hget _ (by decide) (by decide)
  refine ⟨hmanifest ▸ ht.sections, hsigned ▸ ht.keyId, ?_, ?_, ?_, ?_, ?_⟩ <;>
    rw [hget _ (by decide) (by decide)]
  · exact ht.components
  · exact ht.poamItems
  · exact ht.poamExport
  · exact ht.views
  · exact ht.mappings

end

/-! ## Sealed packages -/

section
variable {κ : Type} {V : EvidenceVerifier κ} {evidence evidence' : JsonRecord}

/-- A package of JSON that passes all the checks, with texts where they are needed. -/
structure Sealed (V : EvidenceVerifier κ) (evidence : JsonRecord) : Prop where
  json : IsJson (.obj evidence)
  texts : TextPackage evidence
  verified : Verified V evidence

theorem Sealed.reported (h : Sealed V evidence) (verifiedAt : Option IsoDateTime)
    (now : IsoDateTime) : ReportedVerified V (.obj evidence) verifiedAt now :=
  verified_iff.2 h.verified

theorem Sealed.set (h : Sealed V evidence) {key : String}
    (hkey : key = "verifierChecks" ∨ key = "storageReceipt") {v : JsValue} (hv : IsJson v) :
    Sealed V (JsonRecord.set key v evidence) where
  json := isJson_set h.json hv
  texts := h.texts.set hkey v
  verified := by
    refine (verified_congr ?_).2 h.verified
    rcases hkey with rfl | rfl <;>
      exact evidenceChecks_set (by decide) (by decide) (by decide) v

theorem Sealed.congr (h : Sealed V evidence) (hsame : SameJson (.obj evidence) (.obj evidence'))
    (he' : IsJson (.obj evidence')) : Sealed V evidence' where
  json := he'
  texts := h.texts.congr hsame
  verified := h.verified.congr hsame h.json he' h.texts

/-- A draft of JSON whose mappings agree is finalized to a sealed package. -/
theorem Draft.sealed {M : EvidenceModule κ} {options : EvidenceIntegrityOptions κ}
    {draft : JsonRecord} (hprint : PrintsNumbers M.host) (h : Draft draft)
    (hd : IsJson (.obj draft)) (hcomponents : NamedBoundary draft) (hsame : SameEvents draft)
    (hsigns : ∀ unsigned, Signs (verifierOf M options) (resolveEvidenceSigner M options) unsigned)
    (hkeys : options.signer.isSome = true → options.trustedKeys.isSome = true)
    (now : IsoDateTime) :
    ∃ evidence, finalizeEvidenceExport M draft options now = .ok evidence ∧
      Sealed (verifierOf M options) evidence ∧
      JsonRecord.get evidence "exportId" = JsonRecord.get draft "exportId" ∧
      Named "packageHash" (JsonRecord.get evidence "integrityManifest") := by
  obtain ⟨content, signed, ids, ref, checks, hsigned, hs, -, hfinal⟩ :=
    h.finalized hsigns hkeys now
  have hids : ∀ ids, componentIds (JsonRecord.get draft "systemBoundary") = .ok ids →
      JsValue.undefined ∉ ids := by
    intro ids hids hu
    cases (componentIds_congr (.refl _) hcomponents hids).2 _ hu
  have hjson : IsJson (.obj signed) := h.isJson_signedEvidence hd hids hsigned
  have hseal : Sealed (verifierOf M options) signed := {
    json := hjson
    texts := hs.textPackage h hcomponents
    verified := (hs.verified_iff (V := verifierOf M options) hprint h (hsigns _)).2 hsame }
  refine ⟨_, hfinal, ⟨isJson_checked hjson checks, hseal.texts.set (.inl rfl) _, ?_⟩, ?_, ?_⟩
  · exact (verified_congr (evidenceChecks_set (by decide) (by decide) (by decide) _)).2
      hseal.verified
  · rw [JsonRecord.get_set, if_neg (by decide), hs.kept _ (by decide),
      hs.completed.kept _ (by simp [builtSections])]
  · rw [JsonRecord.get_set, if_neg (by decide)]
    exact ⟨_, hs.hash⟩

end

end AccessKit.L2.Evidence
