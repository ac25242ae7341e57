import AccessKit.Core.HashChain
import AccessKit.L2Audit.Fixtures

/-!
# The audit chain

Results:
* `verified_iff`: a verified list is a hash chain whose payload hashes are
  right.
* `sameEvent_of_hash`: the hash of an event determines it.
* `SameText.chained`, `SameText.payloadsHashed`: a list is verified or not by the
  texts of its payloads.
* `chain_tamper_evident`: recorded chains are verified, and the last hash of a
  verified list determines the list.
-/
namespace AccessKit.L2.Audit
open AccessKit.Core AccessKit.L1 AccessKit.L2.Fixtures AccessKit.L2.Audit.Fixtures

section
variable (H : Host)

/-- The events name each other's hashes, the first one none. -/
def Chained (events : List AuditEvent) : Prop :=
  Linked (auditEventHash H) AuditEvent.previousEventHash none events

/-- Every event has the hash of its payload. -/
def PayloadsHashed (events : List AuditEvent) : Prop :=
  ∀ e ∈ events, e.payloadHash = auditPayloadHash H e.payload

end

/-! ## What a verified chain is -/

section
variable {H : Host}

theorem eventFindings_eq_nil {previousEvent : Option AuditEvent} {e : AuditEvent} :
    eventFindings H previousEvent e = [] ↔ e.payloadHash = auditPayloadHash H e.payload ∧
      e.previousEventHash = previousEvent.map (auditEventHash H) := by
  unfold eventFindings
  rw [List.append_eq_nil_iff]
  constructor
  · intro ⟨hpay, hprev⟩
    constructor
    · by_contra hne
      simp [hne] at hpay
    · by_contra hne
      simp [hne] at hprev
  · intro ⟨hpay, hprev⟩
    simp [hpay, hprev]

theorem chainFindings_eq_nil {previousEvent : Option AuditEvent} {events : List AuditEvent} :
    chainFindings H previousEvent events = [] ↔
      Linked (auditEventHash H) AuditEvent.previousEventHash
        (previousEvent.map (auditEventHash H)) events ∧ PayloadsHashed H events := by
  induction events generalizing previousEvent with
  | nil => simp [chainFindings, Linked, PayloadsHashed]
  | cons e events ih =>
    simp only [chainFindings, List.append_eq_nil_iff, ih, eventFindings_eq_nil, Linked,
      PayloadsHashed, List.forall_mem_cons, Option.map_some]
    tauto

/-- **A verified list** is a hash chain, and its payload hashes are right. -/
theorem verified_iff {events : List AuditEvent} {verifiedAt : IsoDateTime} :
    (verifyAuditChain H events verifiedAt).status = .verified ↔
      Chained H events ∧ PayloadsHashed H events := by
  unfold verifyAuditChain Chained
  rw [← Option.map_none (auditEventHash H), ← chainFindings_eq_nil]
  simp

/-! ## Recorded chains -/

theorem chained_record {recorder : AuditRecorder} (h : Chained H recorder.events)
    (input : AuditEventInput) (occurredAt : IsoDateTime) :
    Chained H (recorder.record H input occurredAt).events := by
  refine linked_concat.2 ⟨h, ?_⟩
  rw [tip_eq_getLast]
  rfl

theorem payloadsHashed_record {recorder : AuditRecorder} (h : PayloadsHashed H recorder.events)
    (input : AuditEventInput) (occurredAt : IsoDateTime) :
    PayloadsHashed H (recorder.record H input occurredAt).events := by
  intro e he
  rcases List.mem_append.1 he with he | he
  · exact h e he
  · rw [List.mem_singleton.1 he]
    rfl

theorem verified_recordAll {recorder : AuditRecorder}
    (h : Chained H recorder.events ∧ PayloadsHashed H recorder.events)
    (inputs : List (AuditEventInput × IsoDateTime)) :
    Chained H (recorder.recordAll H inputs).events ∧
      PayloadsHashed H (recorder.recordAll H inputs).events := by
  induction inputs generalizing recorder with
  | nil => exact h
  | cons p inputs ih =>
    exact ih ⟨chained_record h.1 p.1 p.2, payloadsHashed_record h.2 p.1 p.2⟩

/-! ## The hash of an event -/

/-- Equal up to the key order and the `undefined` properties of the payloads. -/
structure SameEvent (e e' : AuditEvent) : Prop where
  fields : { e with payload := [] } = { e' with payload := [] }
  payload : SameJson (.obj e.payload) (.obj e'.payload)

theorem isJson_optional {o : Option String} (h : optional o ≠ .undefined) :
    IsJson (optional o) := by
  cases o with
  | none => exact absurd rfl h
  | some s => exact .str s

theorem isJson_toJs {e : AuditEvent} (h : IsJson (.obj e.payload)) : IsJson e.toJs := by
  refine .obj (by simp) ?_
  simp only [List.forall_mem_cons, IsJson.str, h, implies_true, true_and, and_true,
    List.not_mem_nil, false_implies]
  exact ⟨isJson_optional, isJson_optional, isJson_optional, isJson_optional, isJson_optional⟩

theorem hashReference_inj (hsha : Function.Injective H.sha256Hex) {v w : JsValue}
    (hv : v ≠ .undefined) (hw : w ≠ .undefined) (h : hashReference H v = hashReference H w) :
    stableStringify H v = stableStringify H w := by
  have htext := hsha ((String.append_right_inj _).1 h)
  obtain ⟨s, hs⟩ := Option.ne_none_iff_exists'.1 (fun hn => hv (stableStringify_eq_none.1 hn))
  obtain ⟨t, ht⟩ := Option.ne_none_iff_exists'.1 (fun hn => hw (stableStringify_eq_none.1 hn))
  rw [hs, ht] at htext ⊢
  exact congrArg some htext

theorem sameJson_str {s t : String} (h : SameJson (.str s) (.str t)) : s = t := by
  cases h
  rfl

theorem sameJson_optional {o p : Option String} (h : SameJson (optional o) (optional p)) :
    o = p := by
  cases o <;> cases p <;> cases h <;> rfl

theorem sameEvent_of_sameJson {e e' : AuditEvent} (h : SameJson e.toJs e'.toJs) :
    SameEvent e e' := by
  obtain ⟨id, ty, at_, ac, su, re, co, po, rel, ph, pr, pa⟩ := e
  obtain ⟨id', ty', at', ac', su', re', co', po', rel', ph', pr', pa'⟩ := e'
  cases h with
  | obj h =>
    obtain rfl := sameJson_str (h "eventId")
    obtain rfl := sameJson_str (h "eventType")
    obtain rfl := sameJson_str (h "occurredAt")
    obtain rfl := sameJson_str (h "actor")
    obtain rfl := sameJson_optional (h "subjectId")
    obtain rfl := sameJson_optional (h "resourceId")
    obtain rfl := sameJson_str (h "correlationId")
    obtain rfl := sameJson_optional (h "policyVersion")
    obtain rfl := sameJson_optional (h "relationshipVersion")
    obtain rfl := sameJson_str (h "payloadHash")
    obtain rfl := sameJson_optional (h "previousEventHash")
    exact ⟨rfl, h "payload"⟩

/-- The hash of an event determines the event. -/
theorem sameEvent_of_hash (hprint : PrintsNumbers H) (hsha : Function.Injective H.sha256Hex)
    {e e' : AuditEvent} (he : IsJson (.obj e.payload)) (he' : IsJson (.obj e'.payload))
    (h : auditEventHash H e = auditEventHash H e') : SameEvent e e' :=
  sameEvent_of_sameJson (sameJson_of_text hprint (isJson_toJs he) (isJson_toJs he')
    (hashReference_inj hsha nofun nofun h))

/-! ## Texts of payloads -/

/-- The same but for the payloads, which have one text. -/
structure SameText (H : Host) (e e' : AuditEvent) : Prop where
  fields : { e with payload := [] } = { e' with payload := [] }
  payload : stableStringify H (.obj e.payload) = stableStringify H (.obj e'.payload)

theorem SameText.text {e e' : AuditEvent} (h : SameText H e e') :
    stableStringify H e.toJs = stableStringify H e'.toJs := by
  obtain ⟨hfields, hpayload⟩ := h
  cases e
  cases e'
  cases hfields
  simp only [AuditEvent.toJs, stableStringify, stringifyFields] at hpayload ⊢
  rw [hpayload]

theorem SameText.hash {e e' : AuditEvent} (h : SameText H e e') :
    auditEventHash H e = auditEventHash H e' := by
  rw [auditEventHash, auditEventHash, hashReference, hashReference, sha256, sha256, h.text]

theorem SameText.payloadHash {e e' : AuditEvent} (h : SameText H e e') :
    auditPayloadHash H e.payload = auditPayloadHash H e'.payload := by
  rw [auditPayloadHash, auditPayloadHash, hashReference, hashReference, sha256, sha256, h.payload]

theorem SameText.chained {events events' : List AuditEvent}
    (h : List.Forall₂ (SameText H) events events') :
    (Chained H events ↔ Chained H events') ∧
      tip (auditEventHash H) none events = tip (auditEventHash H) none events' :=
  linked_congr (h.imp fun _ _ hab => ⟨hab.hash, congrArg (·.previousEventHash) hab.fields⟩)

theorem SameText.payloadsHashed {events events' : List AuditEvent}
    (h : List.Forall₂ (SameText H) events events') :
    PayloadsHashed H events ↔ PayloadsHashed H events' := by
  induction h with
  | nil => exact .rfl
  | cons hab _ ih =>
    have hown : ∀ {e e' : AuditEvent}, SameText H e e' → e.payloadHash = e'.payloadHash :=
      fun h => congrArg (·.payloadHash) h.fields
    simp only [PayloadsHashed, List.forall_mem_cons, hab.payloadHash, hown hab] at ih ⊢
    rw [ih]

/-- **The audit chain is tamper evident**: what the recorder adds to a verified
chain leaves it verified, and two verified lists with the same last hash are the
same event for event. -/
theorem chain_tamper_evident (hprint : PrintsNumbers H)
    (hsha : Function.Injective H.sha256Hex) :
    (∀ (recorder : AuditRecorder) (inputs : List (AuditEventInput × IsoDateTime))
        (verifiedAt : IsoDateTime),
      recorder.list = [] ∨ (verifyAuditChain H recorder.list verifiedAt).status = .verified →
      (verifyAuditChain H (recorder.recordAll H inputs).list verifiedAt).status = .verified) ∧
    (∀ (events events' : List AuditEvent) (verifiedAt verifiedAt' : IsoDateTime),
      (∀ e ∈ events, IsJson (.obj e.payload)) → (∀ e ∈ events', IsJson (.obj e.payload)) →
      (verifyAuditChain H events verifiedAt).status = .verified →
      (verifyAuditChain H events' verifiedAt').status = .verified →
      (verifyAuditChain H events verifiedAt).lastEventHash =
        (verifyAuditChain H events' verifiedAt').lastEventHash →
      events.length = events'.length ∧ List.Forall₂ SameEvent events events') := by
  constructor
  · intro recorder inputs verifiedAt h
    rw [verified_iff]
    refine verified_recordAll ?_ inputs
    rcases h with h | h
    · rw [AuditRecorder.list] at h
      rw [h]
      exact ⟨trivial, fun e he => (by cases he)⟩
    · exact verified_iff.1 h
  · intro events events' verifiedAt verifiedAt' hjson hjson' hv hv' hlast
    have htip : tip (auditEventHash H) none events = tip (auditEventHash H) none events' := by
      rw [tip_eq_getLast, tip_eq_getLast]
      exact hlast
    have hsame := Linked.eq_of_tip (P := fun e => IsJson (.obj e.payload)) (R := SameEvent)
      (auditEventHash H) AuditEvent.previousEventHash
      (fun a b ha hb h =>
        let hab := sameEvent_of_hash hprint hsha ha hb h
        ⟨hab, congrArg (·.previousEventHash) hab.fields⟩)
      (verified_iff.1 hv).1 (verified_iff.1 hv').1 hjson hjson' htip
    exact ⟨hsame.length_eq, hsame⟩

theorem recorded_same :
    (verifyAuditChain exactHost (recorded grantCreated).list timestamp).status = .verified ∧
    List.Forall₂ SameEvent (recorded grantCreated).list (reordered (recorded grantCreated).list) := by
  obtain ⟨hrecorded, hsame⟩ := chain_tamper_evident printsNumbers_exact noCollision_exact
  have hv := hrecorded ⟨[]⟩ [(grantCreated, timestamp), (grantCreated, later)] timestamp (.inl rfl)
  have htext : List.Forall₂ (SameText exactHost) (recorded grantCreated).list
      (reordered (recorded grantCreated).list) :=
    List.forall₂_map_right_iff.2 (List.forall₂_same.2 fun e he =>
      ⟨rfl, (payload_recorded e he).symm ▸ text_reordered⟩)
  have hv' : (verifyAuditChain exactHost (reordered (recorded grantCreated).list) timestamp).status =
      .verified := by
    rw [verified_iff, ← (SameText.chained htext).1, ← SameText.payloadsHashed htext, ← verified_iff]
    exact hv
  refine ⟨hv, (hsame _ _ timestamp timestamp recorded_json reordered_json hv hv' ?_).2⟩
  have htip := (SameText.chained htext).2
  rw [tip_eq_getLast, tip_eq_getLast] at htip
  exact htip

end

end AccessKit.L2.Audit
