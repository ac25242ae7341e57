import AccessKit.L2Audit.ReferenceOperations

/-!
# Runs of the reference audit store

A run is any sequence of the adapter's operations; one that throws leaves the
store as it was. `IsTime` and `HexDigests` say what the clock and SHA-256 give.

Results:
* `valid_append`, `valid_sign`, `valid_deliver_iff`: what keeps a store one that an
  adapter opens on.
* `append_covered`: an event in the period of a signed window does not.
-/
namespace AccessKit.L2.Audit
open AccessKit.Core AccessKit.L1

/-- A time is written in digits, signs, points and the letters `T` and `Z`. -/
def IsTime (t : IsoDateTime) : Prop := ∀ c ∈ t.toList, c ∈ timeLetters

/-- SHA-256 digests are printed in lower-case hexadecimal digits. -/
def HexDigests (H : Host) : Prop :=
  ∀ s, ∀ c ∈ (H.sha256Hex s).toList, c ∈ "0123456789abcdef".toList

/-- The operations of an adapter but for those on evidence packages.
mirrors packages/core/src/reference-audit.ts:139-189 -/
inductive AuditOperation
  | appendAuditEvent (event : AuditEvent) (storedAt : IsoDateTime)
  | signAuditWindow (request : ReferenceAuditWindowRequest)
  | recordSiemDeliveryLogEntry (request : ReferenceSiemDeliveryRequest)
  | replaySiemDeliveryLogEntry (request : ReferenceSiemReplayRequest)
  | createBackup (id : CanonicalId) (createdAt : IsoDateTime)
  | restoreBackup (id : CanonicalId)

namespace ReferenceAuditEvidenceAdapter

section
variable (H : Host) (adapter : ReferenceAuditEvidenceAdapter)

/-- The store after an operation, when the clock shows `now`. -/
def perform (store : ExternalAppendOnlyAuditStore) (now : IsoDateTime) :
    AuditOperation → Except String ExternalAppendOnlyAuditStore
  | .appendAuditEvent event storedAt =>
    Prod.snd <$> adapter.appendAuditEvent H store event storedAt
  | .signAuditWindow request => Prod.snd <$> adapter.signAuditWindow H store request now
  | .recordSiemDeliveryLogEntry request =>
    Prod.snd <$> adapter.recordSiemDeliveryLogEntry H store request now
  | .replaySiemDeliveryLogEntry request =>
    Prod.snd <$> adapter.replaySiemDeliveryLogEntry H store request now
  | .createBackup id createdAt => Prod.snd <$> adapter.createBackup H store id createdAt
  | .restoreBackup id => adapter.restoreBackup H store id

/-- The event lies in the period of the window. -/
def Covers (window : ReferenceSignedAuditWindow) (event : AuditEvent) : Prop :=
  (stringLe window.periodStart event.occurredAt &&
    stringLe event.occurredAt window.periodEnd) = true

end

section
variable {H : Host} {adapter : ReferenceAuditEvidenceAdapter}

/-! ## What is not sensitive -/

theorem noSecrets_time {t : IsoDateTime} (h : IsTime t) : NoSecrets H (.str t) :=
  noSecrets_str.2 (isSensitiveString_eq_false harmless_time h)

theorem digits_harmless : ∀ c ∈ "0123456789abcdef".toList, c ∈ digestLetters :=
  mem_of_all (by decide)

theorem noSecrets_hash (hhex : HexDigests H) (v : JsValue) :
    NoSecrets H (.str (hashReference H v)) := by
  refine noSecrets_str.2 (isSensitiveString_eq_false harmless_digest fun c hc => ?_)
  rw [hashReference, String.toList_append, List.mem_append] at hc
  rcases hc with hc | hc
  · exact mem_of_all (by decide) c hc
  · exact digits_harmless c (hhex _ c hc)

theorem noSecrets_deliveryId (hhex : HexDigests H) (source : JsonRecord) :
    NoSecrets H (.str (deliveryId H source)) := by
  refine noSecrets_str.2 (isSensitiveString_eq_false harmless_digest fun c hc => ?_)
  rw [deliveryId, String.toList_append, List.mem_append] at hc
  rcases hc with hc | hc
  · exact mem_of_all (by decide) c hc
  · rw [sliceTo, String.toList_ofList] at hc
    exact digits_harmless c (hhex _ c (List.mem_of_mem_take hc))

/-- The keys of a delivery. -/
def deliveryKeys : List String :=
  ["version", "tenantBoundary", "deliveryId", "windowId", "destination", "status", "attemptedAt",
   "sourceEventIds", "eventCount", "lastEventHash", "deliveredAt", "error", "replayOfDeliveryId",
   "recordHash"]

theorem deliveryKeys_clean : ∀ k ∈ deliveryKeys, isSecretMaterialSensitiveKey H k = false := by
  have hascii : ∀ k ∈ deliveryKeys, k.toList.all (·.toNat < 128) = true := by decide +kernel
  have hclean : ∀ k ∈ deliveryKeys,
      isSecretMaterialSensitiveKey ⟨id, fun _ => none, fun _ => "", id⟩ k = false := by
    decide +kernel
  intro k hk
  rw [sensitiveKey_ascii (hascii k hk)]
  exact hclean k hk

/-- What has to be clean for a delivery to be. -/
theorem noSecrets_delivery {d : ReferenceSiemDeliveryRecord}
    (hversion : d.version = "production-siem-delivery:v1")
    (htenant : NoSecrets H (.str d.tenantBoundary)) (hid : NoSecrets H (.str d.deliveryId))
    (hwindow : NoSecrets H (.str d.windowId)) (hdestination : NoSecrets H (.str d.destination))
    (hattempted : NoSecrets H (.str d.attemptedAt))
    (hsources : ∀ id ∈ d.sourceEventIds, NoSecrets H (.str id))
    (hlast : NoSecrets H (optional d.lastEventHash))
    (hdelivered : NoSecrets H (optional d.deliveredAt)) (herror : NoSecrets H (optional d.error))
    (hreplay : NoSecrets H (optional d.replayOfDeliveryId))
    (hhash : NoSecrets H (.str d.recordHash)) : NoSecrets H d.toJs := by
  have hconst : NoSecrets H (.str d.version) ∧ NoSecrets H (.str d.status.name) ∧
      NoSecrets H (natural d.eventCount) := by
    refine ⟨?_, ?_, fun _ => by simp [natural, secretMaterialFindings]⟩
    · rw [hversion, noSecrets_str]
      decide +kernel
    · rw [noSecrets_str]
      cases d.status <;> decide +kernel
  have hids : NoSecrets H (strings d.sourceEventIds) := by
    refine noSecrets_arr.2 fun v hv => ?_
    obtain ⟨id, hid, rfl⟩ := List.mem_map.1 hv
    exact hsources id hid
  have hkeys := @deliveryKeys_clean H
  simp only [deliveryKeys, List.forall_mem_cons, List.not_mem_nil, false_implies, implies_true,
    and_true] at hkeys
  simp only [ReferenceSiemDeliveryRecord.toJs, withHash, ReferenceSiemDeliveryRecord.fields,
    noSecrets_obj, List.cons_append, List.nil_append, List.forall_mem_cons, List.not_mem_nil,
    false_implies, implies_true, and_true, hkeys, true_and]
  exact ⟨hconst.1, htenant, hid, hwindow, hdestination, hconst.2.1, hattempted, hids, hconst.2.2,
    hlast, hdelivered, herror, hreplay, hhash⟩

/-! ## One step -/

theorem eventsWithin_append {periodStart periodEnd : String}
    {records : List ReferenceAuditEventStoreRecord} {record : ReferenceAuditEventStoreRecord} :
    eventsWithin periodStart periodEnd (records ++ [record]) =
      eventsWithin periodStart periodEnd records ++
        if stringLe periodStart record.event.occurredAt &&
          stringLe record.event.occurredAt periodEnd then [record.event] else [] := by
  rw [eventsWithin, List.map_append, List.filter_append, eventsWithin]
  simp [List.filter_cons]

variable {store store' : ExternalAppendOnlyAuditStore}

theorem noSecrets_copy {event : AuditEvent} (h : NoSecrets H event.toJs) :
    NoSecrets H event.copy.toJs := by
  rw [AuditEvent.toJs, noSecrets_obj] at h ⊢
  simp only [List.forall_mem_cons] at h ⊢
  obtain ⟨hid, htype, hat, hactor, hsubject, hresource, hcorrelation, hpolicy, hrelationship, hhash,
    hprevious, ⟨hkey, hpayload⟩, hnil⟩ := h
  have hcopy := noSecrets_clone _ hpayload
  rw [clone] at hcopy
  exact ⟨hid, htype, hat, hactor, hsubject, hresource, hcorrelation, hpolicy, hrelationship, hhash,
    hprevious, ⟨hkey, hcopy⟩, hnil⟩

theorem strings_inj (hprint : PrintsNumbers H) {l l' : List String}
    (h : stableStringify H (strings l) = stableStringify H (strings l')) : l = l' := by
  have hjson : ∀ l, IsJson (strings l) := fun l => .arr fun v hv => by
    obtain ⟨s, -, rfl⟩ := List.mem_map.1 hv
    exact .str s
  cases sameJson_of_text hprint (hjson l) (hjson l') h with
  | arr h =>
    rw [List.forall₂_map_left_iff, List.forall₂_map_right_iff] at h
    exact List.forall₂_eq_eq_eq ▸ h.imp fun _ _ => sameJson_str

/-- **A late event spoils a signed window**: after it no adapter opens. -/
theorem append_covered {event : AuditEvent} {storedAt : IsoDateTime}
    (h : Valid H adapter store.toAuditSnapshot)
    (happend : ∃ receipt, adapter.appendAuditEvent H store event storedAt = .ok (receipt, store'))
    {window : ReferenceSignedAuditWindow} (hw : window ∈ store.signedWindows)
    (hcovers : Covers window event) (adapter' : ReferenceAuditEvidenceAdapter) :
    ¬ Valid H adapter' store'.toAuditSnapshot := by
  obtain ⟨-, -, -, -, rfl⟩ := appendAuditEvent_ok.1 happend
  intro h'
  have hbefore := (h.windows window hw).count
  have hafter := (h'.windows window hw).count
  rw [eventsWithin_append] at hafter
  have hcovers : (stringLe window.periodStart event.copy.occurredAt &&
      stringLe event.copy.occurredAt window.periodEnd) = true := hcovers
  simp [auditRecord, ReferenceAuditEventStoreRecord.withRecordHash, hcovers] at hafter
  omega

/-- The records stay trusted, when the copy of the event is hashed like it. -/
theorem trusted_append {event : AuditEvent} {storedAt : IsoDateTime}
    (happend : ∃ receipt, adapter.appendAuditEvent H store event storedAt = .ok (receipt, store'))
    (hhash : auditEventHash H event.copy = auditEventHash H event) :
    adapter.auditRecordFindings H [] 0 store'.auditRecords = [] := by
  obtain ⟨hstorable, htrusted, hfresh, -, rfl⟩ := appendAuditEvent_ok.1 happend
  obtain ⟨hsound, hconsistent, hnodup, -⟩ := auditRecordFindings_nil.1 htrusted
  refine auditRecordFindings_nil.2 ⟨?_, ?_, ?_, by simp⟩
  · refine List.forall_mem_append.2 ⟨hsound, List.forall_mem_singleton.2 ⟨rfl, rfl, rfl, ?_⟩⟩
    exact noSecrets_copy hstorable.clean
  · rw [List.map_append, consistent_append]
    refine ⟨hconsistent, ?_, hhash.symm, rfl, trivial⟩
    simp [auditRecord, ReferenceAuditEventStoreRecord.withRecordHash]
  · rw [List.map_append, List.nodup_append]
    refine ⟨hnodup, by simp, fun a ha b hb => ?_⟩
    obtain ⟨r, hr, rfl⟩ := List.mem_map.1 ha
    rw [List.mem_singleton.1 hb]
    exact hfresh r hr

theorem valid_append {event : AuditEvent} {storedAt : IsoDateTime}
    (h : Valid H adapter store.toAuditSnapshot)
    (happend : ∃ receipt, adapter.appendAuditEvent H store event storedAt = .ok (receipt, store'))
    (hhash : auditEventHash H event.copy = auditEventHash H event)
    (hearly : ∀ w ∈ store.signedWindows, ¬ Covers w event) :
    Valid H adapter store'.toAuditSnapshot := by
  have htrusted := trusted_append happend hhash
  obtain ⟨-, -, -, -, rfl⟩ := appendAuditEvent_ok.1 happend
  refine ⟨htrusted, h.evidence, fun w hw => ?_, h.deliveries⟩
  -- the events of the period are those of before
  have hsame : eventsWithin w.periodStart w.periodEnd (store.auditRecords ++
      [adapter.auditRecord H store.auditRecords event storedAt]) =
      eventsWithin w.periodStart w.periodEnd store.auditRecords := by
    have hout : ¬ (stringLe w.periodStart event.copy.occurredAt &&
        stringLe event.copy.occurredAt w.periodEnd) = true := hearly w hw
    rw [eventsWithin_append]
    exact (congrArg _ (if_neg hout)).trans (List.append_nil _)
  obtain ⟨ht, hc, hs, hf, hl, ha, hk, hsig, he⟩ := h.windows w hw
  exact ⟨ht, hsame ▸ hc, hsame ▸ hs, hsame ▸ hf, hsame ▸ hl, ha, hk, hsig, he⟩

theorem hash_of_valid_append {event : AuditEvent} {storedAt : IsoDateTime}
    (happend : ∃ receipt, adapter.appendAuditEvent H store event storedAt = .ok (receipt, store'))
    (h' : Valid H adapter store'.toAuditSnapshot) :
    auditEventHash H event.copy = auditEventHash H event := by
  obtain ⟨-, -, -, -, rfl⟩ := appendAuditEvent_ok.1 happend
  obtain ⟨-, hconsistent, -⟩ := auditRecordFindings_nil.1 h'.records
  rw [List.map_append, consistent_append] at hconsistent
  exact hconsistent.2.2.1.symm

theorem valid_sign {request : ReferenceAuditWindowRequest} {now : IsoDateTime}
    (hverify : ∀ payload,
      adapter.windowSigner.verify payload (adapter.windowSigner.sign payload) = true)
    (h : Valid H adapter store.toAuditSnapshot)
    (hsign : ∃ window, adapter.signAuditWindow H store request now = .ok (window, store')) :
    Valid H adapter store'.toAuditSnapshot := by
  obtain ⟨-, hkey, -, rfl⟩ := signAuditWindow_ok.1 hsign
  refine ⟨h.records, h.evidence, ?_, fun d hd => ?_⟩
  · exact List.forall_mem_append.2 ⟨h.windows, List.forall_mem_singleton.2
      ⟨rfl, rfl, rfl, rfl, rfl, rfl, hkey, hverify _, rfl⟩⟩
  · obtain ⟨ht, ⟨w, hw, hsame⟩, he, hclean⟩ := h.deliveries d hd
    refine ⟨ht, ⟨w, ?_, hsame⟩, he, hclean⟩
    rw [List.find?_append, hw]
    rfl

/-- What a delivery takes over from its window is clean. -/
theorem clean_window (hprint : PrintsNumbers H) (hhex : HexDigests H)
    (h : Valid H adapter store.toAuditSnapshot) {w : ReferenceSignedAuditWindow}
    (hw : w ∈ store.signedWindows) :
    (∀ id ∈ w.sourceEventIds, NoSecrets H (.str id)) ∧
      NoSecrets H (optional w.lastEventHash) := by
  obtain ⟨-, -, hsources, -, hlast, -⟩ := h.windows w hw
  constructor
  · rw [strings_inj hprint hsources]
    intro id hid
    obtain ⟨event, hevent, rfl⟩ := List.mem_map.1 hid
    obtain ⟨r, hr, rfl⟩ := List.mem_map.1 (List.mem_of_mem_filter hevent)
    exact ((auditRecordFindings_nil.1 h.records).1 r hr).clean.field List.mem_cons_self
  · rw [hlast]
    cases (eventsWithin w.periodStart w.periodEnd store.auditRecords).getLast? with
    | none => exact noSecrets_none
    | some event => exact noSecrets_hash hhex _

theorem noSecrets_getD {o : Option String} {t : String} (ho : NoSecrets H (optional o))
    (ht : NoSecrets H (.str t)) : NoSecrets H (.str (o.getD t)) := by
  cases o with
  | none => exact ht
  | some s => exact ho

theorem noSecrets_deliveredAt {o : Option String} {t : String} {c : Prop} [Decidable c]
    (ho : NoSecrets H (optional o)) (ht : NoSecrets H (.str t)) :
    NoSecrets H (optional (if c then some (o.getD t) else o)) := by
  split
  · exact noSecrets_getD ho ht
  · exact ho

theorem sound_firstDelivery (hprint : PrintsNumbers H) (hhex : HexDigests H)
    (htenant : isSensitiveString adapter.tenantBoundary = false)
    (h : Valid H adapter store.toAuditSnapshot) {request : ReferenceSiemDeliveryRequest}
    {now : IsoDateTime} (hnow : IsTime now) {window : ReferenceSignedAuditWindow}
    (hw : (store.signedWindows.find? fun w => w.windowId = request.windowId) = some window)
    (hclean : NoSecrets H request.toJs) :
    SoundDelivery H adapter store.signedWindows (adapter.firstDelivery H window request now) := by
  obtain ⟨hsources, hlast⟩ := clean_window hprint hhex h (List.mem_of_find?_eq_some hw)
  have hattempted : NoSecrets H (.str (request.attemptedAt.getD now)) :=
    noSecrets_getD (hclean.field (k := "attemptedAt") (by simp)) (noSecrets_time hnow)
  have hwindow : NoSecrets H (.str request.windowId) := hclean.field (k := "windowId") (by simp)
  have hdestination : NoSecrets H (.str request.destination) :=
    hclean.field (k := "destination") (by simp)
  have hdelivered : NoSecrets H (optional request.deliveredAt) :=
    hclean.field (k := "deliveredAt") (by simp)
  have herror : NoSecrets H (optional request.error) := hclean.field (k := "error") (by simp)
  refine ⟨rfl, ⟨window, hw, rfl, rfl⟩, rfl, ?_⟩
  exact noSecrets_delivery rfl (noSecrets_str.2 htenant) (noSecrets_deliveryId hhex _) hwindow
    hdestination hattempted hsources hlast (noSecrets_deliveredAt hdelivered hattempted) herror
    noSecrets_none (noSecrets_hash hhex _)

theorem sound_replayDelivery (hhex : HexDigests H)
    (htenant : isSensitiveString adapter.tenantBoundary = false)
    {windows : List ReferenceSignedAuditWindow} {failedDelivery : ReferenceSiemDeliveryRecord}
    (hfailed : SoundDelivery H adapter windows failedDelivery)
    {request : ReferenceSiemReplayRequest} {now : IsoDateTime} (hnow : IsTime now)
    (hclean : NoSecrets H request.toJs) :
    SoundDelivery H adapter windows (adapter.replayDelivery H failedDelivery request now) := by
  have hattempted : NoSecrets H (.str (request.attemptedAt.getD now)) :=
    noSecrets_getD (hclean.field (k := "attemptedAt") (by simp)) (noSecrets_time hnow)
  have hdestination : NoSecrets H (optional request.destination) :=
    hclean.field (k := "destination") (by simp)
  have hdelivered : NoSecrets H (optional request.deliveredAt) :=
    hclean.field (k := "deliveredAt") (by simp)
  have herror : NoSecrets H (optional request.error) := hclean.field (k := "error") (by simp)
  -- the rest is taken over from the delivery that failed
  have hold : ∀ {k v}, (k, v) ∈ failedDelivery.fields → NoSecrets H v := fun hmem =>
    hfailed.clean.field (List.mem_append_left _ hmem)
  have hids : NoSecrets H (strings failedDelivery.sourceEventIds) :=
    hold (k := "sourceEventIds") (by simp [ReferenceSiemDeliveryRecord.fields])
  have hid : NoSecrets H (.str failedDelivery.deliveryId) :=
    hold (k := "deliveryId") (by simp [ReferenceSiemDeliveryRecord.fields])
  have hwindow : NoSecrets H (.str failedDelivery.windowId) :=
    hold (k := "windowId") (by simp [ReferenceSiemDeliveryRecord.fields])
  have hformer : NoSecrets H (.str failedDelivery.destination) :=
    hold (k := "destination") (by simp [ReferenceSiemDeliveryRecord.fields])
  have hlast : NoSecrets H (optional failedDelivery.lastEventHash) :=
    hold (k := "lastEventHash") (by simp [ReferenceSiemDeliveryRecord.fields])
  refine ⟨rfl, hfailed.window, rfl, ?_⟩
  exact noSecrets_delivery rfl (noSecrets_str.2 htenant) (noSecrets_deliveryId hhex _) hwindow
    (noSecrets_getD hdestination hformer) hattempted
    (fun id hid => noSecrets_arr.1 hids _ (List.mem_map_of_mem hid)) hlast
    (noSecrets_deliveredAt hdelivered hattempted) herror hid (noSecrets_hash hhex _)

/-- A store with one more delivery is valid when the delivery is sound. -/
theorem valid_deliver_iff {delivery : ReferenceSiemDeliveryRecord}
    (h : Valid H adapter store.toAuditSnapshot) :
    Valid H adapter
        { store with siemDeliveries := store.siemDeliveries ++ [delivery] }.toAuditSnapshot ↔
      SoundDelivery H adapter store.signedWindows delivery := by
  constructor
  · intro h'
    exact h'.deliveries delivery (List.mem_append_right _ (List.mem_singleton_self _))
  · intro hd
    exact ⟨h.records, h.evidence, h.windows,
      List.forall_mem_append.2 ⟨h.deliveries, List.forall_mem_singleton.2 hd⟩⟩

theorem SoundDelivery.tenant_clean {windows : List ReferenceSignedAuditWindow}
    {delivery : ReferenceSiemDeliveryRecord} (h : SoundDelivery H adapter windows delivery) :
    isSensitiveString adapter.tenantBoundary = false := by
  have hclean : NoSecrets H delivery.toJs := h.clean
  have hfield : NoSecrets H (.str delivery.tenantBoundary) :=
    hclean.field (k := "tenantBoundary") (by simp [ReferenceSiemDeliveryRecord.fields])
  rw [h.tenant] at hfield
  exact noSecrets_str.1 hfield

end

end ReferenceAuditEvidenceAdapter

end AccessKit.L2.Audit
