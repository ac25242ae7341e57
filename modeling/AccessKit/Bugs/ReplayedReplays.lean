import AccessKit.L2Audit.ReferenceFixtures
import AccessKit.L2Audit.SiemReplays

/-!
# A replay of a replay resolves nothing

Status: open. `siemDeliveryFindings` (packages/core/src/reference-audit-integrity.ts:202-241)
takes a failed delivery for resolved when a replay of it was delivered. A replay that fails is
recorded as a failed delivery of its own and can be replayed
(packages/core/src/reference-audit-siem.ts:73-108); when that replay is delivered, the report
still names the first delivery, although its events arrived. The message of the finding and
docs/audit-event-model.md say that a failure counts until a replay succeeds.

Counterexample: a delivery fails, its replay fails, the replay of the replay is delivered
(`recovered_reported`).

Exact condition: a replay of a failed replay is delivered only after a replay of the first
delivery was (`reached_accounted`).
-/
namespace AccessKit.Bugs.ReplayedReplays
open AccessKit.Core AccessKit.L1 AccessKit.L2.Fixtures AccessKit.L2.Audit
  AccessKit.L2.Audit.Fixtures ReferenceAuditEvidenceAdapter

/-- What an operation that does not throw needs: a delivered replay of a replay comes after a
delivered replay of what that one replays. -/
def Meets (store : ExternalAppendOnlyAuditStore) : AuditOperation → Prop
  | .replaySiemDeliveryLogEntry request => request.status.getD .delivered = .delivered →
      ∀ d ∈ store.siemDeliveries, d.deliveryId = request.deliveryId →
        ∀ id, d.replayOfDeliveryId = some id → replayed store.siemDeliveries id = true
  | _ => True

section
variable (H : Host) (adapter : ReferenceAuditEvidenceAdapter)

/-- A failed delivery is reported exactly when no later one in its chain of replays was
delivered. -/
def Accounted (store : ExternalAppendOnlyAuditStore) (verifiedAt : IsoDateTime) : Prop :=
  ∀ d ∈ store.siemDeliveries, d.status = .failed →
    (Reported H adapter store verifiedAt d ↔ ¬ Recovered store.siemDeliveries d)

/-- The stores that operations lead to from an empty one, when those that do not throw meet
their condition. One that throws leaves the store as it was. -/
inductive Reached : ExternalAppendOnlyAuditStore → Prop
  | empty : Reached emptyStore
  | performed {store store' : ExternalAppendOnlyAuditStore} (h : Reached store)
      (op : AuditOperation) (now : IsoDateTime)
      (hop : adapter.perform H store now op = .ok store') (hmeets : Meets store op) :
      Reached store'

end

section
variable {H : Host} {adapter : ReferenceAuditEvidenceAdapter}
  {store store' : ExternalAppendOnlyAuditStore}

/-- Only what failed is replayed, so that nothing else needs to be recovered. -/
theorem accounted_iff {verifiedAt : IsoDateTime} (h : OrderedLog store.siemDeliveries) :
    Accounted H adapter store verifiedAt ↔ Inherited store.siemDeliveries := by
  rw [← h.recovered_iff_inherited]
  refine forall_congr' fun d => forall_congr' fun hd => ?_
  constructor
  · intro hall
    by_cases hfailed : d.status = .failed
    · have hd := hall hfailed
      rw [reported_iff h ‹_› hfailed, ← Bool.not_eq_true, not_iff_not] at hd
      exact hd.symm
    · -- a delivery that did not fail is not replayed
      have hunreplayed : ∀ e, ¬ ReplayOf store.siemDeliveries d e := by
        rintro e ⟨hsub, hof⟩
        obtain ⟨d', hid, hfailed', hsub'⟩ := h.earlier e (hsub.subset (by simp)) _ hof
        exact hfailed (h.eq_of_id (hsub'.subset (by simp)) hd hid ▸ hfailed')
      refine iff_of_false ?_ fun hreplayed => ?_
      · rintro ⟨e, hde, -⟩
        obtain ⟨c, hdc, -⟩ := Relation.TransGen.head'_iff.1 hde
        exact hunreplayed c hdc
      · obtain ⟨e, hde, -⟩ := (h.replayed_iff hd).1 hreplayed
        exact hunreplayed e hde
  · intro hall hfailed
    rw [reported_iff h hd hfailed, hall, Bool.not_eq_true]

/-- The log and the logs in the backups are in order, and recoveries are inherited in them. -/
structure Sound (store : ExternalAppendOnlyAuditStore) : Prop where
  log : OrderedLog store.siemDeliveries ∧ Inherited store.siemDeliveries
  backups : ∀ id backup, store.backups.get? id = some backup →
    OrderedLog backup.siemDeliveries ∧ Inherited backup.siemDeliveries

theorem Sound.append (h : Sound store) {x : ReferenceSiemDeliveryRecord}
    (hfresh : ∀ d ∈ store.siemDeliveries, d.deliveryId ≠ x.deliveryId)
    (hof : ∀ id, x.replayOfDeliveryId = some id →
      ∃ d ∈ store.siemDeliveries, d.deliveryId = id ∧ d.status = .failed)
    (hlog : store'.siemDeliveries = store.siemDeliveries ++ [x]) :
    OrderedLog store'.siemDeliveries ∧ (Inherited store'.siemDeliveries ↔
      (x.status = .delivered → ∀ d ∈ store.siemDeliveries,
        x.replayOfDeliveryId = some d.deliveryId → ∀ id, d.replayOfDeliveryId = some id →
          replayed store.siemDeliveries id = true)) := by
  rw [hlog]
  refine ⟨h.log.1.append hfresh hof, inherited_append_iff h.log.1 h.log.2 hfresh fun id hid => ?_⟩
  obtain ⟨d, hd, hdid, -⟩ := hof id hid
  exact ⟨d, hd, hdid⟩

/-- **One operation** keeps the log in order, and recoveries inherited exactly when it meets its
condition. -/
theorem performed_sound_iff (h : Sound store) {op : AuditOperation} {now : IsoDateTime}
    (hop : adapter.perform H store now op = .ok store') :
    OrderedLog store'.siemDeliveries ∧ (Inherited store'.siemDeliveries ↔ Meets store op) ∧
      ∀ id backup, store'.backups.get? id = some backup →
        OrderedLog backup.siemDeliveries ∧ Inherited backup.siemDeliveries := by
  cases performed_log hop with
  | appended hlog hbackups | signed hlog hbackups =>
    rw [hlog, hbackups]
    exact ⟨h.log.1, iff_of_true h.log.2 trivial, h.backups⟩
  | delivered x hfresh hof hlog hbackups =>
    obtain ⟨hordered, hinherited⟩ := h.append hfresh (fun id hid => by rw [hof] at hid; cases hid) hlog
    rw [hbackups, hinherited]
    refine ⟨hordered, iff_of_true (fun _ d _ hxd => ?_) trivial, h.backups⟩
    rw [hof] at hxd
    cases hxd
  | @replayed request x hfresh hfound hof hstatus hlog hbackups =>
    have hofAll : ∀ id, x.replayOfDeliveryId = some id →
        ∃ d ∈ store.siemDeliveries, d.deliveryId = id ∧ d.status = .failed := by
      intro id hid
      rw [hof] at hid
      exact Option.some.inj hid ▸ hfound
    obtain ⟨hordered, hinherited⟩ := h.append hfresh hofAll hlog
    rw [hbackups, hinherited, hstatus, hof]
    refine ⟨hordered, ?_, h.backups⟩
    exact forall_congr' fun _ => forall_congr' fun d => forall_congr' fun _ =>
      ⟨fun hall hid => hall (congrArg some hid.symm), fun hall hid => hall (Option.some.inj hid).symm⟩
  | @saved id createdAt backup hsaved hlog hbackups =>
    rw [hlog, hbackups]
    refine ⟨h.log.1, iff_of_true h.log.2 trivial, fun id' b hb => ?_⟩
    rw [OrderedMap.get?_set] at hb
    split at hb
    · cases hb
      rw [hsaved]
      exact h.log
    · exact h.backups id' b hb
  | restored backup hfound hlog hbackups =>
    rw [hlog, hbackups]
    have hlog := h.backups _ backup hfound
    exact ⟨hlog.1, iff_of_true hlog.2 trivial, h.backups⟩

theorem sound_empty : Sound emptyStore where
  log := ⟨⟨List.nodup_nil, fun _ he => absurd he List.not_mem_nil⟩,
    fun _ _ hde => absurd hde.1 (by simp [emptyStore])⟩
  backups _ _ hb := by cases hb

theorem reached_sound (h : Reached H adapter store) : Sound store := by
  induction h with
  | empty => exact sound_empty
  | performed _ op now hop hmeets ih =>
    obtain ⟨hordered, hinherited, hbackups⟩ := performed_sound_iff ih hop
    exact ⟨⟨hordered, hinherited.2 hmeets⟩, hbackups⟩

/-- **When failures are accounted for**: in every run whose operations meet their condition, the
report names the failed deliveries without a recovery and no others, and the first operation that
does not meet it breaks this. -/
theorem reached_accounted (h : Reached H adapter store) (verifiedAt : IsoDateTime) :
    Accounted H adapter store verifiedAt ∧
      ∀ op now store', adapter.perform H store now op = .ok store' →
        (Accounted H adapter store' verifiedAt ↔ Meets store op) := by
  have hsound := reached_sound h
  refine ⟨(accounted_iff hsound.log.1).2 hsound.log.2, fun op now store' hop => ?_⟩
  obtain ⟨hordered, hinherited, -⟩ := performed_sound_iff hsound hop
  rw [accounted_iff hordered, hinherited]

end

/-! ## A replay that fails, and its replay -/

/-- A host whose digests are the sum of the code points. -/
def summingHost : Host :=
  { exactHost with sha256Hex := fun s => toString ((s.toList.map Char.toNat).foldl Nat.add 0) }

def wholeDay : ReferenceAuditWindowRequest where
  windowId := "day:2026-05-21"
  periodStart := "2026-05-21T00:00:00.000Z"
  periodEnd := "2026-05-21T23:59:59.999Z"

def outage : ReferenceSiemDeliveryRequest where
  windowId := "day:2026-05-21"
  destination := "siem"
  status := .failed
  attemptedAt := some timestamp
  error := some "504"

/-- The adapter of the tenant. -/
def tenant : ReferenceAuditEvidenceAdapter := tenantAdapter summingHost

def window : ReferenceSignedAuditWindow := tenant.signedWindow summingHost [] wholeDay timestamp

/-- The delivery that failed. -/
def first : ReferenceSiemDeliveryRecord := tenant.firstDelivery summingHost window outage timestamp

/-- Its replay, an hour later, fails too. -/
def failedReplay : ReferenceSiemReplayRequest where
  deliveryId := first.deliveryId
  attemptedAt := some later
  status := some .failed
  error := some "504"

def second : ReferenceSiemDeliveryRecord :=
  tenant.replayDelivery summingHost first failedReplay timestamp

/-- The replay of the replay arrives. -/
def deliveredReplay : ReferenceSiemReplayRequest where
  deliveryId := second.deliveryId
  attemptedAt := some "2026-05-21T19:00:00.000Z"

def third : ReferenceSiemDeliveryRecord :=
  tenant.replayDelivery summingHost second deliveredReplay timestamp

theorem first_id : first.deliveryId = "siem-delivery:6656" := by decide +kernel

theorem second_id : second.deliveryId = "siem-delivery:6557" := by
  show deliveryId summingHost [("replayOfDeliveryId", .str first.deliveryId),
    ("attemptedAt", .str later)] = _
  rw [first_id]
  decide +kernel

theorem third_id : third.deliveryId = "siem-delivery:6558" := by
  show deliveryId summingHost [("replayOfDeliveryId", .str second.deliveryId),
    ("attemptedAt", .str "2026-05-21T19:00:00.000Z")] = _
  rw [second_id]
  decide +kernel

theorem noSecrets_digest {s : String} (h : ∀ c ∈ s.toList, c ∈ digestLetters) :
    NoSecrets summingHost (.str s) :=
  noSecrets_str.2 (isSensitiveString_eq_false harmless_digest h)

/-- A request without secrets: its keys are those of a delivery. -/
theorem noSecrets_request {fields : JsonRecord} (hkeys : ∀ p ∈ fields, p.1 ∈ deliveryKeys)
    (hvalues : ∀ p ∈ fields, NoSecrets summingHost p.2) : NoSecrets summingHost (.obj fields) :=
  noSecrets_obj.2 fun p hp => ⟨deliveryKeys_clean _ (hkeys p hp), hvalues p hp⟩

/-- The store with a log of deliveries of the window. -/
def logged (log : List ReferenceSiemDeliveryRecord) : ExternalAppendOnlyAuditStore :=
  { emptyStore with signedWindows := [window], siemDeliveries := log }

theorem perform_sign : tenant.perform summingHost emptyStore timestamp (.signAuditWindow wholeDay) =
    .ok (logged []) :=
  snd_ok.2 (signAuditWindow_ok.2 ⟨rfl, rfl, fun _ hw => absurd hw List.not_mem_nil, rfl⟩)

theorem noSecrets_outage : NoSecrets summingHost outage.toJs := by
  refine noSecrets_request (by simp [deliveryKeys]) ?_
  simp only [List.forall_mem_cons, List.not_mem_nil, false_implies, implies_true, and_true]
  exact ⟨noSecrets_digest (mem_of_all (by decide)), noSecrets_digest (mem_of_all (by decide)),
    noSecrets_digest (mem_of_all (by decide)), noSecrets_time (mem_of_all (by decide)),
    fun _ => rfl, noSecrets_time (mem_of_all (by decide))⟩

theorem noSecrets_failedReplay : NoSecrets summingHost failedReplay.toJs := by
  refine noSecrets_request (by simp [deliveryKeys]) ?_
  simp only [List.forall_mem_cons, List.not_mem_nil, false_implies, implies_true, and_true]
  refine ⟨?_, noSecrets_time (mem_of_all (by decide)), fun _ => rfl,
    noSecrets_digest (mem_of_all (by decide)), fun _ => rfl,
    noSecrets_time (mem_of_all (by decide))⟩
  rw [failedReplay, first_id]
  exact noSecrets_digest (mem_of_all (by decide))

theorem noSecrets_deliveredReplay : NoSecrets summingHost deliveredReplay.toJs := by
  refine noSecrets_request (by simp [deliveryKeys]) ?_
  simp only [List.forall_mem_cons, List.not_mem_nil, false_implies, implies_true, and_true]
  refine ⟨?_, noSecrets_time (mem_of_all (by decide)), fun _ => rfl, fun _ => rfl, fun _ => rfl,
    fun _ => rfl⟩
  rw [deliveredReplay, second_id]
  exact noSecrets_digest (mem_of_all (by decide))

theorem perform_outage : tenant.perform summingHost (logged []) timestamp
    (.recordSiemDeliveryLogEntry outage) = .ok (logged [first]) := by
  have hvalid : Valid summingHost tenant (logged []).toAuditSnapshot :=
    valid_sign (new_ok (new_tenant (valid_empty summingHost))).2.2 (valid_empty summingHost)
      (snd_ok.1 perform_sign)
  exact snd_ok.2 (recordSiemDeliveryLogEntry_ok.2 ⟨signedWindowFindings_nil.2 hvalid.windows,
    window, rfl, by decide, noSecrets_outage, fun _ hd => absurd hd List.not_mem_nil, rfl⟩)

theorem perform_failedReplay : tenant.perform summingHost (logged [first]) timestamp
    (.replaySiemDeliveryLogEntry failedReplay) = .ok (logged [first, second]) := by
  refine snd_ok.2 (replaySiemDeliveryLogEntry_ok.2
    ⟨first, ?_, rfl, by decide, noSecrets_failedReplay, ?_, rfl⟩)
  · exact List.find?_cons_of_pos (by simp [failedReplay])
  · intro d hd
    rw [List.mem_singleton.1 hd, first_id]
    exact fun h => absurd (h.trans second_id) (by decide)

theorem perform_deliveredReplay : tenant.perform summingHost (logged [first, second]) timestamp
    (.replaySiemDeliveryLogEntry deliveredReplay) = .ok (logged [first, second, third]) := by
  refine snd_ok.2 (replaySiemDeliveryLogEntry_ok.2
    ⟨second, ?_, rfl, by decide, noSecrets_deliveredReplay, ?_, rfl⟩)
  · show List.find? _ [first, second] = some second
    rw [List.find?_cons_of_neg (by simp [deliveredReplay, first_id, second_id])]
    exact List.find?_cons_of_pos (by simp [deliveredReplay])
  · intro d hd
    simp only [logged, List.mem_cons, List.not_mem_nil, or_false] at hd
    rcases hd with rfl | rfl
    · rw [first_id]
      exact fun h => absurd (h.trans third_id) (by decide)
    · rw [second_id]
      exact fun h => absurd (h.trans third_id) (by decide)

theorem reached_second : Reached summingHost tenant (logged [first, second]) :=
  .performed (.performed (.performed .empty _ timestamp perform_sign trivial) _ timestamp
    perform_outage trivial) _ timestamp perform_failedReplay fun h => nomatch h

/-- **Counterexample**: the replay of the replay arrives, and the first delivery is still reported. -/
theorem recovered_reported :
    Reached summingHost tenant (logged [first, second]) ∧
    tenant.perform summingHost (logged [first, second]) timestamp
      (.replaySiemDeliveryLogEntry deliveredReplay) = .ok (logged [first, second, third]) ∧
    ∀ verifiedAt, ¬ Accounted summingHost tenant (logged [first, second, third]) verifiedAt := by
  refine ⟨reached_second, perform_deliveredReplay, fun verifiedAt h => ?_⟩
  obtain ⟨hordered, hinherited, -⟩ :=
    performed_sound_iff (reached_sound reached_second) perform_deliveredReplay
  have hmeets := hinherited.1 ((accounted_iff hordered).1 h)
  have hreplayed := hmeets rfl second (by simp [logged]) rfl first.deliveryId rfl
  have hfailed : second.status ≠ .delivered := by decide
  have hnone : first.replayOfDeliveryId = none := rfl
  simp [replayed, logged, hfailed, hnone] at hreplayed

theorem reached_accounted_second :
    Accounted summingHost tenant (logged [first, second]) later ∧
      ∀ op now store', tenant.perform summingHost (logged [first, second]) now op = .ok store' →
        (Accounted summingHost tenant store' later ↔ Meets (logged [first, second]) op) :=
  reached_accounted reached_second later

end AccessKit.Bugs.ReplayedReplays
