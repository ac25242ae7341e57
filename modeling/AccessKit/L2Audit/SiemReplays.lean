import Mathlib.Logic.Relation
import AccessKit.L2Audit.ReferenceRuns

/-!
# Failed SIEM deliveries and their replays

packages/core/src/reference-audit-integrity.ts:61-79 and 202-241: a failed delivery is a finding
of the integrity report until a replay of it is delivered. A replay that fails can itself be
replayed, so that the deliveries form trees.

Results:
* `direct_iff_inherited`: looking at the replays of a delivery alone finds every recovery just
  when a recovery of a replay comes with one of what it replays.
* `reported_iff`: which deliveries the integrity report names.
* `performed_log`: what an operation does to the log of deliveries.
* `OrderedLog.append`, `inherited_append_iff`: a new delivery.
-/
namespace AccessKit.L2.Audit
open AccessKit.Core AccessKit.L1

/-! ## Attempts -/

section
variable {α : Type} {R : α → α → Prop} {Done : α → Prop}

/-- **One step is enough** to see every attempt that was made up for, when what makes up for a
later attempt makes up for the earlier one directly too; and only then. -/
theorem direct_iff_inherited :
    (∀ a, (∃ b, Relation.TransGen R a b ∧ Done b) → ∃ b, R a b ∧ Done b) ↔
      ∀ a b, R a b → (∃ c, R b c ∧ Done c) → ∃ c, R a c ∧ Done c := by
  constructor
  · rintro h a b hab ⟨c, hbc, hc⟩
    exact h a ⟨c, .head hab (.single hbc), hc⟩
  · rintro h a ⟨b, hab, hb⟩
    induction hab using Relation.TransGen.head_induction_on with
    | single hab => exact ⟨b, hab, hb⟩
    | head hac _ ih => exact h _ _ hac ih

end

/-! ## The log -/

/-- `later` replays `delivery`, which stands before it in the log. -/
def ReplayOf (log : List ReferenceSiemDeliveryRecord)
    (delivery later : ReferenceSiemDeliveryRecord) : Prop :=
  [delivery, later].Sublist log ∧ later.replayOfDeliveryId = some delivery.deliveryId

/-- A later delivery in the chain of replays of a delivery was delivered. -/
def Recovered (log : List ReferenceSiemDeliveryRecord) (delivery : ReferenceSiemDeliveryRecord) :
    Prop :=
  ∃ later, Relation.TransGen (ReplayOf log) delivery later ∧ later.status = .delivered

/-- A replay of the identifier was delivered.
mirrors packages/core/src/reference-audit-integrity.ts:210 -/
def replayed (log : List ReferenceSiemDeliveryRecord) (deliveryId : CanonicalId) : Bool :=
  log.any fun entry => entry.replayOfDeliveryId = some deliveryId && entry.status = .delivered

/-- Every delivery has an identifier of its own, and a replay stands after the failed delivery
that it replays. -/
structure OrderedLog (log : List ReferenceSiemDeliveryRecord) : Prop where
  distinct : (log.map (·.deliveryId)).Nodup
  earlier : ∀ later ∈ log, ∀ id, later.replayOfDeliveryId = some id →
    ∃ delivery, delivery.deliveryId = id ∧ delivery.status = .failed ∧
      [delivery, later].Sublist log

/-- A replay that was made up for comes with what it replays made up for too. -/
def Inherited (log : List ReferenceSiemDeliveryRecord) : Prop :=
  ∀ delivery later, ReplayOf log delivery later → replayed log later.deliveryId = true →
    replayed log delivery.deliveryId = true

section
variable {log : List ReferenceSiemDeliveryRecord} {d e x : ReferenceSiemDeliveryRecord}

theorem replayed_eq_true {id : CanonicalId} : replayed log id = true ↔
    ∃ e ∈ log, e.replayOfDeliveryId = some id ∧ e.status = .delivered := by
  simp [replayed]

theorem OrderedLog.eq_of_id (h : OrderedLog log) (hd : d ∈ log) (he : e ∈ log)
    (hid : d.deliveryId = e.deliveryId) : d = e :=
  List.inj_on_of_nodup_map h.distinct hd he hid

/-- The replays the report looks for are the replays in the log. -/
theorem OrderedLog.replayed_iff (h : OrderedLog log) (hd : d ∈ log) :
    replayed log d.deliveryId = true ↔ ∃ later, ReplayOf log d later ∧ later.status = .delivered := by
  rw [replayed_eq_true]
  constructor
  · rintro ⟨later, hlater, hof, hstatus⟩
    obtain ⟨d', hid, -, hsub⟩ := h.earlier later hlater _ hof
    have hd' : d' = d := h.eq_of_id (hsub.subset List.mem_cons_self) hd hid
    exact ⟨later, ⟨hd' ▸ hsub, hof⟩, hstatus⟩
  · rintro ⟨later, ⟨hsub, hof⟩, hstatus⟩
    exact ⟨later, hsub.subset (by simp), hof, hstatus⟩

theorem transGen_mem {d e : ReferenceSiemDeliveryRecord}
    (h : Relation.TransGen (ReplayOf log) d e) : d ∈ log ∧ e ∈ log := by
  induction h with
  | single hde => exact ⟨hde.1.subset (by simp), hde.1.subset (by simp)⟩
  | tail _ hde ih => exact ⟨ih.1, hde.1.subset (by simp)⟩

/-- **In an ordered log** the replays of a delivery alone tell whether it was recovered exactly
when recoveries are inherited. -/
theorem OrderedLog.recovered_iff_inherited (h : OrderedLog log) :
    (∀ d ∈ log, Recovered log d ↔ replayed log d.deliveryId = true) ↔ Inherited log := by
  have hdirect : (∀ d ∈ log, Recovered log d ↔ replayed log d.deliveryId = true) ↔
      ∀ d, (∃ b, Relation.TransGen (ReplayOf log) d b ∧ b.status = .delivered) →
        ∃ b, ReplayOf log d b ∧ b.status = .delivered := by
    constructor
    · rintro hall d hrecovered
      have hd : d ∈ log := (transGen_mem hrecovered.choose_spec.1).1
      exact (h.replayed_iff hd).1 ((hall d hd).1 hrecovered)
    · intro hall d hd
      rw [h.replayed_iff hd]
      exact ⟨hall d, fun ⟨b, hb, hstatus⟩ => ⟨b, .single hb, hstatus⟩⟩
  rw [hdirect, direct_iff_inherited]
  refine forall_congr' fun d => forall_congr' fun e => forall_congr' fun hde => ?_
  rw [h.replayed_iff (hde.1.subset (by simp)), h.replayed_iff (hde.1.subset (by simp))]

/-! ## A new delivery -/

theorem pair_sublist_concat : [d, e].Sublist (log ++ [x]) ↔
    [d, e].Sublist log ∨ e = x ∧ d ∈ log := by
  constructor
  · intro h
    obtain ⟨l₁, l₂, he, h₁, h₂⟩ := List.sublist_append_iff.1 h
    cases l₂ with
    | nil =>
      rw [List.append_nil] at he
      exact .inl (he ▸ h₁)
    | cons b l₂ =>
      have hb : l₂ = [] ∧ b = x := by
        cases h₂ with
        | cons _ h => cases h
        | cons_cons _ h => exact ⟨List.sublist_nil.1 h, rfl⟩
      obtain ⟨rfl, rfl⟩ := hb
      have hsplit : [d] ++ [e] = l₁ ++ [b] := he
      obtain ⟨hd, he⟩ := List.append_inj' hsplit rfl
      rw [← hd] at h₁
      exact .inr ⟨(List.cons.inj he).1, List.singleton_sublist.1 h₁⟩
  · rintro (h | ⟨rfl, hd⟩)
    · exact h.trans (List.sublist_append_left log [x])
    · exact (List.singleton_sublist.2 hd).append (List.Sublist.refl [e])

theorem OrderedLog.append (h : OrderedLog log) (hfresh : ∀ d ∈ log, d.deliveryId ≠ x.deliveryId)
    (hof : ∀ id, x.replayOfDeliveryId = some id →
      ∃ d ∈ log, d.deliveryId = id ∧ d.status = .failed) :
    OrderedLog (log ++ [x]) where
  distinct := by
    rw [List.map_append, List.nodup_append]
    refine ⟨h.distinct, List.nodup_singleton _, fun a ha b hb => ?_⟩
    obtain ⟨d, hd, rfl⟩ := List.mem_map.1 ha
    rw [List.mem_singleton.1 hb]
    exact hfresh d hd
  earlier later hlater id hid := by
    rcases List.mem_append.1 hlater with hlater | hlater
    · obtain ⟨d, hd, hfailed, hsub⟩ := h.earlier later hlater id hid
      exact ⟨d, hd, hfailed, pair_sublist_concat.2 (.inl hsub)⟩
    · cases List.mem_singleton.1 hlater
      obtain ⟨d, hd, hdid, hfailed⟩ := hof id hid
      exact ⟨d, hdid, hfailed, pair_sublist_concat.2 (.inr ⟨rfl, hd⟩)⟩

theorem replayed_append {id : CanonicalId} : replayed (log ++ [x]) id = true ↔
    replayed log id = true ∨ x.replayOfDeliveryId = some id ∧ x.status = .delivered := by
  simp [replayed]

/-- **A new delivery** keeps recoveries inherited, unless it is the delivered replay of a replay
that makes up for nothing before. -/
theorem inherited_append_iff (h : OrderedLog log) (hinherited : Inherited log)
    (hfresh : ∀ d ∈ log, d.deliveryId ≠ x.deliveryId)
    (hof : ∀ id, x.replayOfDeliveryId = some id → ∃ d ∈ log, d.deliveryId = id) :
    Inherited (log ++ [x]) ↔ (x.status = .delivered → ∀ d ∈ log,
      x.replayOfDeliveryId = some d.deliveryId → ∀ id, d.replayOfDeliveryId = some id →
        replayed log id = true) := by
  -- nothing replays the new delivery
  have hnew : ¬ replayed (log ++ [x]) x.deliveryId = true := by
    intro hreplayed
    obtain ⟨e, he, heof, -⟩ := replayed_eq_true.1 hreplayed
    rcases List.mem_append.1 he with he | he
    · obtain ⟨d, hd, -, hsub⟩ := h.earlier e he _ heof
      exact hfresh d (hsub.subset (by simp)) hd
    · cases List.mem_singleton.1 he
      obtain ⟨d, hd, hid⟩ := hof _ heof
      exact hfresh d hd hid
  constructor
  · intro hafter hstatus d hd hxd id hid
    obtain ⟨p, rfl, -, hsub⟩ := h.earlier d hd id hid
    have hp := hafter p d ⟨pair_sublist_concat.2 (.inl hsub), hid⟩
      (replayed_append.2 (.inr ⟨hxd, hstatus⟩))
    rcases replayed_append.1 hp with hp | ⟨hxp, -⟩
    · exact hp
    · -- the new delivery replays one delivery only
      rw [hxd] at hxp
      have hpd : p = d := h.eq_of_id (hsub.subset (by simp)) hd (Option.some.inj hxp).symm
      subst hpd
      exact absurd (List.nodup_iff_sublist.1 (h.distinct.of_map _) p hsub) id
  · rintro hstep d e ⟨hsub, heof⟩ hreplayed
    rcases pair_sublist_concat.1 hsub with hsub | ⟨rfl, hd⟩
    · rcases replayed_append.1 hreplayed with hreplayed | ⟨hxe, hstatus⟩
      · exact replayed_append.2 (.inl (hinherited d e ⟨hsub, heof⟩ hreplayed))
      · exact replayed_append.2 (.inl (hstep hstatus e (hsub.subset (by simp)) hxe _ heof))
    · exact absurd hreplayed hnew

end

namespace ReferenceAuditEvidenceAdapter

section
variable (H : Host) (adapter : ReferenceAuditEvidenceAdapter)

/-! ## The report -/

/-- mirrors packages/core/src/reference-audit-integrity.ts:225-233 -/
def failedDeliveryFinding (delivery : ReferenceSiemDeliveryRecord) : AuditIntegrityFinding where
  code := "SIEM_DELIVERY_FAILED"
  message := "SIEM delivery failure is security-relevant until a replay delivery succeeds."
  severity := .high
  eventId := delivery.deliveryId
  actual := delivery.error.getD "delivery failed"

/-- `siemDeliveryFindings` with `includeOperationalFailures`.
mirrors packages/core/src/reference-audit-integrity.ts:202-241 -/
def siemFindingsWithFailures (deliveries : List ReferenceSiemDeliveryRecord)
    (windows : List ReferenceSignedAuditWindow) : List AuditIntegrityFinding :=
  deliveries.flatMap fun delivery =>
    deliveryWindowFindings H adapter windows delivery ++
    report (delivery.status = .failed ∧ replayed deliveries delivery.deliveryId = false)
      (failedDeliveryFinding delivery) ++
    deliveryEnvelopeFindings H delivery

/-- mirrors packages/core/src/reference-audit-integrity.ts:61-79 -/
def verifyIntegrity (store : ExternalAppendOnlyAuditStore) (verifiedAt : IsoDateTime) :
    AuditIntegrityReport :=
  let chain := verifyAuditChain H (store.auditRecords.map (·.event)) verifiedAt
  let findings := auditRecordFindings H adapter [] 0 store.auditRecords ++
    signedWindowFindings H adapter store.signedWindows store.auditRecords ++
    siemFindingsWithFailures H adapter store.siemDeliveries store.signedWindows ++ chain.findings
  { chain with
    status := if chain.status = .verified ∧ findings.length = 0 then .verified else .failed
    findings }

/-- The integrity report names the failure of a delivery. -/
def Reported (store : ExternalAppendOnlyAuditStore) (verifiedAt : IsoDateTime)
    (delivery : ReferenceSiemDeliveryRecord) : Prop :=
  failedDeliveryFinding delivery ∈ (verifyIntegrity H adapter store verifiedAt).findings

end

section
variable {H : Host} {adapter : ReferenceAuditEvidenceAdapter}

theorem mem_report {bad : Prop} [Decidable bad] {f g : AuditIntegrityFinding} :
    f ∈ report bad g ↔ bad ∧ f = g := by
  unfold report
  split <;> simp_all

/-! All other findings are critical. -/

def AllCritical (l : List AuditIntegrityFinding) : Prop := ∀ f ∈ l, f.severity = .critical

theorem allCritical_append {l l' : List AuditIntegrityFinding} :
    AllCritical (l ++ l') ↔ AllCritical l ∧ AllCritical l' :=
  List.forall_mem_append

theorem allCritical_report {bad : Prop} [Decidable bad] {f : AuditIntegrityFinding}
    (h : f.severity = .critical) : AllCritical (report bad f) := fun g hg => by
  rw [(mem_report.1 hg).2, h]

theorem allCritical_secret (v : JsValue) (path : String) :
    AllCritical (secretMaterialFindings H v path) := by
  induction v using JsValue.induction generalizing path with
  | str s =>
    unfold secretMaterialFindings
    split
    · simp [AllCritical, stringFinding]
    · simp [AllCritical]
  | arr items ih =>
    rw [secretMaterialFindings]
    generalize 0 = index
    induction items generalizing index with
    | nil => simp [AllCritical, itemFindings]
    | cons v items ihl =>
      obtain ⟨hv, hrest⟩ := List.forall_mem_cons.1 ih
      rw [itemFindings, allCritical_append]
      exact ⟨hv _, ihl hrest _⟩
  | obj fields ih =>
    rw [secretMaterialFindings]
    induction fields with
    | nil => simp [AllCritical, fieldFindings]
    | cons p fields ihl =>
      obtain ⟨hp, hrest⟩ := List.forall_mem_cons.1 ih
      rw [fieldFindings, allCritical_append, allCritical_append]
      refine ⟨⟨?_, hp _⟩, ihl hrest⟩
      split
      · simp [AllCritical, keyFinding]
      · simp [AllCritical]
  | _ => simp [AllCritical, secretMaterialFindings]

theorem allCritical_records (seen : List CanonicalId) (index : Nat)
    (records : List ReferenceAuditEventStoreRecord) :
    AllCritical (auditRecordFindings H adapter seen index records) := by
  induction records generalizing seen index with
  | nil => simp [AllCritical, auditRecordFindings]
  | cons r records ih =>
    rw [auditRecordFindings, allCritical_append]
    refine ⟨?_, ih _ _⟩
    unfold recordFindings
    simp only [allCritical_append]
    refine ⟨⟨⟨⟨⟨⟨⟨?_, ?_⟩, ?_⟩, ?_⟩, ?_⟩, ?_⟩, ?_⟩, allCritical_secret _ _⟩ <;>
      exact allCritical_report rfl

theorem allCritical_window (records : List ReferenceAuditEventStoreRecord)
    (w : ReferenceSignedAuditWindow) : AllCritical (windowFindings H adapter records w) := by
  unfold windowFindings
  simp only [allCritical_append]
  refine ⟨⟨⟨⟨⟨⟨⟨⟨?_, ?_⟩, ?_⟩, ?_⟩, ?_⟩, ?_⟩, ?_⟩, ?_⟩, ?_⟩ <;> exact allCritical_report rfl

theorem allCritical_windows (windows : List ReferenceSignedAuditWindow)
    (records : List ReferenceAuditEventStoreRecord) :
    AllCritical (signedWindowFindings H adapter windows records) := by
  intro f hf
  obtain ⟨w, -, hf⟩ := List.mem_flatMap.1 hf
  exact allCritical_window records w f hf

theorem allCritical_chain (previousEvent : Option AuditEvent) (events : List AuditEvent) :
    AllCritical (chainFindings H previousEvent events) := by
  induction events generalizing previousEvent with
  | nil => simp [AllCritical, chainFindings]
  | cons e events ih =>
    rw [chainFindings, allCritical_append]
    refine ⟨?_, ih _⟩
    unfold eventFindings
    simp only [allCritical_append]
    constructor <;> split <;> simp [AllCritical]

theorem allCritical_envelope (d : ReferenceSiemDeliveryRecord) :
    AllCritical (deliveryEnvelopeFindings H d) := by
  unfold deliveryEnvelopeFindings
  exact allCritical_append.2 ⟨allCritical_report rfl, allCritical_secret _ _⟩

theorem allCritical_deliveryWindow (windows : List ReferenceSignedAuditWindow)
    (d : ReferenceSiemDeliveryRecord) :
    AllCritical (deliveryWindowFindings H adapter windows d) := by
  unfold deliveryWindowFindings
  refine allCritical_append.2 ⟨allCritical_report rfl, ?_⟩
  split
  · simp [AllCritical, finding]
  · exact allCritical_append.2 ⟨allCritical_report rfl, allCritical_report rfl⟩

theorem failedDeliveryFinding_not_mem {l : List AuditIntegrityFinding} (h : AllCritical l)
    (d : ReferenceSiemDeliveryRecord) : failedDeliveryFinding d ∉ l := fun hd => by
  cases h _ hd

/-- **The report names** the failed deliveries of which no replay was delivered. -/
theorem reported_iff {store : ExternalAppendOnlyAuditStore} {verifiedAt : IsoDateTime}
    (h : OrderedLog store.siemDeliveries) {d : ReferenceSiemDeliveryRecord}
    (hd : d ∈ store.siemDeliveries) (hfailed : d.status = .failed) :
    Reported H adapter store verifiedAt d ↔ replayed store.siemDeliveries d.deliveryId = false := by
  have hrecords : failedDeliveryFinding d ∉
      auditRecordFindings H adapter [] 0 store.auditRecords :=
    failedDeliveryFinding_not_mem (allCritical_records _ _ _) d
  have hwindows : failedDeliveryFinding d ∉
      signedWindowFindings H adapter store.signedWindows store.auditRecords :=
    failedDeliveryFinding_not_mem (allCritical_windows _ _) d
  have hchain : failedDeliveryFinding d ∉
      chainFindings H none (store.auditRecords.map (·.event)) :=
    failedDeliveryFinding_not_mem (allCritical_chain _ _) d
  simp only [Reported, verifyIntegrity, List.mem_append, hrecords, hwindows, false_or]
  have hverify : failedDeliveryFinding d ∉
      (verifyAuditChain H (store.auditRecords.map (·.event)) verifiedAt).findings := hchain
  simp only [hverify, or_false, siemFindingsWithFailures, List.mem_flatMap, List.mem_append,
    mem_report]
  constructor
  · rintro ⟨e, he, (hmem | ⟨⟨-, hnot⟩, hsame⟩) | hmem⟩
    · exact absurd hmem (failedDeliveryFinding_not_mem (allCritical_deliveryWindow _ e) d)
    · have hid : d.deliveryId = e.deliveryId :=
        Option.some.inj (congrArg AuditIntegrityFinding.eventId hsame)
      rw [h.eq_of_id hd he hid, hnot]
    · exact absurd hmem
        (failedDeliveryFinding_not_mem (allCritical_envelope e) d)
  · intro hnot
    exact ⟨d, hd, .inl (.inr ⟨⟨hfailed, hnot⟩, rfl⟩)⟩

/-! ## What an operation does to the log -/

/-- What an operation leaves of the log of deliveries and of the backups of it. -/
inductive LogStep (store store' : ExternalAppendOnlyAuditStore) : AuditOperation → Prop
  | appended {event : AuditEvent} {storedAt : IsoDateTime}
      (hlog : store'.siemDeliveries = store.siemDeliveries)
      (hbackups : store'.backups = store.backups) :
      LogStep store store' (.appendAuditEvent event storedAt)
  | signed {request : ReferenceAuditWindowRequest}
      (hlog : store'.siemDeliveries = store.siemDeliveries)
      (hbackups : store'.backups = store.backups) :
      LogStep store store' (.signAuditWindow request)
  | delivered {request : ReferenceSiemDeliveryRequest} (x : ReferenceSiemDeliveryRecord)
      (hfresh : ∀ d ∈ store.siemDeliveries, d.deliveryId ≠ x.deliveryId)
      (hof : x.replayOfDeliveryId = none)
      (hlog : store'.siemDeliveries = store.siemDeliveries ++ [x])
      (hbackups : store'.backups = store.backups) :
      LogStep store store' (.recordSiemDeliveryLogEntry request)
  | replayed {request : ReferenceSiemReplayRequest} (x : ReferenceSiemDeliveryRecord)
      (hfresh : ∀ d ∈ store.siemDeliveries, d.deliveryId ≠ x.deliveryId)
      (hfound : ∃ d ∈ store.siemDeliveries, d.deliveryId = request.deliveryId ∧ d.status = .failed)
      (hof : x.replayOfDeliveryId = some request.deliveryId)
      (hstatus : x.status = request.status.getD .delivered)
      (hlog : store'.siemDeliveries = store.siemDeliveries ++ [x])
      (hbackups : store'.backups = store.backups) :
      LogStep store store' (.replaySiemDeliveryLogEntry request)
  | saved {id : CanonicalId} {createdAt : IsoDateTime} (backup : ReferenceAuditStoreBackup)
      (hsaved : backup.siemDeliveries = store.siemDeliveries)
      (hlog : store'.siemDeliveries = store.siemDeliveries)
      (hbackups : store'.backups = store.backups.set id backup) :
      LogStep store store' (.createBackup id createdAt)
  | restored {id : CanonicalId} (backup : ReferenceAuditStoreBackup)
      (hfound : store.backups.get? id = some backup)
      (hlog : store'.siemDeliveries = backup.siemDeliveries)
      (hbackups : store'.backups = store.backups) : LogStep store store' (.restoreBackup id)

theorem performed_log {store store' : ExternalAppendOnlyAuditStore} {op : AuditOperation}
    {now : IsoDateTime} (h : adapter.perform H store now op = .ok store') :
    LogStep store store' op := by
  cases op with
  | appendAuditEvent event storedAt =>
    obtain ⟨-, -, -, -, rfl⟩ := appendAuditEvent_ok.1 (snd_ok.1 h)
    exact .appended rfl rfl
  | signAuditWindow request =>
    obtain ⟨-, -, -, rfl⟩ := signAuditWindow_ok.1 (snd_ok.1 h)
    exact .signed rfl rfl
  | recordSiemDeliveryLogEntry request =>
    obtain ⟨-, window, -, -, -, hfresh, rfl⟩ := recordSiemDeliveryLogEntry_ok.1 (snd_ok.1 h)
    exact .delivered _ hfresh rfl rfl rfl
  | replaySiemDeliveryLogEntry request =>
    obtain ⟨d, hd, hfailed, -, -, hfresh, rfl⟩ := replaySiemDeliveryLogEntry_ok.1 (snd_ok.1 h)
    have hid : d.deliveryId = request.deliveryId := by simpa using List.find?_some hd
    exact .replayed _ hfresh ⟨d, List.mem_of_find?_eq_some hd, hid, hfailed⟩ (congrArg some hid) rfl
      rfl rfl
  | createBackup id createdAt =>
    obtain ⟨metadata, hb⟩ := snd_ok.1 h
    obtain ⟨-, -, rfl⟩ := createBackup_ok.1 hb
    exact .saved _ rfl rfl rfl
  | restoreBackup id =>
    obtain ⟨backup, hb, -, rfl⟩ := restoreBackup_ok.1 h
    exact .restored backup hb rfl rfl

end

end ReferenceAuditEvidenceAdapter

end AccessKit.L2.Audit
