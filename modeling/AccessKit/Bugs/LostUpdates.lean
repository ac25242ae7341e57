import AccessKit.L6Queue.Fixtures
import AccessKit.L6Queue.SharedQueue

/-!
# Updates of a shared queue that are lost

Status: open. The calls that change a job or a record commit: they read the record that is
stored, compute the next one and store that if the record is still the same
(packages/core/src/reference-job-queue.ts:813-849). `flush` and `createBackup` read the record
as well, but then write theirs over whatever is there (:739-758, :920-940), and with it over
what others committed in between. A commit is as good as what it is given:
`enqueueProvisioningJob` looks the plan of its job up before it begins (:259-260) and stores
it again (:289-293), over a plan that was upserted since.

Counterexample: a flush that has read the empty store, a job that is enqueued, and the flush
that writes the empty store back (`flush_loses_job`).

Exact condition: when `flush` or `createBackup` writes, the record that is stored is still
the one it read, entry by entry; when a job is enqueued, the plan that was looked up for it
is still the one that is stored, and no job has its id (`updates_kept`).
-/
namespace AccessKit.Bugs.LostUpdates
open AccessKit.Core AccessKit.L1 AccessKit.L2.Audit.Fixtures AccessKit.L6 AccessKit.L6.Fixtures
  ReferenceJobQueueAdapter

/-! ## Counterexample -/

/-- An adapter in a process of its own. -/
def agent : Agent where
  localeCompare := plainAdapter.localeCompare
  tenantBoundary := "tenant:acme"
  location := "memory:queue"

def nothingStored : SharedStore where
  current := none
  backups := .empty

/-- A record of the empty store. -/
def emptyRecord : ReferenceJobQueueStoreRecord where
  toQueueContent := contentOf none
  storedAt := midnight

/-- The export of the fixtures, with one attempt. -/
def exportJob : ReferenceQueuedJob := evidenceJob 1 midnight

def enqueueExport : StoreCall :=
  .call (.enqueue (.enqueueJob { evidenceRequest with maxAttempts := some 1 }))

/-- What the call commits. -/
def exportCommit : Commit := .enqueue { request := exportJob.request } [] []

def exportEffect : Effect := exportCommit.effect plainAdapter (held none)

/-- A flush, and next to it the call that enqueues the export. -/
def slotsOf (flushing enqueuing : Progress) : List Slot :=
  [{ agent, call := .flush none, progress := flushing },
    { agent, call := enqueueExport, progress := enqueuing }]

theorem storable_nothing : Storable plainAdapter (contentOf none) where
  tenant := rfl
  jobs :=
    have hplain : Plain exportJob := ⟨noSecretKeys_empty, rfl, rfl⟩
    (storable_queueOf hplain midnight).jobs
  queue := by
    refine noSecretKeys_obj_of (by simp [plainKeys]) ?_
    simp only [List.forall_mem_cons, List.not_mem_nil, false_implies, implies_true, and_true]
    refine ⟨?_, ?_, ?_⟩ <;> exact .arr fun v hv => by cases hv

theorem flush_reads : startCall plainAdapter midnight nothingStored (.flush none) =
    .ok (.flushing (contentOf none) emptyRecord) :=
  startCall_flush rfl (createRecord_ok.2 ⟨storable_nothing, rfl⟩)

theorem enqueue_starts : startCall plainAdapter midnight nothingStored enqueueExport =
    .ok (.attempting exportCommit 0) := by
  have hchecked : plainAdapter.checked midnight (contentOf none)
      (.enqueueJob { evidenceRequest with maxAttempts := some 1 }) =
      .ok { request := exportJob.request } := checked_evidence 1 midnight
  simp only [startCall, enqueueExport, lookUp, bind, Except.bind, hchecked]
  rfl

theorem enqueue_attempts : attemptCommit plainAdapter exportCommit 0 nothingStored =
    .ok (.exchanging exportCommit 0 none (recordOf exportJob midnight)) := by
  have hattempt : plainAdapter.attempt midnight (exportCommit.mutate plainAdapter) none =
      .ok (recordOf exportJob midnight, ()) :=
    attempt_ok.2 ⟨rfl, storable_queueOf ⟨noSecretKeys_empty, rfl, rfl⟩ midnight, rfl⟩
  rw [attemptCommit_alone exportCommit 0 fun r hr => by cases hr]
  show Except.map _ (plainAdapter.attempt midnight (exportCommit.mutate plainAdapter) none) = _
  rw [hattempt]
  rfl

/-! ### The run -/

/-- The job is enqueued, and stored. -/
def enqueued : World where
  store :=
    { nothingStored with current := some (signed plainAdapter (recordOf exportJob midnight)) }
  log := [(1, .written exportEffect)]
  slots := slotsOf (.flushing (contentOf none) emptyRecord) (.returned (.ok exportEffect))

/-- The flush writes what it read. -/
def flushed : World where
  store := { nothingStored with current := some (signed plainAdapter emptyRecord) }
  log := [(0, .written .nothing), (1, .written exportEffect)]
  slots := slotsOf (.returned (.ok .nothing)) (.returned (.ok exportEffect))

/-- Both calls, on an empty store. -/
def calls : List (Agent × StoreCall) := [(agent, .flush none), (agent, enqueueExport)]

section
variable {meets : World → Slot → Prop} {store : SharedStore} {log : List (Nat × StoreEvent)}
  {p p' : Progress}

theorem step_flush {flushing : Progress} {store' : SharedStore} {event : Option StoreEvent}
    (h : ReachedBy exactHost meets nothingStored calls { store, log, slots := slotsOf p p' })
    (hmeets : meets { store, log, slots := slotsOf p p' }
      { agent, call := .flush none, progress := p })
    (hstep : advance plainAdapter midnight (.flush none) store p = (store', flushing, event)) :
    ReachedBy exactHost meets nothingStored calls
      { store := store'
        log := (event.map fun event => (0, event)).toList ++ log
        slots := slotsOf flushing p' } := by
  have hslots : slotsOf p p' = [] ++ { agent, call := .flush none, progress := p } ::
      [{ agent, call := enqueueExport, progress := p' }] := rfl
  have hnext := h.advanced midnight hslots hmeets
  unfold World.advance at hnext
  rw [show L6.advance (agent.adapter exactHost) midnight _ _ _ = _ from hstep] at hnext
  exact hnext

theorem step_enqueue {enqueuing : Progress} {store' : SharedStore} {event : Option StoreEvent}
    (h : ReachedBy exactHost meets nothingStored calls { store, log, slots := slotsOf p p' })
    (hmeets : meets { store, log, slots := slotsOf p p' }
      { agent, call := enqueueExport, progress := p' })
    (hstep : advance plainAdapter midnight enqueueExport store p' = (store', enqueuing, event)) :
    ReachedBy exactHost meets nothingStored calls
      { store := store'
        log := (event.map fun event => (1, event)).toList ++ log
        slots := slotsOf p enqueuing } := by
  have hslots : slotsOf p p' = [{ agent, call := .flush none, progress := p }] ++
      { agent, call := enqueueExport, progress := p' } :: [] := rfl
  have hnext := h.advanced midnight hslots hmeets
  unfold World.advance at hnext
  rw [show L6.advance (agent.adapter exactHost) midnight _ _ _ = _ from hstep] at hnext
  exact hnext

theorem reached_enqueued
    (h : ReachedBy exactHost meets nothingStored calls
      { store := nothingStored, log := [], slots := slotsOf p .idle })
    (hmeets : ∀ p' ∈ [.idle, .attempting exportCommit 0,
        .exchanging exportCommit 0 none (recordOf exportJob midnight)],
      meets { store := nothingStored, log := [], slots := slotsOf p p' }
        { agent, call := enqueueExport, progress := p' }) :
    ReachedBy exactHost meets nothingStored calls { enqueued with
      slots := slotsOf p (.returned (.ok exportEffect)) } := by
  have hstarted := step_enqueue h (hmeets _ (by simp)) (advance_idle enqueue_starts)
  have hattempted := step_enqueue hstarted (hmeets _ (by simp))
    (advance_attempting enqueue_attempts)
  exact step_enqueue hattempted (hmeets _ (by simp))
    (advance_exchanging exportCommit 0 (recordOf exportJob midnight) rfl)

end

theorem reached_idle {meets : World → Slot → Prop} :
    ReachedBy exactHost meets nothingStored calls
      { store := nothingStored, log := [], slots := slotsOf .idle .idle } :=
  .opened

/-- A run of both calls, whichever steps are allowed. -/
theorem reached_flushed : ReachedBy exactHost (fun _ _ => True) nothingStored calls flushed := by
  have hidle : ReachedBy exactHost (fun _ _ => True) nothingStored calls _ := reached_idle
  have hflushing := step_flush hidle trivial (advance_idle flush_reads)
  exact step_flush (reached_enqueued hflushing fun _ _ => trivial) trivial rfl

theorem export_written : exportEffect (.queuedJob exportJob.id) = some (.queuedJob exportJob) := by
  have hjob : exportEffect = Effect.over (newJob exportJob) (recordsOf []) := rfl
  simp [hjob, Effect.over, newJob, Effect.single, StoreEntry.key]

theorem json_calls : ∀ call ∈ calls, JsonCall call.2 := by
  intro call hcall
  rcases List.mem_cons.1 hcall with rfl | hcall
  · trivial
  · rw [List.mem_singleton.1 hcall]
    exact .obj List.nodup_nil fun p hp => by cases hp

/-- **Counterexample**: a flush that writes what it has read loses a job that was enqueued in
between. -/
theorem flush_loses_job :
    ¬ ∀ (H : Host) (store : SharedStore) (calls : List (Agent × StoreCall)) (w : World),
      PrintsNumbers H → Function.Injective H.sha256Hex → JsonContent (held store.current) →
      (∀ id backup, store.backups.get? id = some backup → JsonContent backup.toQueueContent) →
      (∀ call ∈ calls, JsonCall call.2) → ReachedBy H (fun _ _ => True) store calls w →
      NoLostUpdate w := by
  intro hclaim
  have hkept := hclaim exactHost nothingStored calls flushed printsNumbers_exact noCollision_exact
    json_empty (fun id backup hbackup => by cases hbackup) json_calls reached_flushed
  obtain ⟨later, earlier, hlog, hlost⟩ :=
    hkept 1 { agent, call := enqueueExport, progress := .returned (.ok exportEffect) } exportEffect
      rfl rfl (.queuedJob exportJob.id) (.queuedJob exportJob) export_written
  rcases hlost with ⟨event, hevent, hsupersedes⟩ | hstored
  · -- the flush is all that came later, and it has nothing under the key
    cases later with
    | nil => cases hlog
    | cons first later =>
      have hrest : [(1, StoreEvent.written exportEffect)] =
          later ++ (1, .written exportEffect) :: earlier := (List.cons.inj hlog).2
      have hfirst : (0, StoreEvent.written .nothing) = first := (List.cons.inj hlog).1
      have hlength := congrArg List.length hrest
      simp only [List.length_append, List.length_cons, List.length_nil] at hlength
      have hlater : later = [] := List.eq_nil_of_length_eq_zero (by omega)
      rw [hlater, List.mem_singleton] at hevent
      rw [hevent, ← hfirst] at hsupersedes
      exact hsupersedes rfl
  · cases hstored

/-! ## What is kept -/

/-- **Exact condition**: no update is lost in a run whose steps write over nothing that they
have not read. -/
theorem updates_kept {H : Host} (hprint : PrintsNumbers H)
    (hsha : Function.Injective H.sha256Hex) {store : SharedStore}
    (hcurrent : JsonContent (held store.current))
    (hbackups : ∀ id backup, store.backups.get? id = some backup →
      JsonContent backup.toQueueContent)
    {calls : List (Agent × StoreCall)} (hcalls : ∀ call ∈ calls, JsonCall call.2) {w : World}
    (h : ReachedBy H (WritesOverRead H) store calls w) : NoLostUpdate w :=
  (Inv.reached hprint hsha hcurrent hbackups hcalls h).noLostUpdate

/-- The flush writes what it reads once the job is enqueued. -/
def inTurn : World where
  store := enqueued.store
  log := [(0, .written .nothing), (1, .written exportEffect)]
  slots := slotsOf (.returned (.ok .nothing)) (.returned (.ok exportEffect))

theorem flush_reads_job : startCall plainAdapter midnight enqueued.store (.flush none) =
    .ok (.flushing (recordOf exportJob midnight).toQueueContent (recordOf exportJob midnight)) :=
  startCall_flush rfl (createRecord_ok.2
    ⟨storable_queueOf ⟨noSecretKeys_empty, rfl, rfl⟩ midnight, rfl⟩)

/-- The two calls one after the other lose nothing. -/
theorem updates_kept_flushed : NoLostUpdate inTurn := by
  have hmeets : ∀ p' ∈ [.idle, .attempting exportCommit 0,
      .exchanging exportCommit 0 none (recordOf exportJob midnight)],
      WritesOverRead exactHost { store := nothingStored, log := [], slots := slotsOf .idle p' }
        { agent, call := enqueueExport, progress := p' } := by
    simp only [List.forall_mem_cons, List.not_mem_nil, false_implies, implies_true, and_true]
    exact ⟨trivial, trivial, fun _ _ => ⟨rfl, fun r hr => by cases hr⟩⟩
  have henqueued : ReachedBy exactHost (WritesOverRead exactHost) nothingStored calls _ :=
    reached_enqueued reached_idle hmeets
  have hflushing := step_flush henqueued trivial (advance_idle flush_reads_job)
  have hreached : ReachedBy exactHost (WritesOverRead exactHost) nothingStored calls inTurn :=
    step_flush hflushing (fun _ => .refl _) rfl
  have hcurrent : JsonContent (held nothingStored.current) := json_empty
  exact updates_kept printsNumbers_exact noCollision_exact hcurrent
    (fun id backup hbackup => by cases hbackup) json_calls hreached

end AccessKit.Bugs.LostUpdates
