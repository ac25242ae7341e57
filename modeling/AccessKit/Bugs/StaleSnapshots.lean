import AccessKit.L2Graph.Fixtures
import AccessKit.L5Runtime.AwsConnector
import AccessKit.L5Runtime.EntraConnector

/-!
# A sync presents a snapshot of before

Status: open.

Both connectors keep the snapshot that they have read. The AWS connector never drops it
(packages/connectors-aws/src/index.ts:326-329): after the first call that gets a snapshot,
every sync presents it again. The Microsoft Graph connector drops it when the subjects are
discovered from it a second time (packages/connectors-microsoft-graph/src/connector.ts:159-169),
so that its syncs in a row are fresh, as tests/connectors/microsoft-graph-runtime-sync.test.ts
has it of every runtime sync; but a snapshot that another call has read, a detection of drift
or a readback of native access, is left for the next sync, whenever that is.

Counterexample (`old_snapshots`): a second sync of AWS; a sync of Microsoft Graph after a
detection of drift.

Exact condition (`syncs_fresh`): before the sync every call on the AWS connector threw; since
the last discovery of subjects no other call on the Microsoft Graph connector has got a
snapshot that was not there.
-/
namespace AccessKit.Bugs.StaleSnapshots
open AccessKit.Core AccessKit.L1 AccessKit.L2.Fixtures AccessKit.L5
open AccessKit.L5.Aws (AwsReadOperation AwsCollections AwsReadOnlyAccessAnalysisConnector)
open AccessKit.L5.Entra (EntraRead EntraCollections MicrosoftGraphEntraReadOnlyConnector)

/-! ## Calls -/

/-- A call on a connector. A sync discovers the subjects first.
mirrors packages/api/src/runtime-discovery.ts:35-47 -/
inductive ConnectorCall
  | discoverSubjects
  | discoverResources
  | discoverRelationships
  | readCurrentAccess (resourceId : CanonicalId)
  | detectDrift
  | sync

def ConnectorCall.readsSubjects : ConnectorCall → Bool
  | .discoverSubjects | .sync => true
  | _ => false

/-- A call that was made. -/
structure Made where
  call : ConnectorCall
  threw : Bool

def threw {α : Type} : Except String α → Bool
  | .error _ => true
  | .ok _ => false

/-! ## The AWS connector -/

section
variable (options : Aws.Options) (inventory : AwsCollections → Inventory)

/-- A connector after the calls, from a new one on. Every call gets the snapshot.
mirrors packages/connectors-aws/src/index.ts:158-172, 318-320 -/
inductive AwsRun : List Made → AwsReadOnlyAccessAnalysisConnector → Prop
  | start : AwsRun [] {}
  | call {made : List Made} {connector : AwsReadOnlyAccessAnalysisConnector}
      (h : AwsRun made connector) (call : ConnectorCall) :
      AwsRun (made ++ [⟨call, threw (connector.loadSnapshot options inventory).2⟩])
        (connector.loadSnapshot options inventory).1

/-- The outcome of a sync is what the provider answers from its start on. -/
def AwsFresh (connector : AwsReadOnlyAccessAnalysisConnector) : Prop :=
  (connector.discovery options inventory).2 =
    match (Aws.answers options).run Aws.readCollections
      { source := connector.calls, complete := true } with
    | (_, .error message) => failedDiscovery message
    | (progress, .ok collections) => (inventory collections).discovery progress.complete

/-- The outcome of a sync is a snapshot from before, and it sends no request. -/
def AwsKept (connector : AwsReadOnlyAccessAnalysisConnector) : Prop :=
  ∃ snapshot, connector.snapshot = some snapshot ∧
    connector.discovery options inventory =
      (connector, snapshot.1.discovery connector.nativeAccessReadbackComplete)

variable {options inventory} {made : List Made} {connector : AwsReadOnlyAccessAnalysisConnector}

theorem aws_sync_steps : (connector.discovery options inventory).1 =
    (connector.loadSnapshot options inventory).1 := by
  unfold AwsReadOnlyAccessAnalysisConnector.discovery
  rcases connector.loadSnapshot options inventory with ⟨connector', message | snapshot⟩
  · rfl
  · rfl

/-- What a call does to the snapshot: it is kept, or else it is there unless the call threw. -/
theorem aws_snapshot_call :
    (connector.loadSnapshot options inventory).1.snapshot = none ↔
      connector.snapshot = none ∧ threw (connector.loadSnapshot options inventory).2 = true := by
  unfold AwsReadOnlyAccessAnalysisConnector.loadSnapshot
  cases hsnapshot : connector.snapshot with
  | some snapshot => simp [hsnapshot]
  | none =>
    dsimp only
    rcases (Aws.answers options).run Aws.readCollections
      { source := connector.calls, complete := true } with ⟨progress, message | collections⟩
    · simp [threw]
    · simp [threw]

theorem AwsRun.snapshot (h : AwsRun options inventory made connector) :
    connector.snapshot = none ↔ ∀ m ∈ made, m.threw = true := by
  induction h with
  | start => simp
  | call h call ih => rw [aws_snapshot_call, ih]; simp [or_imp, forall_and]

theorem aws_sync (h : AwsRun options inventory made connector) :
    ((∀ m ∈ made, m.threw = true) → AwsFresh options inventory connector) ∧
      (¬ (∀ m ∈ made, m.threw = true) → AwsKept options inventory connector) := by
  rw [← h.snapshot]
  constructor
  · intro hnone
    unfold AwsFresh AwsReadOnlyAccessAnalysisConnector.discovery
      AwsReadOnlyAccessAnalysisConnector.loadSnapshot
    rw [hnone]
    dsimp only
    rcases (Aws.answers options).run Aws.readCollections
      { source := connector.calls, complete := true } with ⟨progress, message | collections⟩
    · rfl
    · rfl
  · intro hsome
    obtain ⟨snapshot, hsnapshot⟩ := Option.ne_none_iff_exists'.1 hsome
    refine ⟨snapshot, hsnapshot, ?_⟩
    unfold AwsReadOnlyAccessAnalysisConnector.discovery
      AwsReadOnlyAccessAnalysisConnector.loadSnapshot
    rw [hsnapshot]

end

/-! ## The Microsoft Graph connector -/

/-- Whether a connector holds a snapshot, and whether subjects were discovered from it. -/
inductive Held
  | nothing
  | unclaimed
  | claimed

namespace Held

/-- What is held after a call, by the call and by whether it threw. -/
def after (held : Held) (made : Made) : Held :=
  match made.call.readsSubjects, made.threw, held with
  | true, true, _ => .nothing
  | true, false, _ => .claimed
  | false, false, .nothing => .unclaimed
  | false, _, held => held

/-- What is held after the calls on a new connector. -/
def ofCalls (made : List Made) : Held := made.foldl after .nothing

end Held

section
variable (H : Host) (options : Entra.Options) (inventory : EntraCollections → Inventory)

/-- mirrors packages/connectors-microsoft-graph/src/connector.ts:159-181, 318-320 -/
def entraCall (connector : MicrosoftGraphEntraReadOnlyConnector) (call : ConnectorCall) :
    MicrosoftGraphEntraReadOnlyConnector ×
      Except String (Inventory × List (Read EntraRead JsonRecord)) :=
  if call.readsSubjects then connector.discoverSubjects H options inventory
  else connector.loadSnapshot H options inventory

/-- A connector after the calls, from a new one on. -/
inductive EntraRun : List Made → MicrosoftGraphEntraReadOnlyConnector → Prop
  | start : EntraRun [] {}
  | call {made : List Made} {connector : MicrosoftGraphEntraReadOnlyConnector}
      (h : EntraRun made connector) (call : ConnectorCall) :
      EntraRun (made ++ [⟨call, threw (entraCall H options inventory connector call).2⟩])
        (entraCall H options inventory connector call).1

/-- The outcome of a sync is what the provider answers from its start on, and what became of
the records that the reader holds. -/
def EntraFresh (connector : MicrosoftGraphEntraReadOnlyConnector) : Prop :=
  (connector.discovery H options inventory).2 =
    match (Entra.answers options).run (Entra.readCollections H options.maxDriveItemDepth)
      { source := connector.collectionReader, complete := true } with
    | (_, .error message) => failedDiscovery message
    | (progress, .ok collections) => (inventory collections).discovery progress.complete

/-- The outcome of a sync is a snapshot from before, and it sends no request. -/
def EntraKept (connector : MicrosoftGraphEntraReadOnlyConnector) : Prop :=
  ∃ snapshot, connector.snapshot = some snapshot ∧
    connector.discovery H options inventory =
      ({ connector with subjectsReadFromCurrentSnapshot := true },
        snapshot.1.discovery connector.nativeAccessReadbackComplete)

def heldBy (connector : MicrosoftGraphEntraReadOnlyConnector) : Held :=
  match connector.snapshot, connector.subjectsReadFromCurrentSnapshot with
  | none, _ => .nothing
  | some _, false => .unclaimed
  | some _, true => .claimed

variable {H options inventory} {made : List Made}
  {connector : MicrosoftGraphEntraReadOnlyConnector}

theorem entra_sync_steps : (connector.discovery H options inventory).1 =
    (entraCall H options inventory connector .sync).1 := by
  show (connector.discovery H options inventory).1 =
    (connector.discoverSubjects H options inventory).1
  unfold MicrosoftGraphEntraReadOnlyConnector.discovery
  rcases connector.discoverSubjects H options inventory with ⟨connector', message | snapshot⟩
  · rfl
  · rfl

theorem heldBy_load (hnone : connector.snapshot = none) :
    heldBy (connector.loadSnapshot H options inventory).1 =
      if threw (connector.loadSnapshot H options inventory).2 then .nothing else .unclaimed := by
  unfold MicrosoftGraphEntraReadOnlyConnector.loadSnapshot
  rw [hnone]
  dsimp only
  generalize (Entra.answers options).run _ _ = result
  obtain ⟨progress, message | collections⟩ := result
  · simp [threw, heldBy]
  · simp [threw, heldBy]

theorem heldBy_subjects :
    heldBy (connector.discoverSubjects H options inventory).1 =
      if threw (connector.discoverSubjects H options inventory).2 then .nothing else .claimed := by
  by_cases hload : connector.snapshot = none ∨ connector.subjectsReadFromCurrentSnapshot = true
  · rw [connector.discoverSubjects_load H options inventory hload]
    unfold MicrosoftGraphEntraReadOnlyConnector.loadSnapshot
      MicrosoftGraphEntraReadOnlyConnector.resetSnapshotState
    dsimp only
    generalize (Entra.answers options).run _ _ = result
    obtain ⟨progress, message | collections⟩ := result
    · rfl
    · rfl
  · obtain ⟨hsome, hunread⟩ := not_or.1 hload
    obtain ⟨snapshot, hsnapshot⟩ := Option.ne_none_iff_exists'.1 hsome
    rw [Bool.not_eq_true] at hunread
    unfold MicrosoftGraphEntraReadOnlyConnector.discoverSubjects
    rw [hsnapshot, hunread]
    simp [threw, heldBy]

/-- **What a call does to the snapshot.** -/
theorem heldBy_call (call : ConnectorCall) :
    heldBy (entraCall H options inventory connector call).1 =
      (heldBy connector).after ⟨call, threw (entraCall H options inventory connector call).2⟩ := by
  unfold entraCall Held.after
  cases hcall : call.readsSubjects with
  | true =>
    rw [if_pos rfl, heldBy_subjects]
    cases threw (connector.discoverSubjects H options inventory).2 <;> rfl
  | false =>
    rw [if_neg Bool.false_ne_true]
    cases hsnapshot : connector.snapshot with
    | none =>
      have hheld : heldBy connector = .nothing := by rw [heldBy, hsnapshot]
      rw [heldBy_load hsnapshot, hheld]
      cases threw (connector.loadSnapshot H options inventory).2 <;> rfl
    | some snapshot =>
      have hkept : connector.loadSnapshot H options inventory = (connector, .ok snapshot) := by
        unfold MicrosoftGraphEntraReadOnlyConnector.loadSnapshot
        rw [hsnapshot]
      rw [hkept, heldBy, hsnapshot]
      cases connector.subjectsReadFromCurrentSnapshot <;> rfl

theorem EntraRun.held (h : EntraRun H options inventory made connector) :
    heldBy connector = .ofCalls made := by
  induction h with
  | start => rfl
  | call h call ih =>
    rw [heldBy_call, ih, Held.ofCalls, Held.ofCalls, List.foldl_append]
    rfl

theorem entra_sync (h : EntraRun H options inventory made connector) :
    (Held.ofCalls made ≠ .unclaimed → EntraFresh H options inventory connector) ∧
      (Held.ofCalls made = .unclaimed → EntraKept H options inventory connector) := by
  rw [← h.held, heldBy]
  cases hsnapshot : connector.snapshot with
  | none => exact ⟨fun _ => connector.discovery_load H options inventory (.inl hsnapshot),
      fun hheld => (by cases hheld)⟩
  | some snapshot =>
    cases hread : connector.subjectsReadFromCurrentSnapshot with
    | true => exact ⟨fun _ => connector.discovery_load H options inventory (.inr hread),
        fun hheld => (by cases hheld)⟩
    | false =>
      refine ⟨fun hheld => absurd rfl hheld, fun _ => ⟨snapshot, hsnapshot, ?_⟩⟩
      unfold MicrosoftGraphEntraReadOnlyConnector.discovery
        MicrosoftGraphEntraReadOnlyConnector.discoverSubjects
      rw [hsnapshot, hread]

end

/-! ## Counterexample -/

/-- An organization that only the first call finds. -/
def firstOrganization : Aws.Options where
  client call operation _ :=
    .ok { value := if operation = .describeOrganization ∧ call = 0 then
      [[("id", .str "o-1")]] else [] }

/-- A user whom only the first call finds. -/
def firstUser : Entra.Options where
  list call _ := .ok { value := if call = 0 then [[("id", .str "user-1")]] else [] }
  get _ _ := .ok {}

/-- One resource for each record. -/
def countOrganization (collections : AwsCollections) : Inventory where
  subjects := []
  resources := collections.organization.map fun _ =>
    fixtureResource "organization:1" .organization "Organization" none
  relationships := []
  grantsByResource _ := []

def countUsers (collections : EntraCollections) : Inventory where
  subjects := []
  resources := collections.users.map fun _ =>
    fixtureResource "organization:1" .organization "Organization" none
  relationships := []
  grantsByResource _ := []

/-- **Counterexample.** What is gone from the provider is in the next sync. -/
theorem old_snapshots :
    ¬ (∀ options inventory made connector, AwsRun options inventory made connector →
        AwsFresh options inventory connector) ∧
      ¬ ∀ options inventory made connector, EntraRun plainHost options inventory made connector →
        EntraFresh plainHost options inventory connector := by
  constructor
  · intro h
    have hfresh := h firstOrganization countOrganization _ _ (.call .start .sync)
    have hcount := congrArg (fun discovery : Discovery =>
      (discovery.resources.map List.length).toOption) hfresh
    revert hcount
    decide +kernel
  · intro h
    have hfresh := h firstUser countUsers _ _ (.call .start .detectDrift)
    have hcount := congrArg (fun discovery : Discovery =>
      (discovery.resources.map List.length).toOption) hfresh
    revert hcount
    decide +kernel

/-- **Exact condition.** After any calls, in any order and whatever the provider answers, a sync
is fresh unless a snapshot is kept for it, and then it presents that one. -/
theorem syncs_fresh (H : Host) (awsOptions : Aws.Options) (entraOptions : Entra.Options)
    (awsInventory : AwsCollections → Inventory) (entraInventory : EntraCollections → Inventory) :
    (∀ made connector, AwsRun awsOptions awsInventory made connector →
      ((∀ m ∈ made, m.threw = true) → AwsFresh awsOptions awsInventory connector) ∧
        (¬ (∀ m ∈ made, m.threw = true) → AwsKept awsOptions awsInventory connector)) ∧
    ∀ made connector, EntraRun H entraOptions entraInventory made connector →
      (Held.ofCalls made ≠ .unclaimed → EntraFresh H entraOptions entraInventory connector) ∧
        (Held.ofCalls made = .unclaimed → EntraKept H entraOptions entraInventory connector) :=
  ⟨fun _ _ h => aws_sync h, fun _ _ h => entra_sync h⟩

/-- A client whose first call fails. -/
def failsOnce : Aws.Options where
  client call operation _ :=
    if call = 0 then .error "connection reset"
    else .ok { value := if operation = .describeOrganization then [[("id", .str "o-1")]] else [] }

/-- A sync of AWS after one that failed, and a sync of Microsoft Graph after a detection of drift
and a discovery of subjects. -/
theorem fresh_again : ∃ made connector made' connector',
    AwsRun failsOnce countOrganization made connector ∧ made ≠ [] ∧
    AwsFresh failsOnce countOrganization connector ∧
    EntraRun plainHost firstUser countUsers made' connector' ∧
    made'.map (·.call) = [.detectDrift, .discoverSubjects] ∧
    EntraFresh plainHost firstUser countUsers connector' := by
  obtain ⟨haws, hentra⟩ := syncs_fresh plainHost failsOnce firstUser countOrganization countUsers
  have hrun : AwsRun failsOnce countOrganization _ _ := .call .start .sync
  have hrun' : EntraRun plainHost firstUser countUsers _ _ :=
    .call (.call .start .detectDrift) .discoverSubjects
  have hfailed : threw (({} : AwsReadOnlyAccessAnalysisConnector).loadSnapshot failsOnce
    countOrganization).2 = true := rfl
  have hclaimed : ∀ first second, Held.ofCalls
      ([] ++ [⟨.detectDrift, first⟩] ++ [⟨.discoverSubjects, second⟩]) ≠ .unclaimed := by
    intro first second
    cases first <;> cases second <;> rintro ⟨⟩
  exact ⟨_, _, _, _, hrun, List.cons_ne_nil _ _,
    (haws _ _ hrun).1 (List.forall_mem_singleton.2 hfailed), hrun', rfl,
    (hentra _ _ hrun').1 (hclaimed _ _)⟩

end AccessKit.Bugs.StaleSnapshots
