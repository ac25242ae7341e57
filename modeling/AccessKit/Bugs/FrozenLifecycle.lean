import AccessKit.L2Audit.Fixtures
import AccessKit.L8Drift.Findings

/-!
# Lifecycle states that do not expire

Status: open. An enrichment writes the lifecycle state that it resolved into the finding,
and a finding that has one keeps it (packages/core/src/drift-lifecycle.ts:99-101). A finding
under an exception is stored as `accepted`, and later enrichments read that back before they
look at `exceptionExpiresAt`, although docs/drift-detection-model.md:25 has it re-opened when
the exception expires, and the enrichment reports a finding without a state as expired
(tests/core/drift-lifecycle.test.ts:16-23).

Counterexample: a finding enriched on the day before its exception expires and on the day
after (`accepted_after_expiry`).

Exact condition: the finding came as `expired_exception`, or it came without a state and its
first enrichment is not before the expiry, or no enrichment reaches the expiry
(`surfaces_iff`).
-/
namespace AccessKit.Bugs.FrozenLifecycle
open AccessKit.L1 AccessKit.L2.Audit.Fixtures AccessKit.L8

section
variable (H : Host)

/-- Enrichments of a finding, each of what the one before it stored. -/
def enrichments (finding : DriftFinding) :
    List DriftLifecycleDefaultsOptions → Except String (List DriftFinding)
  | [] => .ok []
  | options :: rest => do
    let enriched ← enrichDriftFindingLifecycle H finding options
    let later ← enrichments enriched rest
    return enriched :: later

/-- The enrichment is at or after the end of the exception. -/
def Reached (finding : DriftFinding) (exceptionExpiresAt : IsoDateTime)
    (options : DriftLifecycleDefaultsOptions) : Prop :=
  leMs (dateParse H exceptionExpiresAt) (dateParse H (options.now.getD finding.detectedAt)) = true

instance (finding : DriftFinding) (exceptionExpiresAt : IsoDateTime)
    (options : DriftLifecycleDefaultsOptions) :
    Decidable (Reached H finding exceptionExpiresAt options) :=
  inferInstanceAs (Decidable (_ = true))

/-- Enrichments at or after the end of the exception report it. -/
def Surfaces (finding : DriftFinding) (exceptionExpiresAt : IsoDateTime)
    (enriched : List (DriftLifecycleDefaultsOptions × DriftFinding)) : Prop :=
  ∀ p ∈ enriched, Reached H finding exceptionExpiresAt p.1 →
    p.2.lifecycleState = some .expiredException

/-- Nothing else was stored before the end of the exception. -/
def Unfrozen (finding : DriftFinding) (exceptionExpiresAt : IsoDateTime)
    (all : List DriftLifecycleDefaultsOptions) : Prop :=
  finding.lifecycleState = some .expiredException ∨
  finding.lifecycleState = none ∧
    (∀ first ∈ all.head?, Reached H finding exceptionExpiresAt first) ∨
  ∀ options ∈ all, ¬ Reached H finding exceptionExpiresAt options

end

section
variable {H : Host} {finding enriched : DriftFinding} {e : IsoDateTime}
  {options : DriftLifecycleDefaultsOptions} {all : List DriftLifecycleDefaultsOptions}
  {outs : List DriftFinding}

theorem lifecycleState_of_some {state : DriftLifecycleState}
    (hstate : finding.lifecycleState = some state)
    (hrun : enrichments H finding all = .ok outs) :
    ∀ out ∈ outs, out.lifecycleState = some state := by
  induction all generalizing finding outs with
  | nil =>
    obtain rfl := Except.ok.inj hrun
    exact fun _ hout => by cases hout
  | cons options rest ih =>
    obtain ⟨enriched, henriched, hrun⟩ := L2.Audit.bind_ok.1 hrun
    obtain ⟨later, hlater, hrun⟩ := L2.Audit.bind_ok.1 hrun
    obtain rfl := Except.ok.inj hrun
    have hkept : enriched.lifecycleState = some state := by
      rw [(enrichDriftFindingLifecycle_ok henriched).lifecycleState,
        resolveDriftLifecycleState_of_some hstate]
    exact List.forall_mem_cons.2 ⟨hkept, ih hkept hlater⟩

/-- Every enrichment reports what the first one resolved. -/
theorem lifecycleState_of_first {rest : List DriftLifecycleDefaultsOptions}
    (hrun : enrichments H finding (options :: rest) = .ok outs) :
    ∀ out ∈ outs, out.lifecycleState =
      some (resolveDriftLifecycleState H finding (options.now.getD finding.detectedAt)) := by
  obtain ⟨enriched, henriched, hrun⟩ := L2.Audit.bind_ok.1 hrun
  obtain ⟨later, hlater, hrun⟩ := L2.Audit.bind_ok.1 hrun
  obtain rfl := Except.ok.inj hrun
  have hfirst := (enrichDriftFindingLifecycle_ok henriched).lifecycleState
  exact List.forall_mem_cons.2 ⟨hfirst, lifecycleState_of_some hfirst hlater⟩

theorem length_enrichments (hrun : enrichments H finding all = .ok outs) :
    outs.length = all.length := by
  induction all generalizing finding outs with
  | nil =>
    obtain rfl := Except.ok.inj hrun
    rfl
  | cons options rest ih =>
    obtain ⟨enriched, -, hrun⟩ := L2.Audit.bind_ok.1 hrun
    obtain ⟨later, hlater, hrun⟩ := L2.Audit.bind_ok.1 hrun
    obtain rfl := Except.ok.inj hrun
    rw [List.length_cons, List.length_cons, ih hlater]

/-- An accepted finding is resolved as expired when it says so, or says nothing and is past
its expiry. -/
theorem resolve_expired (H : Host) (options : DriftLifecycleDefaultsOptions)
    (haccepted : finding.status = .accepted)
    (hexpiry : truthy finding.exceptionExpiresAt = some e) :
    resolveDriftLifecycleState H finding (options.now.getD finding.detectedAt) =
        .expiredException ↔
      finding.lifecycleState = some .expiredException ∨
        finding.lifecycleState = none ∧ Reached H finding e options := by
  unfold resolveDriftLifecycleState Reached
  cases finding.lifecycleState with
  | some state => simp
  | none =>
    rw [hexpiry, haccepted]
    by_cases hreached : leMs (dateParse H e) (dateParse H (options.now.getD finding.detectedAt)) <;>
      simp [hreached, resolveDriftLifecycleState.ofStatus]

end

/-- A finding that was accepted until 2026-01-02. -/
def acceptedFinding : DriftFinding where
  id := "drift:alice-plan"
  version := "drift:v1"
  createdAt := "2026-01-01T00:00:00.000Z"
  resourceId := "document:plan"
  subjectId := "user:alice"
  nativeAccess := "read"
  intendedAccess := "none"
  severity := .high
  detectedAt := "2026-01-01T00:00:00.000Z"
  exceptionExpiresAt := some "2026-01-02T00:00:00.000Z"
  sourceConnectorId := "mock"
  recommendedAction := .exception
  status := .accepted

/-- One enrichment a day: before the expiry, and after it. -/
def daily : List DriftLifecycleDefaultsOptions :=
  [{ now := some "2026-01-01T12:00:00.000Z" }, { now := some "2026-01-02T12:00:00.000Z" }]

/-- **The exception is over, the finding is accepted.** -/
theorem accepted_after_expiry :
    ¬ ∀ (H : Host) (finding : DriftFinding) (exceptionExpiresAt : IsoDateTime)
      (all : List DriftLifecycleDefaultsOptions) (outs : List DriftFinding),
      finding.status = .accepted → truthy finding.exceptionExpiresAt = some exceptionExpiresAt →
      (all.Pairwise fun options later =>
        leMs (dateParse H (options.now.getD finding.detectedAt))
          (dateParse H (later.now.getD finding.detectedAt)) = true) →
      enrichments H finding all = .ok outs →
      Surfaces H finding exceptionExpiresAt (all.zip outs) := by
  intro hall
  have hsurfaces := hall exactHost acceptedFinding "2026-01-02T00:00:00.000Z" daily _ rfl rfl
    (by decide +kernel) rfl
  have hexpired := hsurfaces _ (List.mem_cons_of_mem _ List.mem_cons_self) (by decide +kernel)
  exact absurd hexpired (by decide +kernel)

/-- **Exactly when the expiry is reported.** -/
theorem surfaces_iff (H : Host) (finding : DriftFinding) (exceptionExpiresAt : IsoDateTime)
    (all : List DriftLifecycleDefaultsOptions) (outs : List DriftFinding)
    (haccepted : finding.status = .accepted)
    (hexpiry : truthy finding.exceptionExpiresAt = some exceptionExpiresAt)
    (hrun : enrichments H finding all = .ok outs) :
    Surfaces H finding exceptionExpiresAt (all.zip outs) ↔
      Unfrozen H finding exceptionExpiresAt all := by
  cases all with
  | nil => simp [Surfaces, Unfrozen]
  | cons first rest =>
    have hstate := lifecycleState_of_first hrun
    have hexpired := resolve_expired H first haccepted hexpiry
    constructor
    · intro hsurfaces
      by_cases hreached : ∃ options ∈ first :: rest, Reached H finding exceptionExpiresAt options
      · obtain ⟨options, hoptions, hreached⟩ := hreached
        obtain ⟨i, hi, rfl⟩ := List.mem_iff_getElem.1 hoptions
        have hout : i < outs.length := by rw [length_enrichments hrun]; exact hi
        have hpair : ((first :: rest)[i], outs[i]) ∈ (first :: rest).zip outs :=
          List.mem_iff_getElem.2 ⟨i, by simp [hout] at hi ⊢; omega, List.getElem_zip ..⟩
        have hsame := hstate _ (List.getElem_mem hout)
        rw [hsurfaces _ hpair hreached, Option.some.injEq] at hsame
        rcases hexpired.1 hsame.symm with hthere | ⟨hnone, hfirst⟩
        · exact .inl hthere
        · exact .inr (.inl ⟨hnone, fun _ h => Option.some.inj h ▸ hfirst⟩)
      · exact .inr (.inr fun options hoptions h => hreached ⟨options, hoptions, h⟩)
    · intro hunfrozen p hp hreached
      obtain ⟨hoptions, hout⟩ := List.of_mem_zip hp
      rw [hstate _ hout, Option.some.injEq, hexpired]
      rcases hunfrozen with hthere | ⟨hnone, hfirst⟩ | hnever
      · exact .inl hthere
      · exact .inr ⟨hnone, hfirst first rfl⟩
      · exact absurd hreached (hnever _ hoptions)

/-- Two enrichments after the expiry. -/
def late : List DriftLifecycleDefaultsOptions :=
  [{ now := some "2026-01-02T12:00:00.000Z" }, { now := some "2026-01-03T12:00:00.000Z" }]

/-- A finding that has no state yet is expired for both. -/
theorem surfaces_late : ∃ outs, enrichments exactHost acceptedFinding late = .ok outs ∧
    outs.length = 2 ∧
    Surfaces exactHost acceptedFinding "2026-01-02T00:00:00.000Z" (late.zip outs) := by
  refine ⟨_, rfl, rfl, (surfaces_iff exactHost acceptedFinding "2026-01-02T00:00:00.000Z" late _
    rfl rfl rfl).2 (.inr (.inl ⟨rfl, ?_⟩))⟩
  intro first hfirst
  obtain rfl := Option.some.inj hfirst
  decide +kernel

end AccessKit.Bugs.FrozenLifecycle
