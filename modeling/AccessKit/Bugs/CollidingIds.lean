import AccessKit.L8Drift.Fixtures

/-!
# Drift findings under one id

Status: open. Governance records are filed under the normalised id of their drift finding
(packages/core/src/governance.ts:101-107, 365-371): letters become lower case and every run
of other characters becomes one underscore. Two drift findings whose ids differ only there
share a governance finding and an exception request, and the one that comes last writes over
the other's subject, resource and status.

Counterexample: `drift:Plan` and `drift:plan`, of two subjects (`finding_of_another`).

Exact condition: no two drift findings have the same normalised id (`separate_iff`).
-/
namespace AccessKit.Bugs.CollidingIds
open AccessKit.Core AccessKit.L1 AccessKit.L2.Audit.Fixtures AccessKit.L8

section
variable (H : Host)

/-- Under the ids of a drift finding are the records that it gives, from those that were
there before the generation. -/
def Derived (input : AccessReviewGovernanceInput) (records : AccessReviewGovernanceRecords)
    (d : DriftFinding) : Prop :=
  ∃ finding request,
    generate H input.generatedAt d
      ((toIdMap (·.id) input.existing.findings).get? (governanceFindingId H d.id))
      ((toIdMap (·.id) input.existing.exceptionRequests).get? (exceptionRequestId H d.id)) =
        .ok (finding, request) ∧
    findingOf H records d = some finding ∧
    (requiresExceptionRequest d = true → requestOf H records d = request ∧ request.isSome)

/-- Each drift finding has its own records. -/
structure Separate (input : AccessReviewGovernanceInput)
    (records : AccessReviewGovernanceRecords) : Prop where
  derived : ∀ d ∈ input.driftFindings, Derived H input records d
  findings : input.driftFindings.Pairwise fun d d' => findingOf H records d ≠ findingOf H records d'
  requests : input.driftFindings.Pairwise fun d d' =>
    requiresExceptionRequest d = true → requiresExceptionRequest d' = true →
      requestOf H records d ≠ requestOf H records d'

end

section
variable {H : Host} {localeCompare : String → String → Int} {input : AccessReviewGovernanceInput}
  {records : AccessReviewGovernanceRecords} {d d' : DriftFinding}

theorem derived_of_distinct (hdistinct : DistinctIds H input.driftFindings)
    (h : buildAccessReviewGovernance H localeCompare input = .ok records) :
    ∀ d ∈ input.driftFindings, Derived H input records d := by
  obtain ⟨index, hindex, hlookups⟩ := lookups h
  intro d hd
  obtain ⟨finding, request, hgenerate, hfinding, hrequest⟩ :=
    mergeAll_distinct hdistinct hindex d hd
  refine ⟨finding, request, hgenerate, (hlookups d).1.trans hfinding, fun hrequires => ?_⟩
  have hsome : request.isSome = true := (generate_ok hgenerate).required.trans hrequires
  obtain ⟨r, rfl⟩ := Option.isSome_iff_exists.1 hsome
  exact ⟨(hlookups d).2.trans hrequest, rfl⟩

theorem findingOf_ne (hderived : Derived H input records d) (hderived' : Derived H input records d')
    (hne : governanceEvidenceId H d.id ≠ governanceEvidenceId H d'.id) :
    findingOf H records d ≠ findingOf H records d' := by
  obtain ⟨finding, request, hgenerate, hfinding, -⟩ := hderived
  obtain ⟨finding', request', hgenerate', hfinding', -⟩ := hderived'
  rw [hfinding, hfinding']
  intro hsame
  obtain rfl := Option.some.inj hsame
  exact hne (governanceFindingId_inj.1 ((generate_ok hgenerate).id.symm.trans
    (generate_ok hgenerate').id))

theorem requestOf_ne (hderived : Derived H input records d) (hderived' : Derived H input records d')
    (hne : governanceEvidenceId H d.id ≠ governanceEvidenceId H d'.id)
    (hrequires : requiresExceptionRequest d = true)
    (hrequires' : requiresExceptionRequest d' = true) :
    requestOf H records d ≠ requestOf H records d' := by
  obtain ⟨finding, request, hgenerate, -, hrequest⟩ := hderived
  obtain ⟨finding', request', hgenerate', -, hrequest'⟩ := hderived'
  obtain ⟨hrequest, hsome⟩ := hrequest hrequires
  obtain ⟨hrequest', -⟩ := hrequest' hrequires'
  obtain ⟨r, rfl⟩ := Option.isSome_iff_exists.1 hsome
  rw [hrequest, hrequest']
  intro hsame
  have hid := ((generate_ok hgenerate).requestId r rfl).1
  have hid' := ((generate_ok hgenerate').requestId r hsame.symm).1
  exact hne (exceptionRequestId_inj.1 (hid.symm.trans hid'))

end

/-- A generation over two drift findings, with no records before it. -/
def twoPlans (id id' : CanonicalId) : AccessReviewGovernanceInput :=
  planInput [planFinding id "user:alice", planFinding id' "user:bob"] ⟨[], [], []⟩

theorem twoPlans_dated (id id' : CanonicalId) : (twoPlans id id').Dated exactHost := by
  refine planInput_dated (List.forall_mem_cons.2 ⟨⟨_, _, rfl⟩, ?_⟩) _
  exact List.forall_mem_singleton.2 ⟨_, _, rfl⟩

/-- **Two drift findings, one governance finding.** -/
theorem finding_of_another :
    ¬ ∀ (H : Host) (localeCompare : String → String → Int) (input : AccessReviewGovernanceInput),
      (input.driftFindings.map (·.id)).Nodup → input.Dated H →
      ∃ records, buildAccessReviewGovernance H localeCompare input = .ok records ∧
        Separate H input records := by
  intro hall
  obtain ⟨records, -, hseparate⟩ := hall exactHost plainCompare
    (twoPlans "drift:Plan" "drift:plan") (by decide) (twoPlans_dated ..)
  have hne := (List.pairwise_cons.1 hseparate.findings).1 _ List.mem_cons_self
  have hsame : governanceFindingId exactHost "drift:Plan" =
      governanceFindingId exactHost "drift:plan" := by decide +kernel
  refine hne ?_
  unfold findingOf
  exact congrArg _ hsame

/-- **Exactly when no finding is lost.** -/
theorem separate_iff (H : Host) (localeCompare : String → String → Int)
    (input : AccessReviewGovernanceInput) (hdated : input.Dated H) :
    (∃ records, buildAccessReviewGovernance H localeCompare input = .ok records ∧
      Separate H input records) ↔ DistinctIds H input.driftFindings := by
  constructor
  · rintro ⟨records, -, hseparate⟩
    rw [DistinctIds, List.Nodup, List.pairwise_map]
    refine hseparate.findings.imp fun hne hsame => hne ?_
    rw [findingOf, findingOf, governanceFindingId_inj.2 hsame]
  · intro hdistinct
    obtain ⟨records, hrecords⟩ := buildAccessReviewGovernance_dated localeCompare hdated
    have hderived := derived_of_distinct hdistinct hrecords
    have hpairwise : input.driftFindings.Pairwise fun d d' =>
        governanceEvidenceId H d.id ≠ governanceEvidenceId H d'.id := by
      rw [DistinctIds, List.Nodup, List.pairwise_map] at hdistinct
      exact hdistinct
    refine ⟨records, hrecords, hderived, ?_, ?_⟩
    · exact hpairwise.imp_of_mem fun hd hd' hne => findingOf_ne (hderived _ hd) (hderived _ hd') hne
    · exact hpairwise.imp_of_mem fun hd hd' hne hrequires hrequires' =>
        requestOf_ne (hderived _ hd) (hderived _ hd') hne hrequires hrequires'

/-- Two drift findings whose normalised ids differ. -/
theorem separate_plans :
    (∃ records, buildAccessReviewGovernance exactHost plainCompare
        (twoPlans "drift:plan" "drift:memo") = .ok records ∧
      Separate exactHost (twoPlans "drift:plan" "drift:memo") records) ↔
      DistinctIds exactHost (twoPlans "drift:plan" "drift:memo").driftFindings :=
  separate_iff exactHost plainCompare (twoPlans "drift:plan" "drift:memo") (twoPlans_dated ..)

end AccessKit.Bugs.CollidingIds
