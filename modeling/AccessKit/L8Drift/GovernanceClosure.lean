import AccessKit.L8Drift.Fixtures

/-!
# Closure and repetition of a generation

A state is closed when the finding of every request is there and points back to it. A finding
that is written with a request points to that one, so a generation keeps a state closed as
long as it leaves no other request of such a finding as it was. A generation over its own
output writes what is there.

Results:
* `mergeAll_closed`, `not_closed_of_left`: when the pass over the drift findings keeps a state
  closed, and when it does not.
* `buildAccessReviewGovernance_again`: the output, taken as the existing state, comes again.
* `buildAccessReviewGovernance_governed`: the two together, with the campaign and the statuses.
* `manual_request`: a closed state whose output is not closed.
-/
namespace AccessKit.L8
open AccessKit.Core AccessKit.L1 AccessKit.L3 AccessKit.L2.Audit.Fixtures

/-! ## What holds of an output -/

/-- The finding of every request is there, and points back to it. -/
def AccessReviewGovernanceRecords.Closed (records : AccessReviewGovernanceRecords) : Prop :=
  ∀ request ∈ records.exceptionRequests,
    (∃ finding ∈ records.findings, finding.id = request.findingId) ∧
    ∀ finding ∈ records.findings, finding.id = request.findingId →
      finding.exceptionRequestId = some request.id

/-- A campaign lists its findings and its requests, each once. -/
structure AccessReviewCampaign.Lists (campaign : AccessReviewCampaign)
    (records : AccessReviewGovernanceRecords) : Prop where
  findings : campaign.findingIds.Perm ((records.findings.filter fun finding =>
    finding.campaignId = campaign.id).map (·.id))
  requests : campaign.exceptionRequestIds.Perm ((records.exceptionRequests.filter fun request =>
    request.campaignId = campaign.id).map (·.id))

/-- A finding is risk accepted with its request, and expired only with its request. -/
structure StatusesAgree (finding : GovernanceFinding) (request : ExceptionRequest) : Prop where
  riskAccepted : finding.status = .riskAccepted ↔ request.status = .riskAccepted
  expired : finding.status = .expired → request.status = .expired

/-- A finding that is written with a request has no other, that is left as it was. -/
def AccessReviewGovernanceInput.OwnRequests (H : Host) (input : AccessReviewGovernanceInput) :
    Prop :=
  ∀ request ∈ input.existing.exceptionRequests, ∀ d ∈ input.driftFindings,
    requiresExceptionRequest d = true → request.findingId = governanceFindingId H d.id →
      ∃ d' ∈ input.driftFindings, requiresExceptionRequest d' = true ∧
        exceptionRequestId H d'.id = request.id

/-- What an output is. -/
structure Governed (H : Host) (localeCompare : String → String → Int)
    (input : AccessReviewGovernanceInput) (records : AccessReviewGovernanceRecords) : Prop where
  again : buildAccessReviewGovernance H localeCompare { input with existing := records } =
    .ok records
  closed : records.Closed
  campaign : ∃ campaign, findBy (·.id) records.campaigns localAccessReviewCampaignId =
    some campaign ∧ campaign.Lists records
  statuses : ∀ d ∈ input.driftFindings, requiresExceptionRequest d = true →
    ∃ finding request, findingOf H records d = some finding ∧
      requestOf H records d = some request ∧ StatusesAgree finding request

/-! ## Closure -/

/-- The finding of every request of the index points back to it. -/
def GovernanceIndex.Closed (index : GovernanceIndex) : Prop :=
  ∀ k request, index.exceptionRequestsById.get? k = some request →
    ∃ finding, index.findingsById.get? request.findingId = some finding ∧
      finding.exceptionRequestId = some request.id

section
variable {H : Host} {t : IsoDateTime} {d : DriftFinding} {l : List DriftFinding}
  {index index' : GovernanceIndex} {finding : GovernanceFinding}
  {request : Option ExceptionRequest} {localeCompare : String → String → Int}
  {input : AccessReviewGovernanceInput} {records : AccessReviewGovernanceRecords}

theorem mem_of_toIdMap {α : Type} {id : α → CanonicalId} {items : List α} {k : CanonicalId}
    {v : α} (h : (toIdMap id items).get? k = some v) : v ∈ items := by
  rw [toIdMap, OrderedMap.get?_ofList] at h
  exact List.mem_reverse.1 (List.mem_of_find?_eq_some h)

theorem toIdMap_of_mem {α : Type} {id : α → CanonicalId} {items : List α} {v : α}
    (h : v ∈ items) : ∃ w, (toIdMap id items).get? (id v) = some w := by
  rw [toIdMap, OrderedMap.get?_ofList, ← Option.isSome_iff_exists, List.find?_isSome]
  exact ⟨v, List.mem_reverse.2 h, by simp⟩

theorem GovernanceIndex.closed_ofRecords (h : records.Closed) :
    (GovernanceIndex.ofRecords records).Closed := by
  intro k request hget
  obtain ⟨⟨finding, hfinding, hid⟩, hback⟩ := h request (mem_of_toIdMap hget)
  obtain ⟨found, hfound⟩ : ∃ found, (toIdMap GovernanceFinding.id records.findings).get?
      finding.id = some found := toIdMap_of_mem hfinding
  rw [hid] at hfound
  exact ⟨found, hfound, hback found (mem_of_toIdMap hfound)
    (OrderedMap.get?_ofList_key _ _ hfound)⟩

/-- **Closed.** The pass over the drift findings keeps the index closed, if each request that
it leaves belongs to a finding that it leaves, or writes without a request. -/
theorem mergeAll_closed (hdistinct : DistinctIds H l) (hfiled : index.Filed)
    (hclosed : index.Closed) (h : mergeAll H t l index = .ok index')
    (hown : ∀ k r, index.exceptionRequestsById.get? k = some r → ∀ d ∈ l,
      requiresExceptionRequest d = true → r.findingId = governanceFindingId H d.id →
        ∃ d' ∈ l, requiresExceptionRequest d' = true ∧ exceptionRequestId H d'.id = r.id) :
    index'.Closed := by
  intro k r hr
  by_cases hwritten : ∃ d ∈ l, requiresExceptionRequest d = true ∧ exceptionRequestId H d.id = k
  · obtain ⟨d, hd, hrequires, rfl⟩ := hwritten
    obtain ⟨finding, request, hgenerate, hfinding, hrequest⟩ := mergeAll_distinct hdistinct h d hd
    have hgenerated := generate_ok hgenerate
    obtain ⟨q, rfl⟩ := Option.isSome_iff_exists.1 (hgenerated.required.trans hrequires)
    obtain rfl := Option.some.inj (hr.symm.trans hrequest)
    obtain ⟨-, hrfinding, hback⟩ := hgenerated.requestId r rfl
    exact ⟨finding, by rw [hrfinding, hgenerated.id, hfinding], hback⟩
  · have hsame : index.exceptionRequestsById.get? k = some r := by
      rw [← hr, mergeAll_request h fun d hd hrequires hid => hwritten ⟨d, hd, hrequires, hid⟩]
    obtain ⟨f, hf, hback⟩ := hclosed k r hsame
    by_cases hfindingWritten : ∃ d ∈ l, governanceFindingId H d.id = r.findingId
    · obtain ⟨d, hd, hid⟩ := hfindingWritten
      obtain ⟨finding, request, hgenerate, hfinding, -⟩ := mergeAll_distinct hdistinct h d hd
      have hgenerated := generate_ok hgenerate
      rw [hid, hf] at hgenerated
      have hnone : request = none := by
        by_contra hsome
        rw [← ne_eq, Option.ne_none_iff_isSome, hgenerated.required] at hsome
        obtain ⟨d', hd', hrequires', hid'⟩ := hown k r hsame d hd hsome hid.symm
        exact hwritten ⟨d', hd', hrequires', hid'.trans (hfiled.requests k r hsame)⟩
      exact ⟨finding, by rw [← hid, hfinding], (hgenerated.kept hnone).trans hback⟩
    · refine ⟨f, ?_, hback⟩
      rw [mergeAll_finding h fun d hd hid => hfindingWritten ⟨d, hd, hid⟩, hf]

/-- **Left behind.** A request that is left as it was, of a finding that is written with
another, is in an index that is not closed. -/
theorem not_closed_of_left (hdistinct : DistinctIds H l) (h : mergeAll H t l index = .ok index')
    {r : ExceptionRequest} (hr : index.exceptionRequestsById.get? r.id = some r) (hd : d ∈ l)
    (hrequires : requiresExceptionRequest d = true)
    (hfinding : r.findingId = governanceFindingId H d.id)
    (hleft : ∀ d' ∈ l, requiresExceptionRequest d' = true → exceptionRequestId H d'.id ≠ r.id) :
    ¬ index'.Closed := by
  intro hclosed
  obtain ⟨finding, request, hgenerate, hget, -⟩ := mergeAll_distinct hdistinct h d hd
  have hgenerated := generate_ok hgenerate
  obtain ⟨q, rfl⟩ := Option.isSome_iff_exists.1 (hgenerated.required.trans hrequires)
  obtain ⟨f, hf, hback⟩ := hclosed r.id r (by rw [mergeAll_request h hleft, hr])
  rw [hfinding, hget] at hf
  obtain rfl := Option.some.inj hf
  obtain ⟨hid, -, hpoints⟩ := hgenerated.requestId q rfl
  rw [hpoints, hid, Option.some.injEq] at hback
  exact hleft d hd hrequires hback

theorem closed_of_index (hfiled : index.Filed) (hclosed : index.Closed)
    (hfindings : records.findings.Perm index.findingsById.values)
    (hrequests : records.exceptionRequests.Perm index.exceptionRequestsById.values) :
    records.Closed := by
  intro request hrequest
  obtain ⟨k, hget⟩ := OrderedMap.mem_values.1 (hrequests.mem_iff.1 hrequest)
  obtain ⟨finding, hfinding, hback⟩ := hclosed k request hget
  have hmem : finding ∈ records.findings :=
    hfindings.mem_iff.2 (OrderedMap.mem_values.2 ⟨_, hfinding⟩)
  refine ⟨⟨finding, hmem, hfiled.findings _ _ hfinding⟩, fun f hf hid => ?_⟩
  have hf := (OrderedMap.mem_values_key hfiled.findings).1 (hfindings.mem_iff.1 hf)
  rw [hid, hfinding] at hf
  rw [← Option.some.inj hf, hback]

/-! ## Repetition -/

theorem mergeDriftFinding_again
    (hgenerate : generate H t d (index.findingsById.get? (governanceFindingId H d.id))
      (index.exceptionRequestsById.get? (exceptionRequestId H d.id)) = .ok (finding, request))
    (hfinding : index.findingsById.get? (governanceFindingId H d.id) = some finding)
    (hrequest : ∀ r, request = some r →
      index.exceptionRequestsById.get? (exceptionRequestId H d.id) = some r) :
    mergeDriftFinding H t index d = .ok index := by
  have hgenerated := generate_ok hgenerate
  have hfindings : index.findingsById.set finding.id finding = index.findingsById :=
    OrderedMap.set_of_get? (by rw [hgenerated.id, hfinding])
  rw [mergeDriftFinding_eq, hgenerate]
  refine congrArg Except.ok ?_
  cases request with
  | none => simp [GovernanceIndex.put, hfindings]
  | some r =>
    have hrequests : index.exceptionRequestsById.set r.id r = index.exceptionRequestsById :=
      OrderedMap.set_of_get? (by rw [(hgenerated.requestId r rfl).1, hrequest r rfl])
    simp [GovernanceIndex.put, hfindings, hrequests]

theorem mergeAll_of_each (h : ∀ d ∈ l, mergeDriftFinding H t index d = .ok index) :
    mergeAll H t l index = .ok index := by
  induction l with
  | nil => rfl
  | cons d l ih =>
    obtain ⟨hd, hl⟩ := List.forall_mem_cons.1 h
    exact L2.Audit.bind_ok.2 ⟨index, hd, ih hl⟩

theorem mergeAll_again {again : GovernanceIndex} (hdistinct : DistinctIds H l)
    (h : mergeAll H t l index = .ok index')
    (hfindings : ∀ k, again.findingsById.get? k = index'.findingsById.get? k)
    (hrequests : ∀ k, again.exceptionRequestsById.get? k = index'.exceptionRequestsById.get? k) :
    mergeAll H t l again = .ok again := by
  refine mergeAll_of_each fun d hd => ?_
  obtain ⟨finding, request, hgenerate, hfinding, hrequest⟩ := mergeAll_distinct hdistinct h d hd
  have hagain : generate H t d (again.findingsById.get? (governanceFindingId H d.id))
      (again.exceptionRequestsById.get? (exceptionRequestId H d.id)) = .ok (finding, request) := by
    rw [hfindings, hrequests, hfinding, hrequest]
    exact generate_again hgenerate
  refine mergeDriftFinding_again hagain ((hfindings _).trans hfinding) ?_
  rintro r rfl
  rw [hrequests, hrequest, Option.some_or]

theorem approved_keptRefs (existing : List GovernanceApproval) (role : String)
    (evidenceRefs : List String) :
    (keptRefs (some existing) [buildOwnerApproval role .pending none evidenceRefs]).find?
      (fun approval => approval.decision = .approved) =
    existing.find? fun approval => approval.decision = .approved := by
  cases existing <;> rfl

/-- The campaign over its own output is the campaign. -/
theorem buildAccessReviewCampaign_again (records : AccessReviewGovernanceRecords)
    {existing : Option AccessReviewCampaign} {campaign : AccessReviewCampaign}
    {findings findings' : List GovernanceFinding}
    {requests requests' : List ExceptionRequest} (hfindings : findings'.Perm findings)
    (hrequests : requests'.Perm requests)
    (h : buildAccessReviewCampaign H existing input findings requests = .ok campaign) :
    buildAccessReviewCampaign H (some campaign) { input with existing := records } findings'
      requests' = .ok campaign := by
  obtain ⟨dueAt, -, h⟩ := L2.Audit.bind_ok.1 h
  obtain rfl := Except.ok.inj h
  simp only [buildAccessReviewCampaign, Option.map_some, Option.getD_some, Option.bind_some,
    keptDate, approved_keptRefs, keptRefs_again _ (List.cons_ne_nil _ _), hfindings.isEmpty_eq,
    hrequests.isEmpty_eq, sortStrings_perm (hfindings.map _), sortStrings_perm (hrequests.map _),
    sortStrings_perm ((hfindings.filter _).map _)]
  cases ((existing.map (·.ownerApprovals)).getD []).find?
      fun approval => decide (approval.decision = .approved) with
  | some approval => simp [bind, Except.bind, pure, Except.pure]
  | none =>
    cases !input.sourceEventIds.isEmpty || !findings.isEmpty || !requests.isEmpty <;>
      simp [bind, Except.bind, pure, Except.pure]

theorem buildAccessReviewCampaign_ok {existing : Option AccessReviewCampaign}
    {campaign : AccessReviewCampaign} {findings : List GovernanceFinding}
    {requests : List ExceptionRequest}
    (h : buildAccessReviewCampaign H existing input findings requests = .ok campaign) :
    campaign.id = localAccessReviewCampaignId ∧
    campaign.findingIds.Perm (findings.map (·.id)) ∧
    campaign.exceptionRequestIds.Perm (requests.map (·.id)) := by
  obtain ⟨dueAt, -, h⟩ := L2.Audit.bind_ok.1 h
  obtain rfl := Except.ok.inj h
  exact ⟨rfl, perm_sortStrings _, perm_sortStrings _⟩

theorem toIdMap_again {α : Type} {id : α → CanonicalId} {m : OrderedMap CanonicalId α}
    (hfiled : ∀ k v, m.get? k = some v → id v = k) (items : List α) (hitems : items.Perm m.values) :
    (toIdMap id items).values = items ∧ ∀ k, (toIdMap id items).get? k = m.get? k := by
  have hvalues : (toIdMap id items).values = items :=
    OrderedMap.values_ofList (((hitems.map id).nodup_iff).2 (OrderedMap.nodup_values_key hfiled))
  refine ⟨hvalues, OrderedMap.get?_eq_of_perm OrderedMap.get?_ofList_key hfiled ?_⟩
  exact hvalues.symm ▸ hitems

theorem get?_toIdMap_sortById {α : Type} {id : α → CanonicalId} {m : OrderedMap CanonicalId α}
    (hfiled : ∀ k v, m.get? k = some v → id v = k) (localeCompare : String → String → Int)
    (k : CanonicalId) :
    (toIdMap id (sortById localeCompare id m.values)).get? k = m.get? k :=
  (toIdMap_again hfiled _ (sortById_perm m.values)).2 k

/-- **Again.** The output, taken as the existing state, comes out again. -/
theorem buildAccessReviewGovernance_again (hcollates : Collates localeCompare)
    (hdistinct : DistinctIds H input.driftFindings)
    (h : buildAccessReviewGovernance H localeCompare input = .ok records) :
    buildAccessReviewGovernance H localeCompare { input with existing := records } =
      .ok records := by
  obtain ⟨index, campaign, hindex, hcampaign, hrecords⟩ := buildAccessReviewGovernance_ok h
  have hfiled := mergeAll_filed hindex (GovernanceIndex.filed_ofRecords input.existing)
  have hcampaigns : ∀ k v, ((toIdMap (·.id) input.existing.campaigns).set campaign.id
      campaign).get? k = some v → v.id = k :=
    OrderedMap.get?_set_key OrderedMap.get?_ofList_key campaign
  have hfindings : records.findings.Perm index.findingsById.values := by
    rw [hrecords]
    exact sortById_perm _
  have hrequests : records.exceptionRequests.Perm index.exceptionRequestsById.values := by
    rw [hrecords]
    exact sortById_perm _
  have hlist : records.campaigns.Perm
      ((toIdMap (·.id) input.existing.campaigns).set campaign.id campaign).values := by
    rw [hrecords]
    exact sortById_perm _
  -- The three maps of the second generation are those that the first one left.
  obtain ⟨hfindingValues, hfindingGet⟩ := toIdMap_again hfiled.findings _ hfindings
  obtain ⟨hrequestValues, hrequestGet⟩ := toIdMap_again hfiled.requests _ hrequests
  obtain ⟨hcampaignValues, hcampaignGet⟩ := toIdMap_again hcampaigns _ hlist
  have hmerge : mergeAll H input.generatedAt input.driftFindings (.ofRecords records) =
      .ok (.ofRecords records) := mergeAll_again hdistinct hindex hfindingGet hrequestGet
  have hthere : (toIdMap (·.id) records.campaigns).get? localAccessReviewCampaignId =
      some campaign := by
    rw [hcampaignGet, (buildAccessReviewCampaign_ok hcampaign).1, OrderedMap.get?_set_self]
  have hkept : (toIdMap (·.id) records.campaigns).set campaign.id campaign =
      toIdMap (·.id) records.campaigns :=
    OrderedMap.set_of_get? (by rw [(buildAccessReviewCampaign_ok hcampaign).1, hthere])
  have hagain := buildAccessReviewCampaign_again records
    (hfindings.filter _) (hrequests.filter _) hcampaign
  refine L2.Audit.bind_ok.2 ⟨_, hmerge, L2.Audit.bind_ok.2 ⟨campaign, ?_, ?_⟩⟩
  · rw [hthere]
    change buildAccessReviewCampaign H _ _
      ((toIdMap (·.id) records.findings).values.filter _)
      ((toIdMap (·.id) records.exceptionRequests).values.filter _) = _
    rw [hfindingValues, hrequestValues]
    exact hagain
  · change Except.ok (AccessReviewGovernanceRecords.mk
      (sortById localeCompare (·.id)
        ((toIdMap (·.id) records.campaigns).set campaign.id campaign).values)
      (sortById localeCompare (·.id) (toIdMap (·.id) records.findings).values)
      (sortById localeCompare (·.id) (toIdMap (·.id) records.exceptionRequests).values)) = _
    rw [hkept, hcampaignValues, hfindingValues, hrequestValues, hrecords]
    simp only [sortById_again hcollates]

/-! ## The two together -/

/-- The finding and the request of a drift finding have statuses that agree. -/
theorem generated_agree {existing : Option GovernanceFinding}
    {existingRequest : Option ExceptionRequest} {r : ExceptionRequest}
    (h : Generated H t d existing existingRequest finding (some r)) : StatusesAgree finding r := by
  obtain ⟨expiresAt, -, hstatus, hcompleted, hrequest⟩ := h.status
  obtain ⟨-, hrstatus, -⟩ := hrequest r rfl
  simp only [governanceFindingStatus, hcompleted, or_self] at hstatus
  rw [exceptionRequestStatus] at hrstatus
  -- Both read the status of the drift finding and the one expiry.
  cases hd : d.status <;> by_cases hafter : isAfter H t expiresAt = true <;>
    simp only [hd, hafter] at hstatus hrstatus <;>
    exact ⟨by simp [hstatus, hrstatus], by simp [hstatus, hrstatus]⟩

theorem campaign_lists (h : buildAccessReviewGovernance H localeCompare input = .ok records) :
    ∃ campaign, findBy (·.id) records.campaigns localAccessReviewCampaignId = some campaign ∧
      campaign.Lists records := by
  obtain ⟨index, campaign, hindex, hcampaign, rfl⟩ := buildAccessReviewGovernance_ok h
  obtain ⟨hid, hfindings, hrequests⟩ := buildAccessReviewCampaign_ok hcampaign
  refine ⟨campaign, ?_, ?_, ?_⟩
  · refine (findBy_sortById
      (OrderedMap.get?_set_key OrderedMap.get?_ofList_key campaign) _).trans ?_
    rw [hid, OrderedMap.get?_set_self]
  · rw [hid]
    exact hfindings.trans (((sortById_perm _).symm.filter _).map _)
  · rw [hid]
    exact hrequests.trans (((sortById_perm _).symm.filter _).map _)

theorem output_closed (hdistinct : DistinctIds H input.driftFindings)
    (hclosed : input.existing.Closed) (hown : input.OwnRequests H)
    (h : buildAccessReviewGovernance H localeCompare input = .ok records) : records.Closed := by
  obtain ⟨index, campaign, hindex, -, rfl⟩ := buildAccessReviewGovernance_ok h
  have hfiled := mergeAll_filed hindex (GovernanceIndex.filed_ofRecords input.existing)
  have hindexClosed := mergeAll_closed hdistinct (GovernanceIndex.filed_ofRecords _)
    (GovernanceIndex.closed_ofRecords hclosed) hindex
    fun _ r hget d hd => hown r (mem_of_toIdMap hget) d hd
  exact closed_of_index hfiled hindexClosed (sortById_perm _) (sortById_perm _)

/-- The index of an output that is closed is closed. -/
theorem index_closed (hfiled : index.Filed) (hclosed : records.Closed)
    (hfindings : records.findings.Perm index.findingsById.values)
    (hrequests : records.exceptionRequests.Perm index.exceptionRequestsById.values) :
    index.Closed := by
  intro k r hr
  obtain ⟨⟨finding, hfinding, hid⟩, hback⟩ :=
    hclosed r (hrequests.mem_iff.2 (OrderedMap.mem_values.2 ⟨k, hr⟩))
  refine ⟨finding, ?_, hback finding hfinding hid⟩
  rw [← hid]
  exact (OrderedMap.mem_values_key hfiled.findings).1 (hfindings.mem_iff.1 hfinding)

theorem statuses_agree (hdistinct : DistinctIds H input.driftFindings)
    (h : buildAccessReviewGovernance H localeCompare input = .ok records) :
    ∀ d ∈ input.driftFindings, requiresExceptionRequest d = true →
      ∃ finding request, findingOf H records d = some finding ∧
        requestOf H records d = some request ∧ StatusesAgree finding request := by
  obtain ⟨index, hindex, hlookups⟩ := lookups h
  intro d hd hrequires
  obtain ⟨finding, request, hgenerate, hfinding, hrequest⟩ :=
    mergeAll_distinct hdistinct hindex d hd
  have hgenerated := generate_ok hgenerate
  obtain ⟨r, rfl⟩ := Option.isSome_iff_exists.1 (hgenerated.required.trans hrequires)
  refine ⟨finding, r, (hlookups d).1.trans hfinding, ?_, generated_agree hgenerated⟩
  rw [(hlookups d).2, hrequest, Option.some_or]

end

/-- One generation over the plan's drift finding and its records. -/
def planGeneration (requestId : CanonicalId) : AccessReviewGovernanceInput :=
  planInput [planFinding "drift:plan" "user:alice"] (planRecords requestId)

theorem planGeneration_dated (requestId : CanonicalId) :
    (planGeneration requestId).Dated exactHost :=
  planInput_dated (List.forall_mem_singleton.2 ⟨_, _, rfl⟩) _

theorem planGeneration_distinct (requestId : CanonicalId) :
    DistinctIds exactHost (planGeneration requestId).driftFindings :=
  List.nodup_singleton _

theorem planRecords_closed (requestId : CanonicalId) : (planRecords requestId).Closed := by
  refine List.forall_mem_singleton.2 ⟨⟨_, List.mem_singleton.2 rfl, rfl⟩, ?_⟩
  exact List.forall_mem_singleton.2 fun _ => rfl

/-- **A request under an id of its own choice.** A closed state with a request that is not
under the derived id gives an output whose finding points to another request. -/
theorem manual_request :
    ¬ ∀ (H : Host) (localeCompare : String → String → Int) (input : AccessReviewGovernanceInput),
      Collates localeCompare → DistinctIds H input.driftFindings → input.Dated H →
      input.existing.Closed →
      ∃ records, buildAccessReviewGovernance H localeCompare input = .ok records ∧
        Governed H localeCompare input records := by
  intro hall
  obtain ⟨records, h, hgoverned⟩ := hall exactHost plainCompare (planGeneration "exception:manual")
    plainCompare_collates (planGeneration_distinct _) (planGeneration_dated _)
    (planRecords_closed _)
  obtain ⟨index, campaign, hindex, -, rfl⟩ := buildAccessReviewGovernance_ok h
  have hfiled := mergeAll_filed hindex (GovernanceIndex.filed_ofRecords _)
  have hclosed := index_closed hfiled hgoverned.closed (sortById_perm _) (sortById_perm _)
  have hid : governanceFindingId exactHost "drift:plan" = "governance-finding:drift:plan" := by
    decide +kernel
  have hother : exceptionRequestId exactHost "drift:plan" ≠ "exception:manual" := by decide +kernel
  exact not_closed_of_left (r := planRequest "exception:manual" .requested .pending)
    (planGeneration_distinct _) hindex rfl (List.mem_singleton.2 rfl) rfl hid.symm
    (List.forall_mem_singleton.2 fun _ => hother) hclosed

/-- **Governance output.** Over a closed state whose requests are under the ids of their drift
findings, a generation comes out closed, and comes out again from what it made. -/
theorem buildAccessReviewGovernance_governed (H : Host) (localeCompare : String → String → Int)
    (input : AccessReviewGovernanceInput) (hcollates : Collates localeCompare)
    (hdistinct : DistinctIds H input.driftFindings) (hdated : input.Dated H)
    (hclosed : input.existing.Closed) (hown : input.OwnRequests H) :
    ∃ records, buildAccessReviewGovernance H localeCompare input = .ok records ∧
      Governed H localeCompare input records := by
  obtain ⟨records, hrecords⟩ := buildAccessReviewGovernance_dated localeCompare hdated
  exact ⟨records, hrecords, buildAccessReviewGovernance_again hcollates hdistinct hrecords,
    output_closed hdistinct hclosed hown hrecords, campaign_lists hrecords,
    statuses_agree hdistinct hrecords⟩

/-- The plan's request is under its derived id. -/
theorem plan_governed :
    ∃ records, buildAccessReviewGovernance exactHost plainCompare
        (planGeneration "exception:drift:plan") = .ok records ∧
      Governed exactHost plainCompare (planGeneration "exception:drift:plan") records := by
  have hid : exceptionRequestId exactHost "drift:plan" = "exception:drift:plan" := by
    decide +kernel
  refine buildAccessReviewGovernance_governed exactHost plainCompare
    (planGeneration "exception:drift:plan") plainCompare_collates (planGeneration_distinct _)
    (planGeneration_dated _) (planRecords_closed _) ?_
  exact List.forall_mem_singleton.2 fun d hd hrequires _ =>
    ⟨d, hd, hrequires, by rw [List.mem_singleton.1 hd]; exact hid⟩

end AccessKit.L8
