import AccessKit.Core.Keyed
import AccessKit.L1Domain.SameText
import AccessKit.L3Policy.Valid
import AccessKit.L8Drift.Governance

/-!
# One generation

The pass over the drift findings writes two records for each of them. What it leaves under
an id is what it was or what the last drift finding of that id gave, and drift findings
whose ids differ do not meet.

Results:
* `mergeAll_finding`, `mergeAll_request`: what is under an id that no drift finding has.
* `mergeAll_distinct`: what is under the ids of drift findings whose ids differ.
* `findBy_sortById`: a record is found in the output under its id.
* `buildAccessReviewGovernance_dated`: from dates, a generation does not throw.
-/
namespace AccessKit.L8
open AccessKit.Core AccessKit.L1 AccessKit.L3

/-! ## Ids -/

section
variable {H : Host} {s s' : String}

theorem governanceFindingId_inj : governanceFindingId H s = governanceFindingId H s' ↔
    governanceEvidenceId H s = governanceEvidenceId H s' :=
  String.append_right_inj _

theorem exceptionRequestId_inj : exceptionRequestId H s = exceptionRequestId H s' ↔
    governanceEvidenceId H s = governanceEvidenceId H s' :=
  String.append_right_inj _

end

/-! ## Sorting -/

/-- The comparison of a host: any two strings compare, and the order is transitive. -/
structure Collates (localeCompare : String → String → Int) : Prop where
  total : ∀ s t, localeCompare s t ≤ 0 ∨ localeCompare t s ≤ 0
  trans : ∀ {s t u}, localeCompare s t ≤ 0 → localeCompare t u ≤ 0 → localeCompare s u ≤ 0

/-- The comparison of code units. -/
def plainCompare (s t : String) : Int :=
  if stringLe s t then (if stringLe t s then 0 else -1) else 1

theorem plainCompare_le {s t : String} : plainCompare s t ≤ 0 ↔ stringLe s t = true := by
  unfold plainCompare
  split
  · split <;> simp_all
  · simp_all

theorem plainCompare_collates : Collates plainCompare where
  total s t := by
    rw [plainCompare_le, plainCompare_le]
    exact lexLe_total (utf16 s) (utf16 t)
  trans h h' := plainCompare_le.2 (lexLe_trans (plainCompare_le.1 h) (plainCompare_le.1 h'))

theorem insertString_comm (a b : String) (l : List String) :
    insertString a (insertString b l) = insertString b (insertString a l) := by
  have htotal (s t : String) : stringLe s t = true ∨ stringLe t s = true :=
    lexLe_total (utf16 s) (utf16 t)
  have htrans {s t u : String} (h : stringLe s t = true) (h' : stringLe t u = true) :
      stringLe s u = true := lexLe_trans h h'
  have hswap (l : List String) : (if stringLe a b then a :: b :: l else b :: a :: l) =
      if stringLe b a then b :: a :: l else a :: b :: l := by
    by_cases hab : stringLe a b
    · by_cases hba : stringLe b a
      · simp [stringLe_antisymm hab hba]
      · simp [hab, hba]
    · simp [hab, (htotal a b).resolve_left hab]
  induction l with
  | nil => simpa [insertString] using hswap []
  | cons c l ih =>
    by_cases hb : stringLe b c
    · by_cases ha : stringLe a c
      · simpa [insertString, ha, hb] using hswap (c :: l)
      · have hab : ¬ stringLe a b = true := fun h => ha (htrans h hb)
        simp [insertString, ha, hb, hab]
    · by_cases ha : stringLe a c
      · have hba : ¬ stringLe b a = true := fun h => hb (htrans h ha)
        simp [insertString, ha, hb, hba]
      · simp [insertString, ha, hb, ih]

theorem sortStrings_perm {l l' : List String} (h : l.Perm l') : sortStrings l = sortStrings l' := by
  have : LeftCommutative insertString := ⟨insertString_comm⟩
  exact h.foldr_eq []

theorem perm_insertString (s : String) (l : List String) : (insertString s l).Perm (s :: l) := by
  induction l with
  | nil => exact .refl _
  | cons t l ih =>
    rw [insertString]
    split
    · exact .refl _
    · exact (ih.cons t).trans (.swap s t l)

theorem perm_sortStrings (l : List String) : (sortStrings l).Perm l := by
  induction l with
  | nil => exact .refl _
  | cons s l ih => exact (perm_insertString s _).trans (ih.cons s)

section
variable {α : Type} {id : α → CanonicalId} {localeCompare : String → String → Int}

theorem sortById_perm (items : List α) : (sortById localeCompare id items).Perm items :=
  List.mergeSort_perm ..

theorem sortById_again (h : Collates localeCompare) (items : List α) :
    sortById localeCompare id (sortById localeCompare id items) =
      sortById localeCompare id items := by
  refine List.mergeSort_of_pairwise (List.pairwise_mergeSort ?_ ?_ items)
  · intro a b c hab hbc
    simp only [decide_eq_true_eq] at hab hbc ⊢
    exact h.trans hab hbc
  · intro a b
    simp only [Bool.or_eq_true, decide_eq_true_eq]
    exact h.total (id a) (id b)

theorem findBy_sortById {m : OrderedMap CanonicalId α}
    (hfiled : ∀ k v, m.get? k = some v → id v = k) (k : CanonicalId) :
    findBy id (sortById localeCompare id m.values) k = m.get? k := by
  have hperm : (sortById localeCompare id m.values).Perm m.values := sortById_perm m.values
  cases hget : m.get? k with
  | none =>
    rw [findBy_eq_none]
    intro v hv hk
    obtain ⟨k', hv⟩ := OrderedMap.mem_values.1 (hperm.mem_iff.1 hv)
    obtain rfl := hfiled _ _ hv
    rw [hk, hget] at hv
    cases hv
  | some v =>
    have hnodup := ((hperm.map id).nodup_iff).2 (OrderedMap.nodup_values_key hfiled)
    have hmem := hperm.mem_iff.2 (OrderedMap.mem_values.2 ⟨k, hget⟩)
    rw [← hfiled k v hget]
    exact findBy_of_mem hnodup hmem

end

/-! ## The pass over the drift findings -/

/-- The records of a drift finding are written. -/
def GovernanceIndex.put (index : GovernanceIndex) (finding : GovernanceFinding)
    (request : Option ExceptionRequest) : GovernanceIndex where
  findingsById := index.findingsById.set finding.id finding
  exceptionRequestsById := match request with
    | some request => index.exceptionRequestsById.set request.id request
    | none => index.exceptionRequestsById

section
variable {H : Host} {t : IsoDateTime} {d : DriftFinding} {l : List DriftFinding}
  {index index' : GovernanceIndex}

/-- What is under the ids of a drift finding gives what is written. -/
theorem mergeDriftFinding_eq : mergeDriftFinding H t index d =
    (generate H t d (index.findingsById.get? (governanceFindingId H d.id))
      (index.exceptionRequestsById.get? (exceptionRequestId H d.id))).map fun p =>
        index.put p.1 p.2 := by
  simp only [mergeDriftFinding, generate, bind, Except.bind]
  cases exceptionExpiresAt H d (index.exceptionRequestsById.get? (exceptionRequestId H d.id)) with
  | error message => rfl
  | ok expiresAt =>
    simp only []
    cases buildGovernanceFinding H d (index.findingsById.get? (governanceFindingId H d.id)) t
        expiresAt with
    | error message => rfl
    | ok finding =>
      by_cases hrequires : requiresExceptionRequest d
      · simp only [if_pos hrequires]
        cases buildExceptionRequest H d finding
            (index.exceptionRequestsById.get? (exceptionRequestId H d.id)) t with
        | error message => rfl
        | ok request => simp [GovernanceIndex.put, Except.map, pure, Except.pure]
      · simp [if_neg hrequires, GovernanceIndex.put, Except.map, pure, Except.pure]

theorem mergeDriftFinding_ok (h : mergeDriftFinding H t index d = .ok index') :
    ∃ finding request,
      generate H t d (index.findingsById.get? (governanceFindingId H d.id))
        (index.exceptionRequestsById.get? (exceptionRequestId H d.id)) = .ok (finding, request) ∧
      index' = index.put finding request := by
  rw [mergeDriftFinding_eq] at h
  cases hgenerate : generate H t d (index.findingsById.get? (governanceFindingId H d.id))
      (index.exceptionRequestsById.get? (exceptionRequestId H d.id)) with
  | error message =>
    rw [hgenerate] at h
    cases h
  | ok p =>
    rw [hgenerate] at h
    exact ⟨p.1, p.2, rfl, (Except.ok.inj h).symm⟩

theorem get?_put_finding {finding : GovernanceFinding} {request : Option ExceptionRequest}
    {existing : Option GovernanceFinding} {existingRequest : Option ExceptionRequest}
    (h : Generated H t d existing existingRequest finding request) (k : CanonicalId) :
    (index.put finding request).findingsById.get? k =
      if governanceFindingId H d.id = k then some finding else index.findingsById.get? k := by
  change (index.findingsById.set finding.id finding).get? k = _
  rw [OrderedMap.get?_set, h.id]

theorem get?_put_request {finding : GovernanceFinding} {request : Option ExceptionRequest}
    {existing : Option GovernanceFinding} {existingRequest : Option ExceptionRequest}
    (h : Generated H t d existing existingRequest finding request) (k : CanonicalId) :
    (index.put finding request).exceptionRequestsById.get? k =
      if exceptionRequestId H d.id = k then request.or (index.exceptionRequestsById.get? k)
      else index.exceptionRequestsById.get? k := by
  cases request with
  | none => simp [GovernanceIndex.put]
  | some r =>
    change (index.exceptionRequestsById.set r.id r).get? k = _
    rw [OrderedMap.get?_set, (h.requestId r rfl).1, Option.some_or]

/-- The pass over the drift findings. -/
def mergeAll (H : Host) (t : IsoDateTime) (l : List DriftFinding) (index : GovernanceIndex) :
    Except String GovernanceIndex :=
  l.foldlM (mergeDriftFinding H t) index

theorem mergeAll_cons (h : mergeAll H t (d :: l) index = .ok index') :
    ∃ next, mergeDriftFinding H t index d = .ok next ∧ mergeAll H t l next = .ok index' :=
  L2.Audit.bind_ok.1 h

theorem mergeAll_finding (h : mergeAll H t l index = .ok index') {k : CanonicalId}
    (hk : ∀ d ∈ l, governanceFindingId H d.id ≠ k) :
    index'.findingsById.get? k = index.findingsById.get? k := by
  induction l generalizing index with
  | nil =>
    obtain rfl := Except.ok.inj h
    rfl
  | cons d l ih =>
    obtain ⟨next, hnext, h⟩ := mergeAll_cons h
    obtain ⟨finding, request, hgenerate, rfl⟩ := mergeDriftFinding_ok hnext
    obtain ⟨hd, hl⟩ := List.forall_mem_cons.1 hk
    rw [ih h hl, get?_put_finding (generate_ok hgenerate), if_neg hd]

theorem mergeAll_request (h : mergeAll H t l index = .ok index') {k : CanonicalId}
    (hk : ∀ d ∈ l, requiresExceptionRequest d = true → exceptionRequestId H d.id ≠ k) :
    index'.exceptionRequestsById.get? k = index.exceptionRequestsById.get? k := by
  induction l generalizing index with
  | nil =>
    obtain rfl := Except.ok.inj h
    rfl
  | cons d l ih =>
    obtain ⟨next, hnext, h⟩ := mergeAll_cons h
    obtain ⟨finding, request, hgenerate, rfl⟩ := mergeDriftFinding_ok hnext
    obtain ⟨hd, hl⟩ := List.forall_mem_cons.1 hk
    have hgenerated := generate_ok hgenerate
    rw [ih h hl, get?_put_request hgenerated]
    split
    · rename_i hid
      have hnone : request = none := by
        by_contra hsome
        have hrequired := hgenerated.required
        rw [Option.isSome_iff_ne_none.2 hsome] at hrequired
        exact hd hrequired.symm hid
      simp [hnone]
    · rfl

/-- Drift findings of a list do not share their normalised ids. -/
def DistinctIds (H : Host) (l : List DriftFinding) : Prop :=
  (l.map fun d => governanceEvidenceId H d.id).Nodup

/-- **Ids that differ.** Each drift finding gives its records from those that were there. -/
theorem mergeAll_distinct (hdistinct : DistinctIds H l) (h : mergeAll H t l index = .ok index') :
    ∀ d ∈ l, ∃ finding request,
      generate H t d (index.findingsById.get? (governanceFindingId H d.id))
        (index.exceptionRequestsById.get? (exceptionRequestId H d.id)) = .ok (finding, request) ∧
      index'.findingsById.get? (governanceFindingId H d.id) = some finding ∧
      index'.exceptionRequestsById.get? (exceptionRequestId H d.id) =
        request.or (index.exceptionRequestsById.get? (exceptionRequestId H d.id)) := by
  induction l generalizing index with
  | nil => exact fun _ hd => by cases hd
  | cons d l ih =>
    obtain ⟨next, hnext, h⟩ := mergeAll_cons h
    obtain ⟨finding, request, hgenerate, rfl⟩ := mergeDriftFinding_ok hnext
    obtain ⟨hfresh, hrest⟩ := List.nodup_cons.1 hdistinct
    have hgenerated := generate_ok hgenerate
    have hother : ∀ d' ∈ l, governanceEvidenceId H d'.id ≠ governanceEvidenceId H d.id :=
      fun d' hd' he => hfresh (List.mem_map.2 ⟨d', hd', he⟩)
    refine List.forall_mem_cons.2 ⟨⟨finding, request, hgenerate, ?_, ?_⟩, fun d' hd' => ?_⟩
    · rw [mergeAll_finding h fun d' hd' he => hother d' hd' (governanceFindingId_inj.1 he),
        get?_put_finding hgenerated, if_pos rfl]
    · rw [mergeAll_request h fun d' hd' _ he => hother d' hd' (exceptionRequestId_inj.1 he),
        get?_put_request hgenerated, if_pos rfl]
    · obtain ⟨finding', request', hgenerate', hfinding', hrequest'⟩ := ih hrest h d' hd'
      have hne := (hother d' hd').symm
      rw [get?_put_finding hgenerated,
        if_neg fun he => hne (governanceFindingId_inj.1 he), get?_put_request hgenerated,
        if_neg fun he => hne (exceptionRequestId_inj.1 he)] at hgenerate'
      rw [get?_put_request hgenerated,
        if_neg fun he => hne (exceptionRequestId_inj.1 he)] at hrequest'
      exact ⟨finding', request', hgenerate', hfinding', hrequest'⟩

/-- Records are filed under their ids. -/
structure GovernanceIndex.Filed (index : GovernanceIndex) : Prop where
  findings : ∀ k v, index.findingsById.get? k = some v → v.id = k
  requests : ∀ k v, index.exceptionRequestsById.get? k = some v → v.id = k

/-- The index of the records that are there. -/
def GovernanceIndex.ofRecords (records : AccessReviewGovernanceRecords) : GovernanceIndex where
  findingsById := toIdMap (·.id) records.findings
  exceptionRequestsById := toIdMap (·.id) records.exceptionRequests

theorem GovernanceIndex.filed_ofRecords (records : AccessReviewGovernanceRecords) :
    (GovernanceIndex.ofRecords records).Filed :=
  ⟨OrderedMap.get?_ofList_key, OrderedMap.get?_ofList_key⟩

theorem mergeAll_filed (h : mergeAll H t l index = .ok index') (hfiled : index.Filed) :
    index'.Filed := by
  induction l generalizing index with
  | nil =>
    obtain rfl := Except.ok.inj h
    exact hfiled
  | cons d l ih =>
    obtain ⟨next, hnext, h⟩ := mergeAll_cons h
    obtain ⟨finding, request, -, rfl⟩ := mergeDriftFinding_ok hnext
    refine ih h ⟨OrderedMap.get?_set_key hfiled.findings finding, ?_⟩
    cases request with
    | none => exact hfiled.requests
    | some request => exact OrderedMap.get?_set_key hfiled.requests request

/-! ## Dates -/

/-- Thirty days can be added to a date. -/
def Dated (H : Host) (date : IsoDateTime) : Prop := ∀ days ≤ 30, (addDays H date days).isOk = true

instance (H : Host) (date : IsoDateTime) : Decidable (Dated H date) :=
  inferInstanceAs (Decidable (∀ days ≤ 30, (addDays H date days).isOk = true))

/-- The dates of an input. -/
structure AccessReviewGovernanceInput.Dated (H : Host) (input : AccessReviewGovernanceInput) :
    Prop where
  generatedAt : L8.Dated H input.generatedAt
  detectedAt : ∀ d ∈ input.driftFindings, L8.Dated H d.detectedAt

theorem Dated.kept {date : IsoDateTime} (h : Dated H date) (existing : Option IsoDateTime)
    {days : Nat} (hdays : days ≤ 30) :
    ∃ kept, keptDate existing (addDays H date days) = .ok kept := by
  cases existing with
  | some date => exact ⟨date, rfl⟩
  | none =>
    have hok := h days hdays
    unfold keptDate
    cases hadd : addDays H date days with
    | ok later => exact ⟨later, rfl⟩
    | error message =>
      rw [hadd] at hok
      cases hok

theorem exceptionExpiresAt_dated (h : Dated H d.detectedAt) (existing : Option ExceptionRequest) :
    ∃ expiresAt, exceptionExpiresAt H d existing = .ok expiresAt := by
  cases existing with
  | none => exact h.kept none le_rfl
  | some r => exact ⟨r.expiresAt, rfl⟩

theorem buildGovernanceFinding_dated (h : Dated H d.detectedAt)
    (existing : Option GovernanceFinding) (expiresAt : IsoDateTime) :
    ∃ finding, buildGovernanceFinding H d existing t expiresAt = .ok finding := by
  obtain ⟨dueAt, hdueAt⟩ := h.kept ((existing.map (·.remediation)).map (·.dueAt))
    (show 14 ≤ 30 by decide)
  exact ⟨_, L2.Audit.bind_ok.2 ⟨_, L2.Audit.bind_ok.2 ⟨dueAt, hdueAt, rfl⟩, rfl⟩⟩

theorem buildExceptionRequest_dated (h : Dated H d.detectedAt) (finding : GovernanceFinding)
    (existing : Option ExceptionRequest) :
    ∃ request, buildExceptionRequest H d finding existing t = .ok request := by
  obtain ⟨expiresAt, hexpiresAt⟩ := exceptionExpiresAt_dated h existing
  have hreview : ∃ reviewRequiredAt, keptDate (existing.map (·.reviewRequiredAt))
      (addDays H ((existing.map (·.requestedAt)).getD d.detectedAt) 14) =
        .ok reviewRequiredAt := by
    cases existing with
    | none => exact h.kept none (by decide)
    | some r => exact ⟨r.reviewRequiredAt, rfl⟩
  obtain ⟨reviewRequiredAt, hreview⟩ := hreview
  exact ⟨_, L2.Audit.bind_ok.2 ⟨expiresAt, hexpiresAt,
    L2.Audit.bind_ok.2 ⟨reviewRequiredAt, hreview, rfl⟩⟩⟩

theorem generate_dated (h : Dated H d.detectedAt) (existing : Option GovernanceFinding)
    (existingRequest : Option ExceptionRequest) :
    ∃ finding request, generate H t d existing existingRequest = .ok (finding, request) := by
  obtain ⟨expiresAt, hexpires⟩ := exceptionExpiresAt_dated h existingRequest
  obtain ⟨finding, hfinding⟩ := buildGovernanceFinding_dated (t := t) h existing expiresAt
  obtain ⟨request, hrequest⟩ := buildExceptionRequest_dated (t := t) h finding existingRequest
  by_cases hrequires : requiresExceptionRequest d
  · refine ⟨{ finding with exceptionRequestId := some request.id, updatedAt := some t },
      some request, ?_⟩
    simp only [generate, hexpires, hfinding, hrequest, if_pos hrequires, bind, Except.bind, pure,
      Except.pure]
  · refine ⟨finding, none, ?_⟩
    simp only [generate, hexpires, hfinding, if_neg hrequires, bind, Except.bind, pure,
      Except.pure]

theorem mergeAll_dated (h : ∀ d ∈ l, Dated H d.detectedAt) :
    ∃ index', mergeAll H t l index = .ok index' := by
  induction l generalizing index with
  | nil => exact ⟨index, rfl⟩
  | cons d l ih =>
    obtain ⟨hd, hl⟩ := List.forall_mem_cons.1 h
    obtain ⟨finding, request, hgenerate⟩ := generate_dated (t := t) hd
      (index.findingsById.get? (governanceFindingId H d.id))
      (index.exceptionRequestsById.get? (exceptionRequestId H d.id))
    obtain ⟨index', hindex'⟩ : ∃ index', mergeAll H t l (index.put finding request) = .ok index' :=
      ih hl
    refine ⟨index', L2.Audit.bind_ok.2 ⟨index.put finding request, ?_, hindex'⟩⟩
    rw [mergeDriftFinding_eq, hgenerate]
    rfl

/-! ## Generations -/

/-- The finding in the output under the id of a drift finding. -/
def findingOf (H : Host) (records : AccessReviewGovernanceRecords) (d : DriftFinding) :
    Option GovernanceFinding :=
  findBy (·.id) records.findings (governanceFindingId H d.id)

/-- The request in the output under the id of a drift finding. -/
def requestOf (H : Host) (records : AccessReviewGovernanceRecords) (d : DriftFinding) :
    Option ExceptionRequest :=
  findBy (·.id) records.exceptionRequests (exceptionRequestId H d.id)

theorem buildAccessReviewGovernance_ok {localeCompare : String → String → Int}
    {input : AccessReviewGovernanceInput} {records : AccessReviewGovernanceRecords}
    (h : buildAccessReviewGovernance H localeCompare input = .ok records) :
    ∃ index campaign,
      mergeAll H input.generatedAt input.driftFindings (.ofRecords input.existing) = .ok index ∧
      buildAccessReviewCampaign H
        ((toIdMap (·.id) input.existing.campaigns).get? localAccessReviewCampaignId) input
        (index.findingsById.values.filter fun finding =>
          finding.campaignId = localAccessReviewCampaignId)
        (index.exceptionRequestsById.values.filter fun request =>
          request.campaignId = localAccessReviewCampaignId) = .ok campaign ∧
      records =
        { campaigns := sortById localeCompare (·.id)
            ((toIdMap (·.id) input.existing.campaigns).set campaign.id campaign).values
          findings := sortById localeCompare (·.id) index.findingsById.values
          exceptionRequests := sortById localeCompare (·.id)
            index.exceptionRequestsById.values } := by
  obtain ⟨index, hindex, h⟩ := L2.Audit.bind_ok.1 h
  obtain ⟨campaign, hcampaign, h⟩ := L2.Audit.bind_ok.1 h
  exact ⟨index, campaign, hindex, hcampaign, (Except.ok.inj h).symm⟩

theorem lookups {localeCompare : String → String → Int} {input : AccessReviewGovernanceInput}
    {records : AccessReviewGovernanceRecords}
    (h : buildAccessReviewGovernance H localeCompare input = .ok records) :
    ∃ index, mergeAll H input.generatedAt input.driftFindings (.ofRecords input.existing) =
      .ok index ∧
    ∀ d, findingOf H records d = index.findingsById.get? (governanceFindingId H d.id) ∧
      requestOf H records d = index.exceptionRequestsById.get? (exceptionRequestId H d.id) := by
  obtain ⟨index, campaign, hindex, -, rfl⟩ := buildAccessReviewGovernance_ok h
  have hfiled := mergeAll_filed hindex (GovernanceIndex.filed_ofRecords input.existing)
  exact ⟨index, hindex, fun d =>
    ⟨findBy_sortById hfiled.findings _, findBy_sortById hfiled.requests _⟩⟩

theorem buildAccessReviewGovernance_dated (localeCompare : String → String → Int)
    {input : AccessReviewGovernanceInput} (h : input.Dated H) :
    ∃ records, buildAccessReviewGovernance H localeCompare input = .ok records := by
  obtain ⟨index, hindex⟩ : ∃ index, mergeAll H input.generatedAt input.driftFindings
      (.ofRecords input.existing) = .ok index := mergeAll_dated h.detectedAt
  obtain ⟨dueAt, hdueAt⟩ := h.generatedAt.kept
    (((toIdMap (·.id) input.existing.campaigns).get? localAccessReviewCampaignId).map (·.dueAt))
    le_rfl
  have hcampaign (findings : List GovernanceFinding) (requests : List ExceptionRequest) :
      ∃ campaign, buildAccessReviewCampaign H
        ((toIdMap (·.id) input.existing.campaigns).get? localAccessReviewCampaignId) input findings
        requests = .ok campaign :=
    ⟨_, L2.Audit.bind_ok.2 ⟨dueAt, hdueAt, rfl⟩⟩
  obtain ⟨campaign, hcampaign⟩ := hcampaign
    (index.findingsById.values.filter fun finding =>
      finding.campaignId = localAccessReviewCampaignId)
    (index.exceptionRequestsById.values.filter fun request =>
      request.campaignId = localAccessReviewCampaignId)
  exact ⟨_, L2.Audit.bind_ok.2 ⟨index, hindex, L2.Audit.bind_ok.2 ⟨campaign, hcampaign, rfl⟩⟩⟩

end

end AccessKit.L8
