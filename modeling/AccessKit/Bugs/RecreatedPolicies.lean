import AccessKit.L2Graph.Fixtures
import AccessKit.L5Runtime.Policies

/-!
# Creating a published policy again unpublishes it

Status: open. The id of a policy is made of its draft
(packages/api/src/runtime-policies.ts:36), a replay is found by its idempotency key
(:29), and nothing looks whether a policy with the id is there: the same draft under
another key overwrites the record (:43). A published policy is a draft again, with no
change ticket, and has no prior version to roll back from.

Counterexample: a policy is created, validated, published and created again
(`created_again_unpublishes`).

Exact condition: no `createPolicy` with a new key has the draft of a published policy,
and a rollback that takes place has a change ticket that is not empty
(`lifecycle_iff`).
-/
namespace AccessKit.Bugs.RecreatedPolicies
open AccessKit.Core AccessKit.L1 AccessKit.L2.Fixtures AccessKit.L2.Audit AccessKit.L3 AccessKit.L5
  PolicyApp

/-- A published policy. -/
def IsPublished (app : PolicyApp) (id : String) (draft : PersistedPolicyDraft) : Prop :=
  ∃ record, app.getPolicy id = some record ∧ record.summary.status = .published ∧
    record.draft = draft

section
variable (H : Host)

/-- A step is one of the lifecycle: what is published after it was published before
or is published by it, from the validated status and with a valid model; what was
published stays so or is rolled back, with a change ticket. -/
structure StepOk (app : PolicyApp) (op : PolicyOperation) (app' : PolicyApp) : Prop where
  enters : ∀ id draft, IsPublished app' id draft → IsPublished app id draft ∨
    (∃ request key, op = .publishPolicy id request key) ∧
      (∃ prior, app.getPolicy id = some prior ∧ prior.summary.status = .validated ∧
        prior.draft = draft) ∧
      (validatePolicyModel H draft.model).valid = true
  leaves : ∀ id draft, IsPublished app id draft → IsPublished app' id draft ∨
    ∃ request key, op = .rollbackPolicy id request key ∧ request.changeTicket ≠ ""

/-- What an operation needs. -/
def Meets (app : PolicyApp) : PolicyOperation → Prop
  | .createPolicy draft key => app.getPolicyIdempotencyRecord ("create:" ++ key) = none →
      ∀ published, ¬ IsPublished app (policyId H draft) published
  | .rollbackPolicy id request key => request.changeTicket = "" →
      app.getPolicyIdempotencyRecord ("rollback:" ++ id ++ ":" ++ key) = none →
      ∀ prior, app.getPolicy id = some prior → prior.summary.status = .published →
        app.rollbackTarget id request.targetVersion prior = none
  | _ => True

/-- The draft that was last found valid under an id, after an operation. -/
def validatedAfter (app : PolicyApp) (validated : String → Option PersistedPolicyDraft) :
    PolicyOperation → String → Option PersistedPolicyDraft
  | .validatePolicy id _ => fun id' =>
    match app.getPolicy id with
    | some prior =>
      if id = id' && (validatePolicyModel H prior.draft.model).valid then some prior.draft
      else validated id'
    | none => validated id'
  | _ => validated

/-- The runtimes of a run, with what was last found valid under each id. -/
inductive Reached (actor : CanonicalId) :
    PolicyApp → (String → Option PersistedPolicyDraft) → Prop
  | started : Reached actor (started actor) fun _ => none
  | performed {app : PolicyApp} {validated : String → Option PersistedPolicyDraft}
      (h : Reached actor app validated) (op : PolicyOperation) (now : IsoDateTime) :
      Reached actor (app.perform H now op) (validatedAfter H app validated op)

end

section
variable {H : Host} {app : PolicyApp}

/-! ## Published models are valid -/

theorem validationResult_valid (model : PolicyModel) (mode : PolicyValidationMode) :
    (validationResult H model mode).valid = (validatePolicyModel H model).valid := by
  simp only [validationResult]
  split
  · rename_i h
    rw [Bool.and_eq_true] at h
    exact h.2.symm
  · rfl

theorem validatedStatus_eq {valid : Bool} {status : PersistedPolicyStatus} :
    (validatedStatus valid status = .published ↔ status = .published) ∧
    (validatedStatus valid status = .validated → valid = true) := by
  cases valid <;> cases status <;> decide

/-- What is validated or published is valid, and was the last thing found valid. -/
def Validated (H : Host) (validated : String → Option PersistedPolicyDraft)
    (record : PersistedPolicyRecord) : Prop :=
  record.summary.status = .validated ∨ record.summary.status = .published →
    (validatePolicyModel H record.draft.model).valid = true ∧
      validated record.summary.id = some record.draft

/-- What is the last thing found valid stays it while it is stored. -/
theorem validatedAfter_keeps {validated : String → Option PersistedPolicyDraft} {id : String}
    {record : PersistedPolicyRecord} (hrecord : app.getPolicy id = some record)
    (h : validated id = some record.draft) (op : PolicyOperation) :
    validatedAfter H app validated op id = some record.draft := by
  cases op with
  | validatePolicy id' mode =>
    simp only [validatedAfter]
    split
    · rename_i prior hprior
      split
      · rename_i hsame
        rw [Bool.and_eq_true, decide_eq_true_eq] at hsame
        rw [hsame.1, hrecord, Option.some.injEq] at hprior
        rw [hprior]
      · exact h
    · exact h
  | _ => exact h

theorem validated_written {validated : String → Option PersistedPolicyDraft}
    (hall : ∀ id record, app.getPolicy id = some record → Validated H validated record)
    {op : PolicyOperation} {now : IsoDateTime} {record : PersistedPolicyRecord}
    (h : Writes H app now op record) :
    Validated H (validatedAfter H app validated op) record := by
  cases h with
  | created _ => exact fun hstatus => by rcases hstatus with hstatus | hstatus <;> cases hstatus
  | @validated id mode prior hprior =>
    intro hstatus
    have hvalid : (validatePolicyModel H prior.draft.model).valid = true := by
      rw [← validationResult_valid _ mode]
      rcases hstatus with hstatus | hstatus
      · exact validatedStatus_eq.2 hstatus
      · rw [validationResult_valid]
        exact (hall id prior hprior (.inr (validatedStatus_eq.1.1 hstatus))).1
    refine ⟨hvalid, ?_⟩
    simp [validatedAfter, hprior, app.policy_id id prior hprior, hvalid]
  | invalidated _ _ _ =>
    exact fun hstatus => by rcases hstatus with hstatus | hstatus <;> cases hstatus
  | @published id request key prior hprior hstatus hvalid =>
    intro _
    obtain ⟨-, hlast⟩ := hall id prior hprior (.inl hstatus)
    rw [app.policy_id id prior hprior] at hlast
    exact ⟨hvalid, hlast⟩
  | rolledBack _ _ _ _ =>
    exact fun hstatus => by rcases hstatus with hstatus | hstatus <;> cases hstatus

/-- **In every run** what is validated or published is valid, and is what was last
found valid. -/
theorem reached_validated {actor : CanonicalId} {validated : String → Option PersistedPolicyDraft}
    (h : Reached H actor app validated) :
    ∀ id record, app.getPolicy id = some record → Validated H validated record := by
  induction h with
  | started => exact fun _ _ h => by cases h
  | @performed app validated _ op now ih =>
    intro id record hrecord
    have hkept : app.getPolicy id = some record →
        Validated H (validatedAfter H app validated op) record := by
      intro hbefore hstatus
      obtain ⟨hvalid, hlast⟩ := ih id record hbefore hstatus
      have hid := app.policy_id id record hbefore
      rw [hid] at hlast ⊢
      exact ⟨hvalid, validatedAfter_keeps hbefore hlast op⟩
    rcases perform_policies H app op now with hsame | ⟨written, hwrites, hset⟩
    · rw [getPolicy, hsame] at hrecord
      exact hkept hrecord
    · rw [getPolicy_set hset] at hrecord
      split at hrecord
      · cases hrecord
        exact validated_written ih hwrites
      · exact hkept hrecord

/-! ## Steps of the lifecycle -/

/-- What is published is so because it was, or because it is published now. -/
theorem enters_of_writes {op : PolicyOperation} {now : IsoDateTime} {written : PersistedPolicyRecord}
    (h : Writes H app now op written) (hstatus : written.summary.status = .published) :
    IsPublished app written.summary.id written.draft ∨
      (∃ request key, op = .publishPolicy written.summary.id request key) ∧
      (∃ prior, app.getPolicy written.summary.id = some prior ∧
        prior.summary.status = .validated ∧ prior.draft = written.draft) ∧
      (validatePolicyModel H written.draft.model).valid = true := by
  cases h with
  | created _ => cases hstatus
  | @validated id mode prior hprior =>
    have hid : prior.summary.id = id := app.policy_id id prior hprior
    exact .inl ⟨prior, hid ▸ hprior, validatedStatus_eq.1.1 hstatus, rfl⟩
  | invalidated _ _ _ => cases hstatus
  | @published id request key prior hprior hvalidated hvalid =>
    exact .inr ⟨⟨request, key, rfl⟩, ⟨prior, hprior, hvalidated, rfl⟩, hvalid⟩
  | rolledBack _ _ _ _ => cases hstatus

/-- What was published stays so, is rolled back or is created again. -/
theorem leaves_of_writes {op : PolicyOperation} {now : IsoDateTime} {written : PersistedPolicyRecord}
    (h : Writes H app now op written) {draft : PersistedPolicyDraft}
    (hpublished : IsPublished app written.summary.id draft) (hmeets : Meets H app op) :
    (written.summary.status = .published ∧ written.draft = draft) ∨
      ∃ request key, op = .rollbackPolicy written.summary.id request key ∧
        request.changeTicket ≠ "" := by
  obtain ⟨record, hrecord, hstatus, rfl⟩ := hpublished
  cases h with
  | created hnew => exact absurd ⟨record, hrecord, hstatus, rfl⟩ (hmeets hnew record.draft)
  | @validated id mode prior hprior =>
    have hid : prior.summary.id = id := app.policy_id id prior hprior
    obtain rfl : prior = record := by
      rw [← hid] at hprior
      exact Option.some.inj (hprior.symm.trans hrecord)
    exact .inl ⟨validatedStatus_eq.1.2 hstatus, rfl⟩
  | @invalidated id request key prior hprior hvalidated _ =>
    have hid : prior.summary.id = id := app.policy_id id prior hprior
    obtain rfl : prior = record := by
      rw [← hid] at hprior
      exact Option.some.inj (hprior.symm.trans hrecord)
    rw [hvalidated] at hstatus
    cases hstatus
  | @published id request key prior hprior hvalidated _ =>
    obtain rfl : prior = record := Option.some.inj (hprior.symm.trans hrecord)
    rw [hvalidated] at hstatus
    cases hstatus
  | @rolledBack id request key prior target hnew hprior hprivate htarget =>
    refine .inr ⟨request, key, rfl, fun hempty => ?_⟩
    rw [hmeets hempty hnew prior hprior hprivate] at htarget
    cases htarget

theorem stepOk_of_meets {op : PolicyOperation} (h : Meets H app op) (now : IsoDateTime) :
    StepOk H app op (app.perform H now op) := by
  rcases perform_policies H app op now with hsame | ⟨written, hwrites, hset⟩
  · have hpublished : ∀ id draft, IsPublished (app.perform H now op) id draft ↔
        IsPublished app id draft := by
      intro id draft
      simp only [IsPublished, getPolicy, hsame]
    exact ⟨fun id draft hp => .inl ((hpublished id draft).1 hp),
      fun id draft hp => .inl ((hpublished id draft).2 hp)⟩
  · have hget := getPolicy_set hset
    constructor
    · rintro id draft ⟨record, hrecord, hstatus, rfl⟩
      rw [hget] at hrecord
      split at hrecord
      · rename_i hid
        cases hrecord
        exact hid ▸ enters_of_writes hwrites hstatus
      · exact .inl ⟨record, hrecord, hstatus, rfl⟩
    · intro id draft hp
      by_cases hid : written.summary.id = id
      · subst hid
        rcases leaves_of_writes hwrites hp h with ⟨hstatus, hdraft⟩ | hrollback
        · exact .inl ⟨written, by rw [hget, if_pos rfl], hstatus, hdraft⟩
        · exact .inr hrollback
      · obtain ⟨record, hrecord, hrest⟩ := hp
        exact .inl ⟨record, by rw [hget, if_neg hid, hrecord], hrest⟩

theorem meets_of_stepOk {op : PolicyOperation} {now : IsoDateTime}
    (h : StepOk H app op (app.perform H now op)) : Meets H app op := by
  cases op with
  | createPolicy draft key =>
    intro hnew published hpublished
    have hget : (app.perform H now (.createPolicy draft key)).getPolicy (policyId H draft) =
        some { draft, summary := draftSummary H draft now } := by
      simp only [perform, createPolicy, hnew]
      exact OrderedMap.get?_set_self _ _ _
    rcases h.leaves _ _ hpublished with ⟨record, hrecord, hstatus, -⟩ | ⟨request, key', hop, -⟩
    · rw [hget, Option.some.injEq] at hrecord
      rw [← hrecord] at hstatus
      cases hstatus
    · cases hop
  | validatePolicy id mode => trivial
  | publishPolicy id request key => trivial
  | rollbackPolicy id request key =>
    intro hempty hnew prior hprior hstatus
    by_contra htarget
    obtain ⟨target, htarget⟩ := Option.ne_none_iff_exists'.1 htarget
    have hget : ∃ record, (app.perform H now (.rollbackPolicy id request key)).getPolicy id =
        some record ∧ record.summary.status = .rolledBack := by
      simp only [perform, rollbackPolicy, hnew, hprior, hstatus, ne_eq, not_true_eq_false, if_false,
        htarget]
      exact ⟨_, OrderedMap.get?_set_self _ _ _, rfl⟩
    obtain ⟨record, hget, hrolled⟩ := hget
    rcases h.leaves id prior.draft ⟨prior, hprior, hstatus, rfl⟩ with
      ⟨record', hrecord, hpublished, -⟩ | ⟨request', key', hop, hticket⟩
    · rw [hget, Option.some.injEq] at hrecord
      rw [← hrecord, hrolled] at hpublished
      cases hpublished
    · cases hop
      exact hticket hempty

end

/-- **The lifecycle**: in every run what is published is valid and is what was last
found valid; and a step is one of the lifecycle exactly when it meets the condition. -/
theorem lifecycle_iff (H : Host) (actor : CanonicalId) (app : PolicyApp)
    (validated : String → Option PersistedPolicyDraft) (h : Reached H actor app validated) :
    (∀ id draft, IsPublished app id draft →
      (validatePolicyModel H draft.model).valid = true ∧ validated id = some draft) ∧
    ∀ op now, StepOk H app op (app.perform H now op) ↔ Meets H app op := by
  refine ⟨?_, fun op now => ⟨meets_of_stepOk, fun hmeets => stepOk_of_meets hmeets now⟩⟩
  rintro id draft ⟨record, hrecord, hstatus, rfl⟩
  obtain ⟨hvalid, hlast⟩ := reached_validated h id record hrecord (.inr hstatus)
  rw [app.policy_id id record hrecord] at hlast
  exact ⟨hvalid, hlast⟩

/-! ## The counterexample -/

def localDraft : PersistedPolicyDraft where
  name := "Local ReBAC"
  model := createDefaultPolicyModel
  tests := []

def localPolicyId : String := policyId plainHost localDraft

def release : PolicyPublishRequest where
  changeTicket := "chg:release-1"
  approverId := "user:approver"

/-- After the draft is created. -/
def createdApp : PolicyApp :=
  (started "service:api").perform plainHost timestamp (.createPolicy localDraft "key:1")

/-- After it is validated. -/
def validatedApp : PolicyApp :=
  createdApp.perform plainHost timestamp (.validatePolicy localPolicyId .validate)

/-- After it is published. -/
def publishedApp : PolicyApp :=
  validatedApp.perform plainHost timestamp (.publishPolicy localPolicyId release "key:2")

/-- After it is created again, with another key. -/
def recreatedApp : PolicyApp :=
  publishedApp.perform plainHost later (.createPolicy localDraft "key:3")

theorem localModel_valid :
    (validatePolicyModel plainHost createDefaultPolicyModel).valid = true := by
  decide +kernel

theorem getPolicy_validatedApp : ∃ record, validatedApp.getPolicy localPolicyId = some record ∧
    record.summary.status = .validated ∧ record.draft = localDraft := by
  have hcreated : createdApp.getPolicy localPolicyId =
      some { draft := localDraft, summary := draftSummary plainHost localDraft timestamp } := by
    rw [createdApp]
    exact getPolicy_createPolicy timestamp rfl
  rw [validatedApp]
  refine ⟨_, getPolicy_validatePolicy timestamp hcreated .validate, ?_, rfl⟩
  show validatedStatus (validationResult plainHost createDefaultPolicyModel .validate).valid .draft = _
  rw [validationResult_valid, localModel_valid]
  rfl

/-- A scope starts with the name of its operation. -/
theorem scope_ne (s t : String) : "publish:" ++ s ≠ "create:" ++ t := by
  intro h
  have hhead := congrArg (fun s => s.toList.head?) h
  simp at hhead

theorem getPolicy_publishedApp : ∃ record, publishedApp.getPolicy localPolicyId = some record ∧
    record.summary.status = .published ∧ record.draft = localDraft := by
  obtain ⟨record, hrecord, hstatus, hdraft⟩ := getPolicy_validatedApp
  have hnew : validatedApp.getPolicyIdempotencyRecord
      ("publish:" ++ localPolicyId ++ ":" ++ "key:2") = none := by
    rw [validatedApp, getPolicyIdempotencyRecord_perform (by simp [PolicyOperation.scope])]
    rw [createdApp, getPolicyIdempotencyRecord_perform]
    · rfl
    · intro h
      rw [PolicyOperation.scope, Option.some.injEq, String.append_assoc, String.append_assoc] at h
      exact scope_ne _ _ h.symm
  have hvalid : (validatePolicyModel plainHost record.draft.model).valid = true := by
    rw [hdraft]
    exact localModel_valid
  rw [publishedApp]
  exact ⟨_, getPolicy_publishPolicy timestamp hnew hrecord hstatus hvalid, rfl, hdraft⟩

theorem getPolicy_recreatedApp : recreatedApp.getPolicy localPolicyId =
    some { draft := localDraft, summary := draftSummary plainHost localDraft later } := by
  rw [recreatedApp]
  refine getPolicy_createPolicy later ?_
  rw [publishedApp, getPolicyIdempotencyRecord_perform]
  · rw [validatedApp, getPolicyIdempotencyRecord_perform (by simp [PolicyOperation.scope])]
    rw [createdApp, getPolicyIdempotencyRecord_perform (by decide)]
    rfl
  · intro h
    rw [PolicyOperation.scope, Option.some.injEq, String.append_assoc, String.append_assoc] at h
    exact scope_ne _ _ h

/-- **Counterexample**: the published policy is a draft again, and nothing was rolled
back. -/
theorem created_again_unpublishes :
    (∃ validated, Reached plainHost "service:api" publishedApp validated) ∧
    IsPublished publishedApp localPolicyId localDraft ∧
    (∀ draft, ¬ IsPublished recreatedApp localPolicyId draft) ∧
    ¬ StepOk plainHost publishedApp (.createPolicy localDraft "key:3") recreatedApp := by
  have hpublished : IsPublished publishedApp localPolicyId localDraft := getPolicy_publishedApp
  have hdraft : ∀ draft, ¬ IsPublished recreatedApp localPolicyId draft := by
    rintro draft ⟨record, hrecord, hstatus, -⟩
    rw [getPolicy_recreatedApp, Option.some.injEq] at hrecord
    rw [← hrecord] at hstatus
    cases hstatus
  refine ⟨⟨_, ((Reached.started.performed _ _).performed _ _).performed _ _⟩, hpublished, hdraft,
    fun h => ?_⟩
  rcases h.leaves _ _ hpublished with hstill | ⟨request, key, hop, -⟩
  · exact hdraft _ hstill
  · cases hop

/-- The lifecycle until the policy is published. -/
theorem lifecycle_publishedApp :
    (∀ id draft, IsPublished publishedApp id draft →
      (validatePolicyModel plainHost draft.model).valid = true ∧
        validatedAfter plainHost validatedApp (validatedAfter plainHost createdApp
          (validatedAfter plainHost (started "service:api") (fun _ => none)
            (.createPolicy localDraft "key:1"))
          (.validatePolicy localPolicyId .validate)) (.publishPolicy localPolicyId release "key:2")
          id = some draft) ∧
    ∀ op now, StepOk plainHost publishedApp op (publishedApp.perform plainHost now op) ↔
      Meets plainHost publishedApp op :=
  lifecycle_iff plainHost "service:api" publishedApp _
    (((Reached.started.performed _ _).performed _ _).performed _ _)

end AccessKit.Bugs.RecreatedPolicies
