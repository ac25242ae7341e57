import AccessKit.L3Policy.Compile
import AccessKit.L4Engine.Guard
import AccessKit.L4Engine.Visibility

/-!
# The two path searches

packages/core/src/engine.ts:92-110, 666-883: `findAllowPath` and
`findDenyPath`, statement by statement, and the two search spaces they are
instances of. A state of the allow search is a node together with whether the
way to it already grants the action; a state of the deny search is a node.
The chain of `previous` entries is the `trail` of an entry, and a path is the
list of its relationships.

Results:
* `allowStep_eq`, `denyStep_eq`: the loop bodies are the metered relaxation of
  their spaces.
* `allowSpace_lawful`, `denySpace_lawful`: pruning is sound: a node reached
  with the grant stands for the node reached without.
* `allowLoop_isSome`, `denyLoop_isSome`: the loops end.
* `findAllowPath_spec`, `findDenyPath_spec`: what the searches return.
-/
namespace AccessKit.L4
open AccessKit.Core AccessKit.L1 AccessKit.L2.Store AccessKit.L3

/-- What both searches are called with. -/
structure TraversalInput where
  store : InMemoryRebacStore
  compiledPolicyModel : CompiledPolicyModel
  activeRelationshipScope : ActiveRelationshipScope
  subjectId : CanonicalId
  resourceId : CanonicalId
  action : String
  rootTenantId : Option String
  asOf : IsoDateTime

/-- mirrors packages/core/src/engine.ts:92-95 -/
structure RelationshipTraversalPath where
  relationships : List RelationshipTuple

/-- mirrors packages/core/src/engine.ts:973-979 -/
def toPathStep (r : RelationshipTuple) : RelationshipPathStep :=
  ⟨r.subjectId, r.relation, r.objectId⟩

/-- `relationships.map(toPathStep)` -/
def RelationshipTraversalPath.steps (p : RelationshipTraversalPath) : List RelationshipPathStep :=
  p.relationships.map toPathStep

structure AllowState where
  currentId : CanonicalId
  hasActionGrant : Bool
  deriving DecidableEq, Repr

/-- mirrors packages/core/src/engine.ts:97-103 -/
abbrev AllowQueueEntry := Entry AllowState RelationshipTuple

/-- mirrors packages/core/src/engine.ts:105-110 -/
abbrev DenyQueueEntry := Entry CanonicalId RelationshipTuple

abbrev BestGrant := OrderedMap CanonicalId Bool

abbrev AllowAgenda := Agenda AllowQueueEntry (Memo BestGrant DecisionTraversalGuard)

abbrev DenyAgenda := Agenda DenyQueueEntry (Memo (Finset CanonicalId) DecisionTraversalGuard)

/-- mirrors packages/core/src/engine.ts:832-842 -/
def buildAllowPath (entry : AllowQueueEntry) (finalRelationship : RelationshipTuple) :
    List RelationshipTuple :=
  (finalRelationship :: entry.trail).reverse

/-- mirrors packages/core/src/engine.ts:844-854 -/
def buildDenyPath (entry : DenyQueueEntry) (finalRelationship : RelationshipTuple) :
    List RelationshipTuple :=
  (finalRelationship :: entry.trail).reverse

/-- mirrors packages/core/src/engine.ts:860-876 -/
def canTraverseRelationship (compiledPolicyModel : CompiledPolicyModel)
    (traversalRelations : Finset String) (r : RelationshipTuple)
    (relationGrantsAction hasActionGrant : Bool) : Bool :=
  if r.relation ∈ compiledPolicyModel.membershipRelations then r.relation ∈ traversalRelations
  else if r.relation ∈ compiledPolicyModel.containmentRelations then
    r.relation ∈ traversalRelations && hasActionGrant
  else relationGrantsAction

/-- mirrors packages/core/src/engine.ts:878-883 -/
def canTraverseDenyRelationship (compiledPolicyModel : CompiledPolicyModel)
    (r : RelationshipTuple) : Bool :=
  r.relation ∈ compiledPolicyModel.membershipRelations

section
variable (H : Host) (i : TraversalInput)

namespace TraversalInput

def actionKey : String := toLowerCase H i.action

/-- `allowedRelations` -/
def allowedRelations : Finset String := i.compiledPolicyModel.grants (i.actionKey H)

def traversalRelations : Finset String := i.compiledPolicyModel.traversals (i.actionKey H)

def denyRelations : Finset String := i.compiledPolicyModel.denies (i.actionKey H)

/-- The active tuples that start at a node. -/
def relationshipsFrom (id : CanonicalId) : List RelationshipTuple :=
  activeRelationshipsForSubject H i.store i.activeRelationshipScope id

def matchesTenant (r : RelationshipTuple) : Bool :=
  relationshipMatchesTenantBoundary H i.store r i.rootTenantId i.asOf

def isActiveNode (id : CanonicalId) : Bool := isActiveGraphNodeAt H i.store id i.asOf

end TraversalInput

/-- The loop body of `findAllowPath`.
mirrors packages/core/src/engine.ts:688-748 -/
def allowStep (next : AllowQueueEntry) (r : RelationshipTuple) (w : AllowAgenda) :
    Flow AllowAgenda (List RelationshipTuple) :=
  match w.memo.meter.recordRelationshipScan with
  | (false, guard) => .stop ⟨w.queue, ⟨w.memo.seen, guard⟩⟩ []
  | (true, guard) =>
    if i.matchesTenant H r = false then .step ⟨w.queue, ⟨w.memo.seen, guard⟩⟩
    else
      let depth := next.depth + 1
      match guard.recordDepth depth with
      | (false, guard) => .stop ⟨w.queue, ⟨w.memo.seen, guard⟩⟩ []
      | (true, guard) =>
        let relationGrantsAction : Bool := r.relation ∈ i.allowedRelations H
        let traversable := canTraverseRelationship i.compiledPolicyModel (i.traversalRelations H) r
          relationGrantsAction next.state.hasActionGrant
        if r.objectId = i.resourceId ∧ relationGrantsAction = true then
          .stop ⟨w.queue, ⟨w.memo.seen, guard⟩⟩ (buildAllowPath next r)
        else if r.relation ∈ i.compiledPolicyModel.containmentRelations ∧
            r.relation ∈ i.traversalRelations H ∧ r.objectId = i.resourceId ∧
            next.state.hasActionGrant = true then
          .stop ⟨w.queue, ⟨w.memo.seen, guard⟩⟩ (buildAllowPath next r)
        else if r.objectId = i.resourceId then .step ⟨w.queue, ⟨w.memo.seen, guard⟩⟩
        else if traversable = false ∨ i.isActiveNode H r.objectId = false then
          .step ⟨w.queue, ⟨w.memo.seen, guard⟩⟩
        else
          let hasActionGrant := next.state.hasActionGrant || relationGrantsAction
          let previousBest := w.memo.seen.get? r.objectId
          if previousBest ≠ some true ∧ previousBest ≠ some hasActionGrant then
            match guard.recordVisitedNode r.objectId with
            | (false, guard) => .stop ⟨w.queue, ⟨w.memo.seen, guard⟩⟩ []
            | (true, guard) =>
              .step ⟨w.queue ++ [⟨⟨r.objectId, hasActionGrant⟩, depth, r :: next.trail⟩],
                ⟨w.memo.seen.set r.objectId hasActionGrant, guard⟩⟩
          else .step ⟨w.queue, ⟨w.memo.seen, guard⟩⟩

/-- The loop body of `findDenyPath`.
mirrors packages/core/src/engine.ts:775-808 -/
def denyStep (next : DenyQueueEntry) (r : RelationshipTuple) (w : DenyAgenda) :
    Flow DenyAgenda (List RelationshipTuple) :=
  match w.memo.meter.recordRelationshipScan with
  | (false, guard) => .stop ⟨w.queue, ⟨w.memo.seen, guard⟩⟩ []
  | (true, guard) =>
    if i.matchesTenant H r = false then .step ⟨w.queue, ⟨w.memo.seen, guard⟩⟩
    else
      let depth := next.depth + 1
      match guard.recordDepth depth with
      | (false, guard) => .stop ⟨w.queue, ⟨w.memo.seen, guard⟩⟩ []
      | (true, guard) =>
        if r.objectId = i.resourceId ∧ r.relation ∈ i.denyRelations H then
          .stop ⟨w.queue, ⟨w.memo.seen, guard⟩⟩ (buildDenyPath next r)
        else if r.objectId = i.resourceId ∨
            canTraverseDenyRelationship i.compiledPolicyModel r = false ∨
            i.isActiveNode H r.objectId = false then
          .step ⟨w.queue, ⟨w.memo.seen, guard⟩⟩
        else if r.objectId ∉ w.memo.seen then
          match guard.recordVisitedNode r.objectId with
          | (false, guard) => .stop ⟨w.queue, ⟨w.memo.seen, guard⟩⟩ []
          | (true, guard) =>
            .step ⟨w.queue ++ [⟨r.objectId, depth, r :: next.trail⟩],
              ⟨insert r.objectId w.memo.seen, guard⟩⟩
        else .step ⟨w.queue, ⟨w.memo.seen, guard⟩⟩

/-- The queue of `findAllowPath` before its loop. -/
def allowStart (guard : DecisionTraversalGuard) : AllowAgenda :=
  Space.start ⟨i.subjectId, false⟩ (OrderedMap.empty.set i.subjectId false) guard

/-- The queue of `findDenyPath` before its loop. -/
def denyStart (guard : DecisionTraversalGuard) : DenyAgenda :=
  Space.start i.subjectId {i.subjectId} guard

/-- The loop of `findAllowPath`, for at most `fuel` turns.
mirrors packages/core/src/engine.ts:685-749 -/
def allowLoop (fuel : Nat) (guard : DecisionTraversalGuard) :
    Option (Flow AllowAgenda (List RelationshipTuple)) :=
  worklist (fun next => forOf (allowStep H i next) (i.relationshipsFrom H next.state.currentId))
    fuel (allowStart i guard)

/-- The loop of `findDenyPath`, for at most `fuel` turns.
mirrors packages/core/src/engine.ts:772-809 -/
def denyLoop (fuel : Nat) (guard : DecisionTraversalGuard) :
    Option (Flow DenyAgenda (List RelationshipTuple)) :=
  worklist (fun next => forOf (denyStep H i next) (i.relationshipsFrom H next.state)) fuel
    (denyStart i guard)

/-! ## The two search spaces -/

def allowSpace : Space AllowState RelationshipTuple BestGrant where
  edges s := i.relationshipsFrom H s.currentId
  usable _ r := i.matchesTenant H r
  goal s r := decide (r.objectId = i.resourceId ∧ (r.relation ∈ i.allowedRelations H ∨
    (r.relation ∈ i.compiledPolicyModel.containmentRelations ∧
      r.relation ∈ i.traversalRelations H ∧ s.hasActionGrant = true)))
  next s r :=
    if r.objectId = i.resourceId ∨ canTraverseRelationship i.compiledPolicyModel
        (i.traversalRelations H) r (r.relation ∈ i.allowedRelations H) s.hasActionGrant = false ∨
        i.isActiveNode H r.objectId = false then none
    else some ⟨r.objectId, s.hasActionGrant || decide (r.relation ∈ i.allowedRelations H)⟩
  covered best s :=
    best.get? s.currentId = some true ∨ best.get? s.currentId = some s.hasActionGrant
  mark best s := best.set s.currentId s.hasActionGrant

def denySpace : Space CanonicalId RelationshipTuple (Finset CanonicalId) where
  edges s := i.relationshipsFrom H s
  usable _ r := i.matchesTenant H r
  goal _ r := decide (r.objectId = i.resourceId ∧ r.relation ∈ i.denyRelations H)
  next _ r :=
    if r.objectId = i.resourceId ∨ canTraverseDenyRelationship i.compiledPolicyModel r = false ∨
        i.isActiveNode H r.objectId = false then none
    else some r.objectId
  covered visited s := s ∈ visited
  mark visited s := insert s visited

end

/-- A state stands for itself, and a node with the grant for the node. -/
def AllowState.le (s t : AllowState) : Prop :=
  s.currentId = t.currentId ∧ (s.hasActionGrant = true → t.hasActionGrant = true)

section
variable {H : Host} {i : TraversalInput}

theorem allowStep_eq (next : AllowQueueEntry) (r : RelationshipTuple) (w : AllowAgenda) :
    allowStep H i next r w =
      (allowSpace H i).relax (guardMeter AllowState.currentId) next r w := by
  unfold allowStep Space.relax
  simp only [guardMeter]
  rcases w.memo.meter.recordRelationshipScan with ⟨_ | _, g⟩
  · rfl
  by_cases ht : i.matchesTenant H r = false
  · simp [allowSpace, ht]
  have ht : i.matchesTenant H r = true := by simpa using ht
  simp only [allowSpace, ht, Bool.true_eq_false, if_false]
  rcases g.recordDepth (next.depth + 1) with ⟨_ | _, g⟩
  · rfl
  by_cases hres : r.objectId = i.resourceId
  · by_cases hg : r.relation ∈ i.allowedRelations H
    · simp [hres, hg, buildAllowPath]
    · by_cases hc : r.relation ∈ i.compiledPolicyModel.containmentRelations ∧
        r.relation ∈ i.traversalRelations H ∧ next.state.hasActionGrant = true
      · simp [hres, hg, hc, buildAllowPath]
      · simp [hres, hg, hc]
  · simp only [hres, false_and, and_false, if_false, false_or, decide_false, Bool.false_eq_true]
    by_cases hn : canTraverseRelationship i.compiledPolicyModel (i.traversalRelations H) r
        (decide (r.relation ∈ i.allowedRelations H)) next.state.hasActionGrant = false ∨
        i.isActiveNode H r.objectId = false
    · simp only [if_pos hn]
    · simp only [if_neg hn, ne_eq, ← not_or, decide_eq_true_eq, ite_not]
      split
      · rfl
      · rcases g.recordVisitedNode r.objectId with ⟨_ | _, g⟩ <;> rfl

theorem denyStep_eq (next : DenyQueueEntry) (r : RelationshipTuple) (w : DenyAgenda) :
    denyStep H i next r w = (denySpace H i).relax (guardMeter id) next r w := by
  unfold denyStep Space.relax
  simp only [guardMeter]
  rcases w.memo.meter.recordRelationshipScan with ⟨_ | _, g⟩
  · rfl
  by_cases ht : i.matchesTenant H r = false
  · simp [denySpace, ht]
  have ht : i.matchesTenant H r = true := by simpa using ht
  simp only [denySpace, ht, Bool.true_eq_false, if_false]
  rcases g.recordDepth (next.depth + 1) with ⟨_ | _, g⟩
  · rfl
  simp only [decide_eq_true_eq]
  split
  · rfl
  · by_cases hn : r.objectId = i.resourceId ∨
        canTraverseDenyRelationship i.compiledPolicyModel r = false ∨
        i.isActiveNode H r.objectId = false
    · simp only [if_pos hn]
    · simp only [if_neg hn, ite_not, id_eq]
      split
      · rfl
      · rcases g.recordVisitedNode r.objectId with ⟨_ | _, g⟩ <;> rfl

/-! ## The searches are instances of the library's -/

theorem allowLoop_eq (fuel : Nat) (guard : DecisionTraversalGuard) : allowLoop H i fuel guard =
    (allowSpace H i).search (guardMeter AllowState.currentId) fuel (allowStart i guard) := by
  have : allowStep H i = (allowSpace H i).relax (guardMeter AllowState.currentId) := by
    funext next r w; exact allowStep_eq next r w
  simp only [allowLoop, this]
  rfl

theorem denyLoop_eq (fuel : Nat) (guard : DecisionTraversalGuard) : denyLoop H i fuel guard =
    (denySpace H i).search (guardMeter id) fuel (denyStart i guard) := by
  have : denyStep H i = (denySpace H i).relax (guardMeter id) := by
    funext next r w; exact denyStep_eq next r w
  simp only [denyLoop, this]
  rfl

/-- Fuel that a search of this guard never uses up. -/
def searchFuel (guard : DecisionTraversalGuard) : Nat := guard.scansLeft + 2

/-- **The allow loop ends.** -/
theorem allowLoop_isSome {fuel : Nat} {guard : DecisionTraversalGuard}
    (h : searchFuel guard ≤ fuel) : (allowLoop H i fuel guard).isSome := by
  rw [allowLoop_eq]
  refine Space.search_isSome (guardMeter_draining AllowState.currentId) ?_
  simp only [Space.budget, allowStart, Space.start, List.length_singleton]
  unfold searchFuel at h
  omega

/-- **The deny loop ends.** -/
theorem denyLoop_isSome {fuel : Nat} {guard : DecisionTraversalGuard}
    (h : searchFuel guard ≤ fuel) : (denyLoop H i fuel guard).isSome := by
  rw [denyLoop_eq]
  refine Space.search_isSome (guardMeter_draining id) ?_
  simp only [Space.budget, denyStart, Space.start, List.length_singleton]
  unfold searchFuel at h
  omega

end

/-- The guard and the path a loop leaves behind; a loop that ran dry returns
`emptyRelationshipTraversalPath()`. -/
def traversalResult {S C : Type} :
    Flow (Agenda (Entry S RelationshipTuple) (Memo C DecisionTraversalGuard))
      (List RelationshipTuple) → DecisionTraversalGuard × RelationshipTraversalPath
  | .step w => (w.memo.meter, ⟨[]⟩)
  | .stop w relationships => (w.memo.meter, ⟨relationships⟩)

/-- mirrors packages/core/src/engine.ts:666-752 -/
def findAllowPath (H : Host) (i : TraversalInput) (guard : DecisionTraversalGuard) :
    DecisionTraversalGuard × RelationshipTraversalPath :=
  traversalResult ((allowLoop H i (searchFuel guard) guard).get (allowLoop_isSome (Nat.le_refl _)))

/-- mirrors packages/core/src/engine.ts:754-812 -/
def findDenyPath (H : Host) (i : TraversalInput) (guard : DecisionTraversalGuard) :
    DecisionTraversalGuard × RelationshipTraversalPath :=
  traversalResult ((denyLoop H i (searchFuel guard) guard).get (denyLoop_isSome (Nat.le_refl _)))

/-! ## Pruning is sound -/

section
variable {H : Host} {i : TraversalInput}

/-- The way on from a node is still open when the way to it grants more. -/
theorem canTraverse_mono {c : CompiledPolicyModel} {T : Finset String} {r : RelationshipTuple}
    {grants h h' : Bool} (hle : h = true → h' = true)
    (ht : canTraverseRelationship c T r grants h = true) :
    canTraverseRelationship c T r grants h' = true := by
  unfold canTraverseRelationship at ht ⊢
  split
  · rename_i hm
    rwa [if_pos hm] at ht
  · rename_i hm
    rw [if_neg hm] at ht
    split
    · rename_i hc
      rw [if_pos hc, Bool.and_eq_true] at ht
      rw [Bool.and_eq_true]
      exact ⟨ht.1, hle ht.2⟩
    · rename_i hc
      rwa [if_neg hc] at ht

theorem allowSpace_next_eq_some {s t : AllowState} {r : RelationshipTuple} :
    (allowSpace H i).next s r = some t ↔ r.objectId ≠ i.resourceId ∧
      canTraverseRelationship i.compiledPolicyModel (i.traversalRelations H) r
        (r.relation ∈ i.allowedRelations H) s.hasActionGrant = true ∧
      i.isActiveNode H r.objectId = true ∧
      t = ⟨r.objectId, s.hasActionGrant || decide (r.relation ∈ i.allowedRelations H)⟩ := by
  simp only [allowSpace]
  split
  · rename_i h
    simp only [reduceCtorEq, false_iff]
    rintro ⟨h1, h2, h3, -⟩
    simp [h1, h2, h3] at h
  · rename_i h
    simp only [not_or, Bool.not_eq_false] at h
    simp only [Option.some.injEq, h, ne_eq, not_false_eq_true, true_and, eq_comm]

theorem denySpace_next_eq_some {s t : CanonicalId} {r : RelationshipTuple} :
    (denySpace H i).next s r = some t ↔ r.objectId ≠ i.resourceId ∧
      canTraverseDenyRelationship i.compiledPolicyModel r = true ∧
      i.isActiveNode H r.objectId = true ∧ t = r.objectId := by
  simp only [denySpace]
  split
  · rename_i h
    simp only [reduceCtorEq, false_iff]
    rintro ⟨h1, h2, h3, -⟩
    simp [h1, h2, h3] at h
  · rename_i h
    simp only [not_or, Bool.not_eq_false] at h
    simp only [Option.some.injEq, h, ne_eq, not_false_eq_true, true_and, eq_comm]

theorem allowSpace_lawful : (allowSpace H i).Lawful AllowState.le where
  refl s := ⟨rfl, id⟩
  trans h h' := ⟨h.1.trans h'.1, fun hs => h'.2 (h.2 hs)⟩
  edges {s t} h r hr := by
    simp only [allowSpace] at hr ⊢
    rwa [← h.1]
  usable _ r hr := hr
  goal {s t} h r hr := by
    simp only [allowSpace, decide_eq_true_eq] at hr ⊢
    obtain ⟨hres, hg | ⟨hc, htr, hs⟩⟩ := hr
    · exact ⟨hres, .inl hg⟩
    · exact ⟨hres, .inr ⟨hc, htr, h.2 hs⟩⟩
  next {s t} h r s' hn := by
    obtain ⟨hres, hct, hact, rfl⟩ := allowSpace_next_eq_some.1 hn
    refine ⟨_, allowSpace_next_eq_some.2 ⟨hres, canTraverse_mono h.2 hct, hact, rfl⟩, rfl, ?_⟩
    simp only [Bool.or_eq_true]
    exact fun hs => hs.imp_left h.2
  mark {c s t} hc hs := by
    simp only [allowSpace, decide_eq_true_eq, decide_eq_false_iff_not, OrderedMap.get?_set] at hc hs
    by_cases hid : t.currentId = s.currentId
    · -- the entry of this node is the new one
      rw [if_pos hid] at hs
      refine .inr ⟨hid.symm, fun hg => ?_⟩
      rcases hs with hs | hs
      · simpa using hs
      · rw [hg] at hs; simpa using hs
    · rw [if_neg hid] at hs
      exact .inl (by simpa [allowSpace] using hs)

theorem denySpace_lawful : (denySpace H i).Lawful (· = ·) where
  refl _ := rfl
  trans h h' := h.trans h'
  edges h r hr := by subst h; exact hr
  usable h r hr := by subst h; exact hr
  goal h r hr := by subst h; exact hr
  next h r s' hn := by subst h; exact ⟨s', hn, rfl⟩
  mark {c s t} _ hs := by
    simp only [denySpace, decide_eq_true_eq, Finset.mem_insert] at hs ⊢
    exact hs.symm

/-! ## What the searches return -/

/-- A walk that grants the action on the resource. -/
def AllowWalk (H : Host) (i : TraversalInput) (path : List RelationshipTuple) : Prop :=
  (allowSpace H i).GoalWalk ⟨i.subjectId, false⟩ path

/-- A walk that ends in an explicit deny on the resource. -/
def DenyWalk (H : Host) (i : TraversalInput) (path : List RelationshipTuple) : Prop :=
  (denySpace H i).GoalWalk i.subjectId path

/-- What a search may return under a guard: no path after a refusal or when
there is no walk, else a shortest walk. -/
structure SearchResult (isWalk : List RelationshipTuple → Prop) (guard : DecisionTraversalGuard)
    (path : List RelationshipTuple) : Prop where
  refused : guard.boundsExceeded ≠ none → path = []
  found : path ≠ [] → isWalk path ∧ ∀ p, isWalk p → path.length ≤ p.length
  dry : guard.boundsExceeded = none → path = [] → ∀ p, ¬ isWalk p

theorem goalWalk_ne_nil {S E C : Type} {sp : Space S E C} {root : S} {p : List E}
    (h : sp.GoalWalk root p) : p ≠ [] := by
  obtain ⟨trail, s, x, rfl, -⟩ := h
  simp

theorem searchResult_of_holds {S C : Type} {sp : Space S RelationshipTuple C} {nodeOf : S → String}
    {root : S} {out : Flow (Agenda (Entry S RelationshipTuple) (Memo C DecisionTraversalGuard))
      (List RelationshipTuple)}
    (h : out.Holds (sp.Exhausted (guardMeter nodeOf) root) (sp.Answered (guardMeter nodeOf) root)) :
    SearchResult (sp.GoalWalk root) (traversalResult out).1
      (traversalResult out).2.relationships := by
  cases out with
  | step w =>
    exact ⟨fun _ => rfl, fun hne => absurd rfl hne, fun _ _ => h.2⟩
  | stop w p =>
    rcases h with ⟨rfl, hno⟩ | ⟨hok, hw, hmin⟩
    · exact ⟨fun _ => rfl, fun hne => absurd rfl hne, fun hok => absurd hok hno⟩
    · exact ⟨fun hno => absurd hok hno, fun _ => ⟨hw, hmin⟩,
        fun _ hp => absurd hp (goalWalk_ne_nil hw)⟩

/-- **The allow search** under a guard that has not been exceeded. -/
theorem findAllowPath_spec {guard : DecisionTraversalGuard} (hg : guard.boundsExceeded = none) :
    SearchResult (AllowWalk H i) (findAllowPath H i guard).1
      (findAllowPath H i guard).2.relationships := by
  have h := allowLoop_eq (H := H) (i := i) (searchFuel guard) guard
  rw [← Option.some_get (allowLoop_isSome (Nat.le_refl (searchFuel guard)))] at h
  refine searchResult_of_holds (Space.search_spec allowSpace_lawful ?_ hg h.symm)
  intro s hs
  simp only [allowSpace, decide_eq_true_eq, OrderedMap.get?_set, OrderedMap.get?_empty] at hs
  split at hs
  · rename_i hid
    refine ⟨hid.symm, fun hg => ?_⟩
    rw [hg] at hs
    simp at hs
  · simp at hs

/-- **The deny search** under a guard that has not been exceeded. -/
theorem findDenyPath_spec {guard : DecisionTraversalGuard} (hg : guard.boundsExceeded = none) :
    SearchResult (DenyWalk H i) (findDenyPath H i guard).1
      (findDenyPath H i guard).2.relationships := by
  have h := denyLoop_eq (H := H) (i := i) (searchFuel guard) guard
  rw [← Option.some_get (denyLoop_isSome (Nat.le_refl (searchFuel guard)))] at h
  refine searchResult_of_holds (Space.search_spec denySpace_lawful ?_ hg h.symm)
  intro s hs
  simpa [denySpace] using hs

theorem traversalResult_guard {S C : Type}
    (out : Flow (Agenda (Entry S RelationshipTuple) (Memo C DecisionTraversalGuard))
      (List RelationshipTuple)) : (traversalResult out).1 = out.state.memo.meter := by
  cases out <;> rfl

/-- What every operation of the guard keeps, both searches keep. -/
theorem findAllowPath_keeps {P : DecisionTraversalGuard → Prop}
    (hP : (guardMeter AllowState.currentId).Keeps P) {guard : DecisionTraversalGuard}
    (h : P guard) : P (findAllowPath H i guard).1 := by
  have he := allowLoop_eq (H := H) (i := i) (searchFuel guard) guard
  rw [← Option.some_get (allowLoop_isSome (Nat.le_refl (searchFuel guard)))] at he
  rw [findAllowPath, traversalResult_guard]
  exact Space.search_meter hP h he.symm

theorem findDenyPath_keeps {P : DecisionTraversalGuard → Prop} (hP : (guardMeter id).Keeps P)
    {guard : DecisionTraversalGuard} (h : P guard) : P (findDenyPath H i guard).1 := by
  have he := denyLoop_eq (H := H) (i := i) (searchFuel guard) guard
  rw [← Option.some_get (denyLoop_isSome (Nat.le_refl (searchFuel guard)))] at he
  rw [findDenyPath, traversalResult_guard]
  exact Space.search_meter hP h he.symm

/-! ## Searches that look alike -/

/-- Two searches that were not refused, over spaces whose live edges are the
same from the root on, return the same path. -/
theorem traversalResult_congr {S C : Type} {sp sp' : Space S RelationshipTuple C}
    {nodeOf : S → String} {root : S} (ha : Space.Alike sp.live sp'.live root) {seen : C}
    {g g' : DecisionTraversalGuard} {n n' : Nat}
    {out out' : Flow (Agenda (Entry S RelationshipTuple) (Memo C DecisionTraversalGuard))
      (List RelationshipTuple)}
    (h : sp.search (guardMeter nodeOf) n (Space.start root seen g) = some out)
    (h' : sp'.search (guardMeter nodeOf) n' (Space.start root seen g') = some out')
    (hok : (traversalResult out).1.boundsExceeded = none)
    (hok' : (traversalResult out').1.boundsExceeded = none) :
    (traversalResult out).2 = (traversalResult out').2 := by
  rw [traversalResult_guard] at hok hok'
  have hf := Space.search_mono (Space.search_free h hok) (Nat.le_max_left n n')
  have hf' := Space.search_mono (Space.search_free h' hok') (Nat.le_max_right n n')
  have hsees : Space.Sees sp.live root (Space.start root seen ()) := Space.sees_start
  have hc := Space.search_congr (m := Meter.free S) ha (max n n') hsees
  have hout : Space.forgetFlow out = Space.forgetFlow out' :=
    Option.some.inj (hf.symm.trans (hc.trans hf'))
  cases out <;> cases out' <;> simp_all [Space.forgetFlow, traversalResult]

theorem findAllowPath_congr {j : TraversalInput} (hroot : j.subjectId = i.subjectId)
    (ha : Space.Alike (allowSpace H i).live (allowSpace H j).live ⟨i.subjectId, false⟩)
    {g g' : DecisionTraversalGuard} (hok : (findAllowPath H i g).1.boundsExceeded = none)
    (hok' : (findAllowPath H j g').1.boundsExceeded = none) :
    (findAllowPath H i g).2 = (findAllowPath H j g').2 := by
  have h := allowLoop_eq (H := H) (i := i) (searchFuel g) g
  have h' := allowLoop_eq (H := H) (i := j) (searchFuel g') g'
  rw [← Option.some_get (allowLoop_isSome (Nat.le_refl (searchFuel g)))] at h
  rw [← Option.some_get (allowLoop_isSome (Nat.le_refl (searchFuel g')))] at h'
  simp only [allowStart, hroot] at h'
  exact traversalResult_congr ha h.symm h'.symm hok hok'

theorem findDenyPath_congr {j : TraversalInput} (hroot : j.subjectId = i.subjectId)
    (ha : Space.Alike (denySpace H i).live (denySpace H j).live i.subjectId)
    {g g' : DecisionTraversalGuard} (hok : (findDenyPath H i g).1.boundsExceeded = none)
    (hok' : (findDenyPath H j g').1.boundsExceeded = none) :
    (findDenyPath H i g).2 = (findDenyPath H j g').2 := by
  have h := denyLoop_eq (H := H) (i := i) (searchFuel g) g
  have h' := denyLoop_eq (H := H) (i := j) (searchFuel g') g'
  rw [← Option.some_get (denyLoop_isSome (Nat.le_refl (searchFuel g)))] at h
  rw [← Option.some_get (denyLoop_isSome (Nat.le_refl (searchFuel g')))] at h'
  simp only [denyStart, hroot] at h'
  exact traversalResult_congr ha h.symm h'.symm hok hok'

theorem findAllowPath_space {j : TraversalInput} (hroot : j.subjectId = i.subjectId)
    (h : allowSpace H j = allowSpace H i) : findAllowPath H j = findAllowPath H i := by
  have hloop : ∀ fuel guard, allowLoop H j fuel guard = allowLoop H i fuel guard := by
    intro fuel guard
    rw [allowLoop_eq, allowLoop_eq, h, allowStart, allowStart, hroot]
  funext guard
  simp only [findAllowPath, hloop]

theorem findDenyPath_space {j : TraversalInput} (hroot : j.subjectId = i.subjectId)
    (h : denySpace H j = denySpace H i) : findDenyPath H j = findDenyPath H i := by
  have hloop : ∀ fuel guard, denyLoop H j fuel guard = denyLoop H i fuel guard := by
    intro fuel guard
    rw [denyLoop_eq, denyLoop_eq, h, denyStart, denyStart, hroot]
  funext guard
  simp only [findDenyPath, hloop]

/-! ## The action of a search -/

/-- The same search for another action. -/
def TraversalInput.acting (i : TraversalInput) (action : String) : TraversalInput :=
  { i with action := action }

/-- The searches see an action through its lower case only. -/
theorem findDenyPath_action {action : String}
    (h : toLowerCase H action = toLowerCase H i.action) :
    findDenyPath H (i.acting action) = findDenyPath H i := by
  have hd : (i.acting action).denyRelations H = i.denyRelations H :=
    congrArg i.compiledPolicyModel.denies h
  refine findDenyPath_space rfl ?_
  simp only [denySpace, hd]
  rfl

theorem findAllowPath_action {action : String}
    (h : toLowerCase H action = toLowerCase H i.action) :
    findAllowPath H (i.acting action) = findAllowPath H i := by
  have hr : (i.acting action).allowedRelations H = i.allowedRelations H :=
    congrArg i.compiledPolicyModel.grants h
  have ht : (i.acting action).traversalRelations H = i.traversalRelations H :=
    congrArg i.compiledPolicyModel.traversals h
  refine findAllowPath_space rfl ?_
  simp only [allowSpace, hr, ht]
  rfl

end

end AccessKit.L4
