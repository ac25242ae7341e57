import Mathlib.Algebra.BigOperators.Ring.Finset
import Mathlib.Algebra.Order.BigOperators.Group.Finset
import AccessKit.Core.Budget
import AccessKit.L4Engine.Reachability

/-!
# Small graphs never exceed the bounds

A search of `n` tuples that point to `k` nodes expands every node once (deny)
or twice (allow: with and without the grant), so that the two searches of a
decision scan at most `5 n + 3 k` edges, go at most `2 (n + k) + 1` deep and
see at most `3 (n + k)` new nodes.

Results:
* `denySpace_lowers`, `allowSpace_lowers`: the potentials of the two pruning
  tables.
* `decision_within`: no decision over such a graph exceeds bounds of that size.
-/
namespace AccessKit.L4
open AccessKit.Core AccessKit.L1 AccessKit.L2.Store AccessKit.L3

/-! ## The guard's allowances -/

namespace DecisionTraversalGuard

def depthLeft (g : DecisionTraversalGuard) : Nat := g.bounds.maxDepth

def visitsLeft (g : DecisionTraversalGuard) : Nat := g.bounds.maxVisitedNodes - g.visitedNodes.card

theorem requireWithinBound_of_le {g : DecisionTraversalGuard} {bound : DecisionTraversalBound}
    {value : Nat} (h : value ≤ g.bounds.get bound) :
    g.requireWithinBound bound value = (true, g) := if_pos h

end DecisionTraversalGuard

theorem guardMeter_grants {S : Type} (nodeOf : S → String) :
    Space.Grants (guardMeter nodeOf) DecisionTraversalGuard.scansLeft
      DecisionTraversalGuard.depthLeft DecisionTraversalGuard.visitsLeft where
  scan g h := by
    simp only [DecisionTraversalGuard.scansLeft] at h
    have hle : g.relationshipScans + 1 ≤ g.bounds.maxRelationshipScans := by omega
    simp only [guardMeter, DecisionTraversalGuard.recordRelationshipScan]
    rw [DecisionTraversalGuard.requireWithinBound_of_le hle]
    simp only [DecisionTraversalGuard.scansLeft, DecisionTraversalGuard.depthLeft,
      DecisionTraversalGuard.visitsLeft, true_and, and_true]
    omega
  deepen d g h := by
    simp only [guardMeter, DecisionTraversalGuard.recordDepth]
    rw [DecisionTraversalGuard.requireWithinBound_of_le h]
    simp only [DecisionTraversalGuard.scansLeft, DecisionTraversalGuard.depthLeft,
      DecisionTraversalGuard.visitsLeft, and_self]
  visit s g h := by
    simp only [DecisionTraversalGuard.visitsLeft] at h
    have hcard := Finset.card_insert_le (nodeOf s) g.visitedNodes
    have hle : (insert (nodeOf s) g.visitedNodes).card ≤ g.bounds.maxVisitedNodes := by omega
    simp only [guardMeter, DecisionTraversalGuard.recordVisitedNode]
    rw [DecisionTraversalGuard.requireWithinBound_of_le hle]
    simp only [DecisionTraversalGuard.scansLeft, DecisionTraversalGuard.depthLeft,
      DecisionTraversalGuard.visitsLeft, true_and]
    omega

/-! ## The potentials -/

section
variable (H : Host) (i : TraversalInput)

/-- The nodes a tuple points to: all that a search can enter. -/
def targets : Finset CanonicalId := (i.store.listRelationships.map (·.objectId)).toFinset

/-- What expanding a node costs: its edges and the node itself. -/
def nodeCost (id : CanonicalId) : Nat := (i.relationshipsFrom H id).length + 1

/-- Every node that was not visited will be expanded once. -/
def denyPotential (visited : Finset CanonicalId) : Nat :=
  ∑ id ∈ targets i \ visited, nodeCost H i id

/-- How often a node can still be entered: with and without the grant. -/
def entriesLeft : Option Bool → Nat
  | none => 2
  | some false => 1
  | some true => 0

def allowPotential (best : BestGrant) : Nat :=
  ∑ id ∈ targets i, entriesLeft (best.get? id) * nodeCost H i id

end

section
variable {H : Host} {i : TraversalInput}

theorem mem_targets {id : CanonicalId} {r : RelationshipTuple}
    (hr : r ∈ i.relationshipsFrom H id) : r.objectId ∈ targets i := by
  have hlist := (List.mem_filter.1 hr).1
  have hstored := (InMemoryRebacStore.mem_listRelationshipsForSubject.1 hlist).1
  exact List.mem_toFinset.2 (List.mem_map.2
    ⟨r, InMemoryRebacStore.mem_listRelationships.2 hstored, rfl⟩)

theorem denySpace_lowers : (denySpace H i).Lowers (denyPotential H i) := by
  intro visited s r t hr hn hc
  obtain ⟨-, -, -, rfl⟩ := denySpace_next_eq_some.1 hn
  have hnew : r.objectId ∉ visited := by simpa [denySpace] using hc
  have hmem : r.objectId ∈ targets i \ visited :=
    Finset.mem_sdiff.2 ⟨mem_targets hr, hnew⟩
  have hsplit := Finset.add_sum_erase _ (nodeCost H i) hmem
  simp only [denyPotential, denySpace, Finset.sdiff_insert]
  have hcost : nodeCost H i r.objectId = (i.relationshipsFrom H r.objectId).length + 1 := rfl
  omega

theorem entriesLeft_lowers {old : Option Bool} {granted : Bool} (h : old ≠ some true)
    (h' : old ≠ some granted) : entriesLeft (some granted) + 1 ≤ entriesLeft old := by
  match old, granted with
  | none, true => decide
  | none, false => decide
  | some false, true => decide
  | some false, false => exact absurd rfl h'
  | some true, _ => exact absurd rfl h

theorem allowSpace_lowers : (allowSpace H i).Lowers (allowPotential H i) := by
  intro best s r t hr hn hc
  obtain ⟨-, -, -, rfl⟩ := allowSpace_next_eq_some.1 hn
  simp only [allowSpace, decide_eq_false_iff_not, not_or] at hc
  have hmem : r.objectId ∈ targets i := mem_targets hr
  have hrank := entriesLeft_lowers hc.1 hc.2
  have hnew := Finset.add_sum_erase _ (fun id => entriesLeft (((allowSpace H i).mark best
    ⟨r.objectId, s.hasActionGrant || decide (r.relation ∈ i.allowedRelations H)⟩).get? id) *
      nodeCost H i id) hmem
  have hold := Finset.add_sum_erase _
    (fun id => entriesLeft (best.get? id) * nodeCost H i id) hmem
  have hrest : ∑ id ∈ (targets i).erase r.objectId, entriesLeft (((allowSpace H i).mark best
      ⟨r.objectId, s.hasActionGrant || decide (r.relation ∈ i.allowedRelations H)⟩).get? id) *
        nodeCost H i id =
      ∑ id ∈ (targets i).erase r.objectId, entriesLeft (best.get? id) * nodeCost H i id := by
    refine Finset.sum_congr rfl fun id hid => ?_
    have hne : r.objectId ≠ id := (Finset.ne_of_mem_erase hid).symm
    simp only [allowSpace, OrderedMap.get?_set, if_neg hne]
  have hself : ((allowSpace H i).mark best
      ⟨r.objectId, s.hasActionGrant || decide (r.relation ∈ i.allowedRelations H)⟩).get?
        r.objectId = some (s.hasActionGrant || decide (r.relation ∈ i.allowedRelations H)) := by
    simp only [allowSpace, OrderedMap.get?_set_self]
  simp only [hself] at hnew
  have hcost : nodeCost H i r.objectId = (i.relationshipsFrom H r.objectId).length + 1 := rfl
  have hmul := Nat.mul_le_mul_right (nodeCost H i r.objectId) hrank
  rw [Nat.add_mul, Nat.one_mul] at hmul
  simp only [allowPotential]
  rw [← hnew, ← hold, hrest]
  simp only [allowSpace] at hmul ⊢
  omega

/-! ## How large they are -/

theorem sum_filter_length_le (U : Finset CanonicalId) (l : List RelationshipTuple) :
    ∑ id ∈ U, (l.filter fun r => r.subjectId = id).length ≤ l.length := by
  induction l with
  | nil => simp
  | cons r l ih =>
    have hone : ∀ id, ((r :: l).filter fun r => r.subjectId = id).length =
        (l.filter fun r => r.subjectId = id).length + if r.subjectId = id then 1 else 0 := by
      intro id
      by_cases h : r.subjectId = id <;> simp [h]
    simp only [hone, Finset.sum_add_distrib, Finset.sum_ite_eq, List.length_cons]
    split <;> omega

/-- The edges of all nodes together are at most the stored tuples. -/
theorem sum_relationshipsFrom_le (U : Finset CanonicalId) :
    ∑ id ∈ U, (i.relationshipsFrom H id).length ≤ i.store.listRelationships.length := by
  refine le_trans (Finset.sum_le_sum fun id _ => ?_)
    (sum_filter_length_le U i.store.listRelationships)
  refine le_trans (List.length_filter_le _ _) (le_of_eq ?_)
  exact (i.store.indexed id).length_eq

theorem relationshipsFrom_length_le (id : CanonicalId) :
    (i.relationshipsFrom H id).length ≤ i.store.listRelationships.length := by
  have h := sum_relationshipsFrom_le (H := H) (i := i) {id}
  rwa [Finset.sum_singleton] at h

theorem sum_nodeCost_le : ∑ id ∈ targets i, nodeCost H i id ≤
    i.store.listRelationships.length + (targets i).card := by
  have hedges := sum_relationshipsFrom_le (H := H) (i := i) (targets i)
  simp only [nodeCost, Finset.sum_add_distrib, ← Finset.card_eq_sum_ones]
  omega

theorem denyPotential_le (visited : Finset CanonicalId) :
    denyPotential H i visited ≤ i.store.listRelationships.length + (targets i).card :=
  le_trans (Finset.sum_le_sum_of_subset Finset.sdiff_subset) sum_nodeCost_le

theorem allowPotential_le (best : BestGrant) :
    allowPotential H i best ≤ 2 * (i.store.listRelationships.length + (targets i).card) := by
  have hle : allowPotential H i best ≤ ∑ id ∈ targets i, 2 * nodeCost H i id := by
    refine Finset.sum_le_sum fun id _ => Nat.mul_le_mul_right _ ?_
    unfold entriesLeft
    split <;> omega
  rw [← Finset.mul_sum] at hle
  have := sum_nodeCost_le (H := H) (i := i)
  omega

/-! ## The searches of a small graph -/

theorem findDenyPath_granted {g : DecisionTraversalGuard} (hok : g.boundsExceeded = none)
    {n k a v : Nat} (hn : i.store.listRelationships.length ≤ n) (hk : (targets i).card ≤ k)
    (hs : 2 * n + k + a ≤ g.scansLeft) (hd : n + k + 1 ≤ g.bounds.maxDepth)
    (hv : n + k + v ≤ g.visitsLeft) :
    Space.Left (guardMeter (S := CanonicalId) id) DecisionTraversalGuard.scansLeft
      DecisionTraversalGuard.depthLeft DecisionTraversalGuard.visitsLeft a g.bounds.maxDepth v
      ((denyLoop H i (searchFuel g) g).get (denyLoop_isSome (Nat.le_refl _))).state := by
  have he := denyLoop_eq (H := H) (i := i) (searchFuel g) g
  rw [← Option.some_get (denyLoop_isSome (Nat.le_refl (searchFuel g)))] at he
  have hpot := denyPotential_le (H := H) (i := i) {i.subjectId}
  have hroot := relationshipsFrom_length_le (H := H) (i := i) i.subjectId
  have hedges : ((denySpace H i).edges i.subjectId).length =
      (i.relationshipsFrom H i.subjectId).length := rfl
  have hdepth : g.depthLeft = g.bounds.maxDepth := rfl
  exact Space.search_granted (guardMeter_grants id) denySpace_lowers hok (by omega) (by omega)
    (Nat.le_refl _) (by omega) he.symm

theorem findAllowPath_granted {g : DecisionTraversalGuard} (hok : g.boundsExceeded = none)
    {n k : Nat} (hn : i.store.listRelationships.length ≤ n) (hk : (targets i).card ≤ k)
    (hs : 3 * n + 2 * k ≤ g.scansLeft) (hd : 2 * (n + k) + 1 ≤ g.bounds.maxDepth)
    (hv : 2 * (n + k) ≤ g.visitsLeft) :
    (findAllowPath H i g).1.boundsExceeded = none := by
  have he := allowLoop_eq (H := H) (i := i) (searchFuel g) g
  rw [← Option.some_get (allowLoop_isSome (Nat.le_refl (searchFuel g)))] at he
  have hpot := allowPotential_le (H := H) (i := i) (OrderedMap.empty.set i.subjectId false)
  have hroot := relationshipsFrom_length_le (H := H) (i := i) i.subjectId
  have hedges : ((allowSpace H i).edges ⟨i.subjectId, false⟩).length =
      (i.relationshipsFrom H i.subjectId).length := rfl
  have hdepth : g.depthLeft = g.bounds.maxDepth := rfl
  rw [findAllowPath, traversalResult_guard]
  have hleft := Space.search_granted (a := 0) (v := 0) (guardMeter_grants AllowState.currentId)
    allowSpace_lowers hok (by omega) (by omega) (Nat.le_refl _) (by omega) he.symm
  exact hleft.ok

end

section
variable {H : Host} {options : DecisionEngineOptions} {st : InMemoryRebacStore}
  {request : DecisionRequest} {evaluatedAt : IsoDateTime}
  {versionPins : DecisionRuntimeVersionPins}

/-- A report names no bound when neither search met one. -/
theorem decidePaths_report {e : RebacDecisionEngine} {a : Admission}
    (hd : (denySearch H e st request versionPins a).1.boundsExceeded = none)
    (ha : (allowSearch H e st request versionPins a).1.boundsExceeded = none) :
    (decidePaths H e st request evaluatedAt versionPins a).traversal.boundsExceeded = none := by
  unfold decidePaths
  simp only [hd, ha, Option.isSome_none, Bool.false_eq_true, if_false]
  split
  · exact hd
  split
  · exact ha
  split <;> exact ha

/-- **Small graphs stay within the bounds**: a graph of `n` tuples that point
to `k` nodes. -/
theorem decision_within {n k : Nat} (hn : st.listRelationships.length ≤ n)
    (hk : (st.listRelationships.map (·.objectId)).toFinset.card ≤ k)
    (hs : 5 * n + 3 * k ≤
      (RebacDecisionEngine.new H options).options.traversalBounds.maxRelationshipScans)
    (hd : 2 * (n + k) + 1 ≤ (RebacDecisionEngine.new H options).options.traversalBounds.maxDepth)
    (hv : 3 * (n + k) + 1 ≤
      (RebacDecisionEngine.new H options).options.traversalBounds.maxVisitedNodes) :
    (buildDecisionContext H (.new H options) st request evaluatedAt
      versionPins).traversal.boundsExceeded = none := by
  have hguard : initialGuard (.new H options) st request =
      ⟨(RebacDecisionEngine.new H options).options.traversalBounds, st.graphSize,
        {request.subjectId}, 0, 0, none⟩ := by
    have hone : 1 ≤ (RebacDecisionEngine.new H options).options.traversalBounds.maxVisitedNodes := by
      omega
    simp only [initialGuard, DecisionTraversalGuard.new, DecisionTraversalGuard.recordVisitedNode,
      insert_empty_eq, Finset.card_singleton]
    rw [DecisionTraversalGuard.requireWithinBound_of_le hone]
  unfold buildDecisionContext
  split
  · simp only [hguard, DecisionTraversalGuard.report]
  rename_i a _
  have hleft := findDenyPath_granted (H := H)
    (i := traversalInput (.new H options) st request versionPins a) (g := initialGuard _ st request)
    (by rw [hguard]) (n := n) (k := k) (a := 3 * n + 2 * k) (v := 2 * (n + k)) hn hk
    (by rw [hguard]; simp only [DecisionTraversalGuard.scansLeft]; omega)
    (by rw [hguard]; simp only; omega)
    (by rw [hguard]; simp only [DecisionTraversalGuard.visitsLeft, Finset.card_singleton]; omega)
  have hdeny : (denySearch H (.new H options) st request versionPins a).1 =
      ((denyLoop H (traversalInput (.new H options) st request versionPins a)
        (searchFuel (initialGuard (.new H options) st request))
        (initialGuard (.new H options) st request)).get
          (denyLoop_isSome (Nat.le_refl _))).state.memo.meter := by
    rw [denySearch, findDenyPath, traversalResult_guard]
  obtain ⟨hok, hscans, hdepth, hvisits⟩ := hleft
  rw [← hdeny] at hok hscans hdepth hvisits
  refine decidePaths_report hok (findAllowPath_granted hok hn hk hscans ?_ hvisits)
  rw [hguard] at hdepth
  simp only [DecisionTraversalGuard.depthLeft] at hdepth
  omega

end

end AccessKit.L4
