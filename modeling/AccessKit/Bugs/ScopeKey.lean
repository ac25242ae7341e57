import AccessKit.L2Graph.Fixtures
import AccessKit.L4Engine.ScopeCache

/-!
# Two scopes under one key

Status: open. The engine keeps its active lists under the text
`revision NUL asOf NUL tupleVersion` (packages/core/src/engine.ts:351), and
neither of the two strings of the request is kept from containing a NUL: the
engine takes every `asOf` that `Date.parse` reads (packages/core/src/engine.ts:
205-211), and the reader of V8 stops at a NUL. The HTTP API lets only
date-times in (packages/api/src/request-schemas.ts:21-25, 158); the engine and
the playground are called with any request.

Counterexample: a check at `…Z NUL v9` without a tuple version, then one at
`…Z` with the tuple version `v9 NUL`. No tuple has that version, and the second
check is allowed through the lists of the first (`foreign_lists_served`).

Exact condition: the scope a check finds under its key was made for its own
instant and tuple version (`coherent_of_neverClashes`); that is so whenever no
instant contains a NUL (`neverClashes_of_plain`). The index and the revision
are never out of step.
-/
namespace AccessKit.Bugs.ScopeKey
open AccessKit.Core AccessKit.L1 AccessKit.L2.Store AccessKit.L2.Store.InMemoryRebacStore
  AccessKit.L2.Fixtures AccessKit.L3 AccessKit.L4

/-- The index lists for a subject the stored tuples that start there, each as
it is stored, and once. -/
structure IndexCoherent (st : InMemoryRebacStore) : Prop where
  listed : ∀ s r, r ∈ st.listRelationshipsForSubject s ↔
    st.getRelationship r.id = some r ∧ r.subjectId = s
  once : ∀ s, ((st.listRelationshipsForSubject s).map (·.id)).Nodup

/-- In every state of the run the index is coherent, and every check of the run
decides on the current graph over lists of the current graph. -/
def CoherentRun (H : Host) (s : CachingEngine) : List EngineOp → Prop
  | [] => IndexCoherent s.store
  | .write w :: ops => IndexCoherent s.store ∧ CoherentRun H (s.step H (.write w)) ops
  | .check request evaluatedAt :: ops => IndexCoherent s.store ∧
      DecidesFresh H s request evaluatedAt ∧
      CoherentRun H (s.step H (.check request evaluatedAt)) ops

/-- No check of the run finds a foreign scope under its key. -/
def NeverClashes (H : Host) (s : CachingEngine) : List EngineOp → Prop
  | [] => True
  | .write w :: ops => NeverClashes H (s.step H (.write w)) ops
  | .check request evaluatedAt :: ops => NoClash H s request evaluatedAt ∧
      NeverClashes H (s.step H (.check request evaluatedAt)) ops

/-! ## The counterexample -/

/-- A host that reads a date up to a NUL. -/
def nulHost : Host :=
  { plainHost with dateLegacy := fun s => parseIso (s.toList.takeWhile (· ≠ '\x00')) }

/-- No tuple version is asked for. -/
def unpinned : DecisionRequest := { writePlan with asOf := some (timestamp ++ "\x00v9") }

/-- A tuple version that no tuple has. -/
def pinned : DecisionRequest :=
  { writePlan with asOf := some timestamp, tupleVersion := some "v9\x00" }

/-- The engine after the first check. -/
def afterUnpinned : CachingEngine :=
  (CachingEngine.new nulHost {} localStore).step nulHost (.check unpinned timestamp)

/-- **Counterexample**: the second check is allowed through lists of the
first; decided by itself it is denied. -/
theorem foreign_lists_served :
    ((afterUnpinned.check nulHost pinned timestamp).context.decision = .allow ∧
      (evaluate nulHost afterUnpinned.engine afterUnpinned.store pinned timestamp).decision =
        .deny) ∧
    ¬ CoherentRun nulHost (.new nulHost {} localStore)
      [.check unpinned timestamp, .check pinned timestamp] := by
  have hallow : (afterUnpinned.check nulHost pinned timestamp).context.decision = .allow := by
    decide +kernel
  have hdeny : (evaluate nulHost afterUnpinned.engine afterUnpinned.store pinned
      timestamp).decision = .deny := by
    decide +kernel
  refine ⟨⟨hallow, hdeny⟩, fun h => ?_⟩
  obtain ⟨-, -, -, hfresh, -⟩ := h
  have hdec := congrArg DecisionContext.decision hfresh.decision
  have hboth : DecisionValue.allow = .deny := hallow.symm.trans (hdec.trans hdeny)
  cases hboth

/-! ## When the lists are right -/

section
variable {H : Host} {s : CachingEngine}

theorem indexCoherent (st : InMemoryRebacStore) : IndexCoherent st where
  listed _ _ := mem_listRelationshipsForSubject
  once := st.listRelationshipsForSubject_nodup

theorem coherentRun_of_fresh (hf : Fresh H s) {ops : List EngineOp} (h : NeverClashes H s ops) :
    CoherentRun H s ops := by
  induction ops generalizing s with
  | nil => exact indexCoherent s.store
  | cons op ops ih =>
    cases op with
    | write w => exact ⟨indexCoherent s.store, ih (hf.write w) h⟩
    | check request evaluatedAt =>
      exact ⟨indexCoherent s.store, check_of_noClash hf h.1,
        ih (hf.check request evaluatedAt) h.2⟩

/-- **When the lists are right**: in every run in which no check finds a
foreign scope under its key. -/
theorem coherent_of_neverClashes (H : Host) (options : DecisionEngineOptions)
    (st : InMemoryRebacStore) (ops : List EngineOp)
    (h : NeverClashes H (.new H options st) ops) : CoherentRun H (.new H options st) ops :=
  coherentRun_of_fresh (fresh_new H options st) h

theorem neverClashes_of_plain (hf : Fresh H s) (hk : KeepsPlain s) {ops : List EngineOp}
    (h : PlainChecks ops) : NeverClashes H s ops := by
  induction ops generalizing s with
  | nil => trivial
  | cons op ops ih =>
    have htail : PlainChecks ops := fun q t hq => h q t (List.mem_cons_of_mem _ hq)
    cases op with
    | write w => exact ih (s := s.step H (.write w)) (hf.write w) hk htail
    | check q t =>
      have hp := h q t List.mem_cons_self
      exact ⟨noClash_of_plain hf hk hp, ih (hf.check q t) (hk.check hp) htail⟩

/-- A run with both kinds of step: Alice writes the plan, loses the membership
and asks again. -/
theorem revocation_seen : CoherentRun plainHost (.new plainHost {} localStore)
    [.check writePlan timestamp, .write (.deleteRelationship aliceCaseTeam.id timestamp),
      .check writePlan timestamp] := by
  refine coherent_of_neverClashes plainHost {} localStore _ (neverClashes_of_plain
    (fresh_new plainHost {} localStore) (fun _ _ h => by cases h) ?_)
  intro q t hq
  have hq : q = writePlan ∧ t = timestamp := by
    simp only [List.mem_cons, EngineOp.check.injEq, reduceCtorEq, List.not_mem_nil, or_false,
      false_or, or_self] at hq
    exact hq
  rw [hq.1, hq.2]
  unfold Plain
  decide

end

end AccessKit.Bugs.ScopeKey
