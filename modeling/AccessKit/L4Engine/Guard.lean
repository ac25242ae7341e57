import Mathlib.Data.Finset.Card
import AccessKit.Core.Search
import AccessKit.L1Domain.Js
import AccessKit.L2Graph.Store

/-!
# The traversal guard

packages/core/src/decision-runtime.ts:23-181, 397-399: the bounds of a
decision's two searches and the counters that are held against them. A
counter is raised first and compared afterwards; the first bound that is
exceeded stays recorded.

Results:
* `guardMeter`: the guard is a meter in the sense of the search library;
  `guardMeter_draining`: `maxRelationshipScans` is a finite allowance.
* `withinBounds_keeps`: while no bound is recorded as exceeded, every counter
  is within its bound.
* `positiveIntegerOrDefault_pos`: merged bounds are positive.
-/
namespace AccessKit.L4
open AccessKit.Core AccessKit.L1 AccessKit.L2.Store

structure DecisionTraversalBounds where
  maxDepth : Nat
  maxRelationshipScans : Nat
  maxVisitedNodes : Nat
  deriving DecidableEq, Repr

inductive DecisionTraversalBound
  | maxDepth
  | maxRelationshipScans
  | maxVisitedNodes
  deriving DecidableEq, Repr

/-- `bounds[bound]` -/
def DecisionTraversalBounds.get (b : DecisionTraversalBounds) : DecisionTraversalBound → Nat
  | .maxDepth => b.maxDepth
  | .maxRelationshipScans => b.maxRelationshipScans
  | .maxVisitedNodes => b.maxVisitedNodes

/-- mirrors packages/core/src/decision-runtime.ts:90-94 -/
def DEFAULT_DECISION_TRAVERSAL_BOUNDS : DecisionTraversalBounds := ⟨16, 10000, 2000⟩

/-- `Partial<DecisionTraversalBounds>`, with whatever numbers a caller gives. -/
structure TraversalBoundOverrides where
  maxDepth : Option JsNumber := none
  maxRelationshipScans : Option JsNumber := none
  maxVisitedNodes : Option JsNumber := none

/-- mirrors packages/core/src/decision-runtime.ts:397-399 -/
def positiveIntegerOrDefault (value : Option JsNumber) (fallback : Nat) : Nat :=
  match value with
  | some (.fin q) => if q.den = 1 ∧ 0 < q.num then q.num.toNat else fallback
  | _ => fallback

/-- mirrors packages/core/src/decision-runtime.ts:206-215 -/
def mergeDecisionTraversalBounds (defaults : DecisionTraversalBounds)
    (overrides : TraversalBoundOverrides) : DecisionTraversalBounds where
  maxDepth := positiveIntegerOrDefault overrides.maxDepth defaults.maxDepth
  maxRelationshipScans :=
    positiveIntegerOrDefault overrides.maxRelationshipScans defaults.maxRelationshipScans
  maxVisitedNodes := positiveIntegerOrDefault overrides.maxVisitedNodes defaults.maxVisitedNodes

theorem positiveIntegerOrDefault_pos (value : Option JsNumber) {fallback : Nat}
    (h : 0 < fallback) : 0 < positiveIntegerOrDefault value fallback := by
  unfold positiveIntegerOrDefault
  split
  · split
    · omega
    · exact h
  · exact h

/-- mirrors packages/core/src/decision-runtime.ts:129-181 -/
structure DecisionTraversalGuard where
  bounds : DecisionTraversalBounds
  graphSize : RebacGraphSize
  visitedNodes : Finset String
  relationshipScans : Nat
  maxDepthReached : Nat
  boundsExceeded : Option DecisionTraversalBound

namespace DecisionTraversalGuard

/-- `this.#boundsExceeded ??= bound` when the value is out of bounds. -/
def requireWithinBound (g : DecisionTraversalGuard) (bound : DecisionTraversalBound)
    (value : Nat) : Bool × DecisionTraversalGuard :=
  if value ≤ g.bounds.get bound then (true, g)
  else (false, { g with boundsExceeded := some (g.boundsExceeded.getD bound) })

def recordRelationshipScan (g : DecisionTraversalGuard) : Bool × DecisionTraversalGuard :=
  requireWithinBound { g with relationshipScans := g.relationshipScans + 1 }
    .maxRelationshipScans (g.relationshipScans + 1)

def recordVisitedNode (nodeId : String) (g : DecisionTraversalGuard) :
    Bool × DecisionTraversalGuard :=
  requireWithinBound { g with visitedNodes := insert nodeId g.visitedNodes }
    .maxVisitedNodes (insert nodeId g.visitedNodes).card

def recordDepth (depth : Nat) (g : DecisionTraversalGuard) : Bool × DecisionTraversalGuard :=
  requireWithinBound { g with maxDepthReached := max g.maxDepthReached depth } .maxDepth depth

/-- `new DecisionTraversalGuard(bounds, graphSize, rootNodeId)` -/
def new (bounds : DecisionTraversalBounds) (graphSize : RebacGraphSize) (rootNodeId : String) :
    DecisionTraversalGuard :=
  (recordVisitedNode rootNodeId ⟨bounds, graphSize, ∅, 0, 0, none⟩).2

end DecisionTraversalGuard

/-- mirrors packages/core/src/decision-runtime.ts:36-43 -/
structure DecisionTraversalReport where
  bounds : DecisionTraversalBounds
  graphSize : RebacGraphSize
  relationshipScans : Nat
  visitedNodes : Nat
  maxDepthReached : Nat
  boundsExceeded : Option DecisionTraversalBound
  deriving DecidableEq, Repr

def DecisionTraversalGuard.report (g : DecisionTraversalGuard) : DecisionTraversalReport :=
  ⟨g.bounds, g.graphSize, g.relationshipScans, g.visitedNodes.card, g.maxDepthReached,
    g.boundsExceeded⟩

/-! ## The guard as a meter -/

namespace DecisionTraversalGuard

theorem requireWithinBound_ok (g : DecisionTraversalGuard) (bound : DecisionTraversalBound)
    (value : Nat) : (g.requireWithinBound bound value).2.boundsExceeded = none ↔
      g.boundsExceeded = none ∧ (g.requireWithinBound bound value).1 = true := by
  unfold requireWithinBound
  split <;> simp

theorem requireWithinBound_frame (g : DecisionTraversalGuard) (bound : DecisionTraversalBound)
    (value : Nat) : (g.requireWithinBound bound value).2.bounds = g.bounds ∧
      (g.requireWithinBound bound value).2.visitedNodes = g.visitedNodes ∧
      (g.requireWithinBound bound value).2.relationshipScans = g.relationshipScans ∧
      (g.requireWithinBound bound value).2.maxDepthReached = g.maxDepthReached := by
  unfold requireWithinBound
  split <;> simp

theorem requireWithinBound_le {g : DecisionTraversalGuard} {bound : DecisionTraversalBound}
    {value : Nat} (h : (g.requireWithinBound bound value).1 = true) :
    value ≤ g.bounds.get bound := by
  unfold requireWithinBound at h
  split at h
  · assumption
  · cases h

/-- The edges that may still be scanned. -/
def scansLeft (g : DecisionTraversalGuard) : Nat :=
  g.bounds.maxRelationshipScans - g.relationshipScans

end DecisionTraversalGuard

section
variable {S : Type*}

/-- The guard as the meter of a search whose states stand for graph nodes. -/
def guardMeter (nodeOf : S → String) : Meter S DecisionTraversalGuard where
  scan := DecisionTraversalGuard.recordRelationshipScan
  deepen := DecisionTraversalGuard.recordDepth
  visit s := DecisionTraversalGuard.recordVisitedNode (nodeOf s)
  ok g := g.boundsExceeded = none
  scan_ok _ := DecisionTraversalGuard.requireWithinBound_ok _ _ _
  deepen_ok _ _ := DecisionTraversalGuard.requireWithinBound_ok _ _ _
  visit_ok _ _ := DecisionTraversalGuard.requireWithinBound_ok _ _ _

theorem guardMeter_draining (nodeOf : S → String) :
    (guardMeter nodeOf).Draining DecisionTraversalGuard.scansLeft where
  scan g h := by
    have hle := DecisionTraversalGuard.requireWithinBound_le h
    obtain ⟨hb, -, hs, -⟩ := DecisionTraversalGuard.requireWithinBound_frame
      { g with relationshipScans := g.relationshipScans + 1 } .maxRelationshipScans
      (g.relationshipScans + 1)
    simp only [DecisionTraversalBounds.get] at hle
    simp only [guardMeter, DecisionTraversalGuard.scansLeft,
      DecisionTraversalGuard.recordRelationshipScan, hb, hs]
    omega
  deepen d g := by
    obtain ⟨hb, -, hs, -⟩ := DecisionTraversalGuard.requireWithinBound_frame
      { g with maxDepthReached := max g.maxDepthReached d } .maxDepth d
    simp only [guardMeter, DecisionTraversalGuard.scansLeft, DecisionTraversalGuard.recordDepth,
      hb, hs]
    exact Nat.le_refl _
  visit s g := by
    obtain ⟨hb, -, hs, -⟩ := DecisionTraversalGuard.requireWithinBound_frame
      { g with visitedNodes := insert (nodeOf s) g.visitedNodes } .maxVisitedNodes
      (insert (nodeOf s) g.visitedNodes).card
    simp only [guardMeter, DecisionTraversalGuard.scansLeft,
      DecisionTraversalGuard.recordVisitedNode, hb, hs]
    exact Nat.le_refl _

end

/-- The bounds are `b`, and as long as none is recorded as exceeded every
counter is within its own. -/
structure WithinBounds (b : DecisionTraversalBounds) (g : DecisionTraversalGuard) : Prop where
  bounds : g.bounds = b
  scans : g.boundsExceeded = none → g.relationshipScans ≤ b.maxRelationshipScans
  depth : g.boundsExceeded = none → g.maxDepthReached ≤ b.maxDepth
  visited : g.boundsExceeded = none → g.visitedNodes.card ≤ b.maxVisitedNodes

theorem withinBounds_scan {b : DecisionTraversalBounds} {g : DecisionTraversalGuard}
    (h : WithinBounds b g) : WithinBounds b g.recordRelationshipScan.2 := by
  obtain ⟨rfl, -, hd, hv⟩ := h
  unfold DecisionTraversalGuard.recordRelationshipScan DecisionTraversalGuard.requireWithinBound
  split
  · rename_i hle
    exact ⟨rfl, fun _ => hle, hd, hv⟩
  · exact ⟨rfl, nofun, nofun, nofun⟩

theorem withinBounds_depth {b : DecisionTraversalBounds} {g : DecisionTraversalGuard} (d : Nat)
    (h : WithinBounds b g) : WithinBounds b (g.recordDepth d).2 := by
  obtain ⟨rfl, hs, hd, hv⟩ := h
  unfold DecisionTraversalGuard.recordDepth DecisionTraversalGuard.requireWithinBound
  split
  · rename_i hle
    exact ⟨rfl, hs, fun h => Nat.max_le.2 ⟨hd h, hle⟩, hv⟩
  · exact ⟨rfl, nofun, nofun, nofun⟩

theorem withinBounds_visit {b : DecisionTraversalBounds} {g : DecisionTraversalGuard} (n : String)
    (h : WithinBounds b g) : WithinBounds b (g.recordVisitedNode n).2 := by
  obtain ⟨rfl, hs, hd, -⟩ := h
  unfold DecisionTraversalGuard.recordVisitedNode DecisionTraversalGuard.requireWithinBound
  split
  · rename_i hle
    exact ⟨rfl, hs, hd, fun _ => hle⟩
  · exact ⟨rfl, nofun, nofun, nofun⟩

theorem withinBounds_keeps {S : Type*} (nodeOf : S → String) (b : DecisionTraversalBounds) :
    (guardMeter nodeOf).Keeps (WithinBounds b) where
  scan _ h := withinBounds_scan h
  deepen d _ h := withinBounds_depth d h
  visit s _ h := withinBounds_visit (nodeOf s) h

theorem withinBounds_new (b : DecisionTraversalBounds) (size : RebacGraphSize) (root : String) :
    WithinBounds b (DecisionTraversalGuard.new b size root) :=
  withinBounds_visit root ⟨rfl, fun _ => Nat.zero_le _, fun _ => Nat.zero_le _,
    fun _ => Nat.zero_le _⟩

end AccessKit.L4
