import AccessKit.L2Graph.Fixtures
import AccessKit.L2Graph.Writes
import AccessKit.L4Engine.Reachability

/-!
# A second deletion revives a tuple in the past

Status: open. A deleted tuple is active at an `asOf` before its `updatedAt`
(packages/core/src/engine.ts:653-657), and `deleteRelationship` stamps every
tuple it finds, a deleted one too (packages/core/src/store.ts:215-232); the
runtime passes every call on (packages/api/src/runtime-graph.ts:51-52).
Deleting a tuple again moves its deletion forward, and it is active again at
every instant in between.

Counterexample: Alice leaves the case team at 17:00, and the membership is
deleted once more at 18:00. Before the second call she may not write the plan
as of 17:30, after it she may (`second_deletion_allows`).

Exact condition: the last deletion is not later than the first and than the
moment from which the tuple holds, or the tuple had expired by that moment
(`stays_deleted_iff`).
-/
namespace AccessKit.Bugs.RepeatedDeletion
open AccessKit.Core AccessKit.L1 AccessKit.L2.Store AccessKit.L2.Store.InMemoryRebacStore
  AccessKit.L2.Fixtures AccessKit.L4

/-- The write enters a tuple under the id. -/
def Upserts (id : CanonicalId) : GraphWrite → Prop
  | .upsertRelationship r => r.id = id
  | _ => False

/-- At no instant from `t` on, and for no pinned version, is a tuple with the
id among the active ones. -/
def StaysDeleted (H : Host) (st : InMemoryRebacStore) (id : CanonicalId) (t : Int) : Prop :=
  ∀ asOf u, dateParse H asOf = some u → t ≤ u → ∀ pin subjectId,
    ∀ r ∈ activeRelationshipsForSubject H st ⟨asOf, pin⟩ subjectId, r.id ≠ id

/-- The instant of the last deletion of the tuple, `deletedAt` if none follows. -/
def lastDeletion (id : CanonicalId) (deletedAt : IsoDateTime) (ws : List GraphWrite) :
    IsoDateTime :=
  ws.foldl (fun last w => match w with
    | .deleteRelationship a d => if a = id then d else last
    | _ => last) deletedAt

/-- The first instant from `t` on at which the tuple can have held: it is there
and was asserted. -/
def holdsFrom (H : Host) (r : RelationshipTuple) (t : Int) : Int :=
  max t (max ((dateParse H r.createdAt).getD t) ((dateParse H r.assertedAt).getD t))

/-- The last deletion is later than that instant, and the tuple had not expired
by then. -/
structure Revived (H : Host) (r : RelationshipTuple) (t : Int) (last : IsoDateTime) : Prop where
  stamp : last ≠ ""
  later : gtMs (dateParse H last) (some (holdsFrom H r t)) = true
  unexpired : ∀ e, truthy r.expiresAt = some e →
    gtMs (dateParse H e) (some (holdsFrom H r t)) = true

/-! ## The counterexample -/

def halfPast : IsoDateTime := "2026-05-21T17:30:00.000Z"

/-- The membership is deleted at 17:00. -/
def left : InMemoryRebacStore := localStore.deleteRelationship aliceCaseTeam.id timestamp

/-- **Counterexample**: deleted at 17:00 and again at 18:00, the membership
counts as of 17:30. -/
theorem second_deletion_allows :
    (evaluate plainHost (.new plainHost {}) left { writePlan with asOf := some halfPast }
      later).decision = .deny ∧
    (evaluate plainHost (.new plainHost {}) (left.deleteRelationship aliceCaseTeam.id later)
      { writePlan with asOf := some halfPast } later).decision = .allow ∧
    ¬ StaysDeleted plainHost (left.writeAll [.deleteRelationship aliceCaseTeam.id later])
      aliceCaseTeam.id 1779382800000 := by
  refine ⟨by decide +kernel, by decide +kernel, fun h => ?_⟩
  have hmem : (activeRelationshipsForSubject plainHost
      (left.writeAll [.deleteRelationship aliceCaseTeam.id later]) ⟨halfPast, none⟩
      "user:alice").map (·.id) = [aliceCaseTeam.id] := by decide +kernel
  obtain ⟨r, hr, hid⟩ := List.mem_map.1
    (hmem ▸ List.mem_singleton_self aliceCaseTeam.id :
      aliceCaseTeam.id ∈ (activeRelationshipsForSubject plainHost
        (left.writeAll [.deleteRelationship aliceCaseTeam.id later]) ⟨halfPast, none⟩
        "user:alice").map (·.id))
  exact h halfPast 1779384600000 (by decide) (by decide) none "user:alice" r hr hid

/-! ## When a deleted tuple stays deleted -/

section
variable {H : Host} {st : InMemoryRebacStore} {id : CanonicalId} {r : RelationshipTuple}
  {t : Int} {last : IsoDateTime}

theorem getRelationship_write_deleted {w : GraphWrite} {d : IsoDateTime}
    (h : st.getRelationship id = some (markDeleted r d)) (hw : ¬ Upserts id w) :
    (st.write w).getRelationship id = some (markDeleted r (lastDeletion id d [w])) := by
  cases w with
  | upsertSubject s => exact h
  | upsertResource s => exact h
  | upsertRelationship e => exact (getRelationship_upsert st e id).trans ((if_neg hw).trans h)
  | deleteRelationship a d' =>
    refine (getRelationship_delete st a d' id).trans ?_
    rw [h]
    by_cases ha : a = id
    · simp [lastDeletion, ha, markDeleted]
    · simp [lastDeletion, ha]

theorem getRelationship_writeAll_deleted {ws : List GraphWrite} {d : IsoDateTime}
    (h : st.getRelationship id = some (markDeleted r d)) (hws : ∀ w ∈ ws, ¬ Upserts id w) :
    (st.writeAll ws).getRelationship id = some (markDeleted r (lastDeletion id d ws)) := by
  induction ws generalizing st d with
  | nil => exact h
  | cons w ws ih =>
    exact ih (getRelationship_write_deleted h (hws w List.mem_cons_self))
      fun w' hw' => hws w' (List.mem_cons_of_mem _ hw')

/-- Somebody wrote this instant down. -/
def Written (H : Host) (u : Int) : Prop := ∃ asOf, dateParse H asOf = some u

theorem Written.max {u v : Int} (hu : Written H u) (hv : Written H v) : Written H (max u v) := by
  rcases max_choice u v with h | h
  · rw [h]
    exact hu
  · rw [h]
    exact hv

theorem Written.getD {d : IsoDateTime} (h : Written H t) : Written H ((dateParse H d).getD t) := by
  cases hd : dateParse H d with
  | none => exact h
  | some u => exact ⟨d, hd⟩

theorem written_holdsFrom (h : Written H t) : Written H (holdsFrom H r t) := h.max (h.getD.max h.getD)

theorem holdsFrom_le_iff {u : Int} : holdsFrom H r t ≤ u ↔ t ≤ u ∧
    (dateParse H r.createdAt).getD t ≤ u ∧ (dateParse H r.assertedAt).getD t ≤ u := by
  unfold holdsFrom
  omega

theorem gtMs_eq_false_iff {o : Option Int} {u : Int} (h : t ≤ u) :
    gtMs o (some u) = false ↔ o.getD t ≤ u := by
  cases o with
  | none => simp [gtMs, h]
  | some v => simp [gtMs]

theorem gtMs_trans {o : Option Int} {u v : Int} (h : u ≤ v) (hg : gtMs o (some v) = true) :
    gtMs o (some u) = true := by
  cases o with
  | none => cases hg
  | some w =>
    simp only [gtMs, decide_eq_true_eq] at hg ⊢
    omega

/-- A deleted tuple is active at some instant from `t` on exactly when it was
revived. -/
theorem revived_iff {d : IsoDateTime} (hd : dateParse H d = some t) :
    Revived H r t last ↔ ∃ asOf u, dateParse H asOf = some u ∧ t ≤ u ∧
      isActiveRelationshipAt H (markDeleted r last) asOf none = true := by
  constructor
  · intro h
    obtain ⟨asOf, hasOf⟩ := written_holdsFrom (r := r) ⟨d, hd⟩
    obtain ⟨ht, hc, ha⟩ := holdsFrom_le_iff.1 (le_refl (holdsFrom H r t))
    refine ⟨asOf, _, hasOf, ht, (active_markDeleted_iff hasOf).2 ⟨h.stamp, h.later, ?_, ?_,
      h.unexpired⟩⟩
    · exact (gtMs_eq_false_iff ht).2 hc
    · exact (gtMs_eq_false_iff ht).2 ha
  · intro h
    obtain ⟨asOf, u, hasOf, ht, hact⟩ := h
    obtain ⟨hstamp, hlater, hc, ha, he⟩ := (active_markDeleted_iff hasOf).1 hact
    have hle : holdsFrom H r t ≤ u := holdsFrom_le_iff.2
      ⟨ht, (gtMs_eq_false_iff ht).1 hc, (gtMs_eq_false_iff ht).1 ha⟩
    exact ⟨hstamp, gtMs_trans hle hlater, fun e hexp => gtMs_trans hle (he e hexp)⟩

/-- **When a deleted tuple stays deleted**: exactly when its last deletion does
not revive it. -/
theorem stays_deleted_iff (H : Host) (st : InMemoryRebacStore) (id : CanonicalId)
    (r : RelationshipTuple) (deletedAt : IsoDateTime) (t : Int) (ws : List GraphWrite)
    (hr : st.getRelationship id = some r) (hd : dateParse H deletedAt = some t)
    (hws : ∀ w ∈ ws, ¬ Upserts id w) :
    StaysDeleted H ((st.deleteRelationship id deletedAt).writeAll ws) id t ↔
      ¬ Revived H r t (lastDeletion id deletedAt ws) := by
  have hdel : (st.deleteRelationship id deletedAt).getRelationship id =
      some (markDeleted r deletedAt) := by
    rw [getRelationship_delete, if_pos rfl, hr]
    rfl
  have hafter := getRelationship_writeAll_deleted hdel hws
  have hid : r.id = id := st.relationship_id id r hr
  rw [revived_iff hd]
  constructor
  · intro h hrev
    obtain ⟨asOf, u, hasOf, ht, hact⟩ := hrev
    refine h asOf u hasOf ht none r.subjectId (markDeleted r (lastDeletion id deletedAt ws)) ?_ hid
    refine List.mem_filter.2 ⟨mem_listRelationshipsForSubject.2 ⟨?_, rfl⟩, hact⟩
    exact hid ▸ hafter
  · intro h asOf u hasOf ht pin subjectId e he heid
    obtain ⟨hmem, hact⟩ := List.mem_filter.1 he
    obtain ⟨hstored, -⟩ := mem_listRelationshipsForSubject.1 hmem
    rw [heid, hafter] at hstored
    cases hstored
    exact h ⟨asOf, u, hasOf, ht, (isActiveRelationshipAt_pin.1 hact).1⟩

/-- The team leaves its workspace at 18:00, and the membership is deleted again at the time
of its first deletion. -/
def leftAgain : List GraphWrite :=
  [.deleteRelationship caseTeamWorkspace.id later, .deleteRelationship aliceCaseTeam.id timestamp]

theorem deleted_again :
    StaysDeleted plainHost (left.writeAll leftAgain) aliceCaseTeam.id 1779382800000 := by
  have hwrites : ∀ w ∈ leftAgain, ¬ Upserts aliceCaseTeam.id w := by
    simp [leftAgain, Upserts]
  have hlast : lastDeletion aliceCaseTeam.id timestamp leftAgain = timestamp := by decide
  refine (stays_deleted_iff plainHost localStore aliceCaseTeam.id aliceCaseTeam timestamp
    1779382800000 leftAgain rfl rfl hwrites).2 fun h => ?_
  rw [hlast] at h
  exact absurd h.later (by decide)

end

end AccessKit.Bugs.RepeatedDeletion
