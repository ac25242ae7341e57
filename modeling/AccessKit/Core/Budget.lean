import AccessKit.Core.Search
import Mathlib.Algebra.BigOperators.Group.List.Basic
import Mathlib.Algebra.Order.Ring.Nat

/-!
# A search that stays within its allowance

A meter is asked once for every edge that is tried, once for every depth and
once for every new state. How often that can happen in a finite space is
bounded by a potential of the pruning table: entering a state into the table
lowers it by more than the number of edges of that state, since an entered
state is expanded once.

Results:
* `search_granted`: a meter that still allows for the potential of the start
  refuses nothing, and what it allowed beyond that is left at the end.
-/
namespace AccessKit.Core.Space

variable {S E C G : Type*}

/-- What is left of the three allowances of a meter: a request within the
allowance is granted, and takes one unit of it at most. -/
structure Grants (m : Meter S G) (scans depth visits : G → Nat) : Prop where
  scan : ∀ g, 0 < scans g → (m.scan g).1 = true ∧ scans g ≤ scans (m.scan g).2 + 1 ∧
    depth g = depth (m.scan g).2 ∧ visits g = visits (m.scan g).2
  deepen : ∀ d g, d ≤ depth g → (m.deepen d g).1 = true ∧ scans g = scans (m.deepen d g).2 ∧
    depth g = depth (m.deepen d g).2 ∧ visits g = visits (m.deepen d g).2
  visit : ∀ s g, 0 < visits g → (m.visit s g).1 = true ∧ scans g = scans (m.visit s g).2 ∧
    depth g = depth (m.visit s g).2 ∧ visits g ≤ visits (m.visit s g).2 + 1

/-- Entering a state lowers the potential by more than its edges. -/
def Lowers (sp : Space S E C) (pot : C → Nat) : Prop :=
  ∀ c s x t, x ∈ sp.edges s → sp.next s x = some t → sp.covered c t = false →
    pot (sp.mark c t) + (sp.edges t).length < pot c

/-- The edges of the states that wait to be expanded. -/
def waiting (sp : Space S E C) (q : List (Entry S E)) : Nat :=
  (q.map fun e => (sp.edges e.state).length).sum

/-- The meter allows for everything that can still come, and for `a` edges,
depth `d` and `v` states beyond. -/
structure Ample (sp : Space S E C) (m : Meter S G) (scans depth visits : G → Nat)
    (pot : C → Nat) (a d v : Nat) (coming : Nat) (w : Agenda (Entry S E) (Memo C G)) : Prop where
  ok : m.ok w.memo.meter
  scans : coming + sp.waiting w.queue + pot w.memo.seen + a ≤ scans w.memo.meter
  depth : d ≤ depth w.memo.meter
  visits : pot w.memo.seen + v ≤ visits w.memo.meter
  shallow : ∀ e ∈ w.queue, e.depth + pot w.memo.seen + 1 ≤ d

/-- What is left when the search has ended. -/
structure Left (m : Meter S G) (scans depth visits : G → Nat) (a d v : Nat)
    (w : Agenda (Entry S E) (Memo C G)) : Prop where
  ok : m.ok w.memo.meter
  scans : a ≤ scans w.memo.meter
  depth : d ≤ depth w.memo.meter
  visits : v ≤ visits w.memo.meter

section
variable {sp : Space S E C} {m : Meter S G} {scans depth visits : G → Nat} {pot : C → Nat}
  {a d v : Nat}

/-- While `cur` is expanded: its own depth leaves room, too. -/
structure AmpleAt (sp : Space S E C) (m : Meter S G) (scans depth visits : G → Nat)
    (pot : C → Nat) (a d v : Nat) (cur : Entry S E) (pre : List E)
    (w : Agenda (Entry S E) (Memo C G)) : Prop where
  ample : Ample sp m scans depth visits pot a d v ((sp.edges cur.state).length - pre.length) w
  deep : cur.depth + pot w.memo.seen + 1 ≤ d

theorem relax_ample (hm : Grants m scans depth visits) (hp : sp.Lowers pot) {cur : Entry S E}
    {x : E} (hx : x ∈ sp.edges cur.state) {pre : List E}
    (hlen : pre.length < (sp.edges cur.state).length) {w : Agenda (Entry S E) (Memo C G)}
    (h : AmpleAt sp m scans depth visits pot a d v cur pre w) :
    (sp.relax m cur x w).Holds (AmpleAt sp m scans depth visits pot a d v cur (pre ++ [x]))
      fun w' _ => Left m scans depth visits a d v w' := by
  obtain ⟨⟨hok, hscans, hdepth, hvisits, hshallow⟩, hdeep⟩ := h
  have hpre : (pre ++ [x]).length = pre.length + 1 := by simp
  have hscan := hm.scan w.memo.meter (by omega)
  have hok1 := m.scan_ok w.memo.meter
  unfold relax
  split
  · rename_i g he
    rw [he] at hscan
    exact absurd hscan.1 (by simp)
  rename_i g he
  rw [he] at hscan hok1
  obtain ⟨-, hs, hd, hv⟩ := hscan
  have hok1 := hok1.2 ⟨hok, rfl⟩
  simp only at hs hd hv hok1
  split
  · exact ⟨⟨hok1, by simp only; omega, by simp only; omega, by simp only; omega, hshallow⟩, hdeep⟩
  have hdeepen := hm.deepen (cur.depth + 1) g (by omega)
  have hok2 := m.deepen_ok (cur.depth + 1) g
  split
  · rename_i g' he'
    rw [he'] at hdeepen
    exact absurd hdeepen.1 (by simp)
  rename_i g' he'
  rw [he'] at hdeepen hok2
  obtain ⟨-, hs', hd', hv'⟩ := hdeepen
  have hok2 := hok2.2 ⟨hok1, rfl⟩
  simp only at hs' hd' hv' hok2
  have hmain : AmpleAt sp m scans depth visits pot a d v cur (pre ++ [x])
      ⟨w.queue, ⟨w.memo.seen, g'⟩⟩ :=
    ⟨⟨hok2, by simp only; omega, by simp only; omega, by simp only; omega, hshallow⟩, hdeep⟩
  split
  · exact ⟨hok2, by simp only; omega, by simp only; omega, by simp only; omega⟩
  split
  · exact hmain
  rename_i t hn
  split
  · exact hmain
  rename_i hc
  -- a new state: the potential pays for its edges, its visit and its depth
  have hlow := hp w.memo.seen cur.state x t hx hn (by simpa using hc)
  have hvisit := hm.visit t g' (by omega)
  have hok3 := m.visit_ok t g'
  split
  · rename_i g'' he''
    rw [he''] at hvisit
    exact absurd hvisit.1 (by simp)
  rename_i g'' he''
  rw [he''] at hvisit hok3
  obtain ⟨-, hs'', hd'', hv''⟩ := hvisit
  have hok3 := hok3.2 ⟨hok2, rfl⟩
  simp only at hs'' hd'' hv'' hok3
  have hwait : sp.waiting (w.queue ++ [⟨t, cur.depth + 1, x :: cur.trail⟩]) =
      sp.waiting w.queue + (sp.edges t).length := by simp [waiting]
  refine ⟨⟨hok3, ?_, ?_, ?_, ?_⟩, ?_⟩
  · simp only [hwait]
    omega
  · simp only
    omega
  · simp only
    omega
  · intro e hq
    rcases List.mem_append.1 hq with hq | hq
    · have := hshallow e hq
      simp only
      omega
    · rw [List.mem_singleton] at hq
      subst hq
      simp only
      omega
  · simp only
    omega

theorem expand_ample (hm : Grants m scans depth visits) (hp : sp.Lowers pot) {cur : Entry S E}
    {w : Agenda (Entry S E) (Memo C G)}
    (h : AmpleAt sp m scans depth visits pot a d v cur [] w) :
    (sp.expand m cur w).Holds (Ample sp m scans depth visits pot a d v 0)
      fun w' _ => Left m scans depth visits a d v w' := by
  have hstep : ∀ xs pre : List E, pre ++ xs = sp.edges cur.state →
      ∀ w : Agenda (Entry S E) (Memo C G), AmpleAt sp m scans depth visits pot a d v cur pre w →
      (forOf (sp.relax m cur) xs w).Holds
        (AmpleAt sp m scans depth visits pot a d v cur (sp.edges cur.state))
        fun w' _ => Left m scans depth visits a d v w' := by
    intro xs
    induction xs with
    | nil =>
      intro pre he w hw
      rw [List.append_nil] at he
      rw [← he]
      exact hw
    | cons x xs ih =>
      intro pre he w hw
      have hx : x ∈ sp.edges cur.state := by rw [← he]; simp
      have hlen : pre.length < (sp.edges cur.state).length := by rw [← he]; simp
      have hrelax := relax_ample hm hp hx hlen hw
      simp only [forOf]
      cases hr : sp.relax m cur x w with
      | step w' =>
        rw [hr] at hrelax
        exact ih (pre ++ [x]) (by simpa using he) w' hrelax
      | stop w' p =>
        rw [hr] at hrelax
        exact hrelax
  refine (hstep (sp.edges cur.state) [] rfl w h).mono (fun w' hw' => ?_) fun _ _ => id
  have hample := hw'.ample
  rwa [Nat.sub_self] at hample

/-- **The allowance suffices.** If the meter allows for the edges of the root
and the potential of the table, and a depth of one more than the potential,
then the search is not refused, and the rest of the allowance is left. -/
theorem search_granted (hm : Grants m scans depth visits) (hp : sp.Lowers pot) {root : S}
    {seen : C} {g : G} (hok : m.ok g)
    (hs : (sp.edges root).length + pot seen + a ≤ scans g) (hd : pot seen + 1 ≤ d)
    (hd' : d ≤ depth g) (hv : pot seen + v ≤ visits g) {fuel : Nat}
    {out : Flow (Agenda (Entry S E) (Memo C G)) (List E)}
    (hout : sp.search m fuel (start root seen g) = some out) :
    Left m scans depth visits a d v out.state := by
  have hout : worklist (sp.expand m) fuel (start root seen g) = some out := hout
  have hrun := worklist_holds (I := fun _ w => Ample sp m scans depth visits pot a d v 0 w)
    (P := fun w => Left m scans depth visits a d v w)
    (Q := fun w _ => Left m scans depth visits a d v w) ?_ ?_ fuel [] (w := start root seen g)
    ⟨hok, ?_, hd', hv, ?_⟩ hout
  · cases out with
    | step w => exact hrun
    | stop w p => exact hrun
  · intro done e q memo h
    obtain ⟨hok, hscans, hdepth, hvisits, hshallow⟩ := h
    refine expand_ample hm hp ⟨⟨hok, ?_, hdepth, hvisits, ?_⟩, hshallow e List.mem_cons_self⟩
    · simp only [waiting, List.map_cons, List.sum_cons, List.length_nil, Nat.sub_zero] at hscans ⊢
      omega
    · exact fun e' he' => hshallow e' (List.mem_cons_of_mem _ he')
  · intro done memo h
    obtain ⟨hok, hscans, hdepth, hvisits, -⟩ := h
    exact ⟨hok, by simp only at hscans ⊢; omega, hdepth, by simp only at hvisits ⊢; omega⟩
  · simp only [start, waiting, List.map_cons, List.map_nil, List.sum_cons, List.sum_nil]
    omega
  · intro e he
    simp only [start, List.mem_singleton] at he
    subst he
    simp only [start]
    omega

end

end AccessKit.Core.Space
