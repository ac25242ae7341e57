import AccessKit.Core.Loop
import Mathlib.Order.Defs.PartialOrder
import Mathlib.Data.List.Basic

/-!
# Metered breadth-first search

A worklist search over an implicit graph, with a pruning table and a meter.
A `Space` lists the edges that leave a state, says which of them count
(`usable`), which end the search (`goal`) and which lead on (`next`); a state
already `covered` by the pruning table is not queued again. Pruning may use a
dominance order: a state may be dropped because a better one was seen. A
`Meter` is asked before every edge, before every depth and before every new
state, and may refuse; a refusal ends the search with no path.

Results:
* `search_spec`: a search whose meter never refused returns a shortest walk to
  a goal, or there is none; a search that was refused says so in its meter.
* `search_isSome`, `search_mono`: a meter with a finite allowance ends every
  search, and more fuel changes nothing.
* `search_meter`: what every meter operation keeps, the search keeps.
* `search_free`: a search that was not refused returns what the unmetered
  search on the edges that matter (`live`) returns.
* `search_congr`: two spaces that agree on the states reachable from the root
  give the same search.
-/
namespace AccessKit.Core

/-- A queued state: how deep it was found and through which edges, the last
one first. -/
structure Entry (S E : Type*) where
  state : S
  depth : Nat
  trail : List E

structure Space (S E C : Type*) where
  edges : S → List E
  usable : S → E → Bool
  goal : S → E → Bool
  next : S → E → Option S
  covered : C → S → Bool
  mark : C → S → C

/-- `ok` records that nothing was refused so far. -/
structure Meter (S G : Type*) where
  scan : G → Bool × G
  deepen : Nat → G → Bool × G
  visit : S → G → Bool × G
  ok : G → Prop
  scan_ok : ∀ g, ok (scan g).2 ↔ ok g ∧ (scan g).1 = true
  deepen_ok : ∀ d g, ok (deepen d g).2 ↔ ok g ∧ (deepen d g).1 = true
  visit_ok : ∀ s g, ok (visit s g).2 ↔ ok g ∧ (visit s g).1 = true

/-- A meter that grants only so many edges. -/
structure Meter.Draining {S G : Type*} (m : Meter S G) (left : G → Nat) : Prop where
  scan : ∀ g, (m.scan g).1 = true → left (m.scan g).2 < left g
  deepen : ∀ d g, left (m.deepen d g).2 ≤ left g
  visit : ∀ s g, left (m.visit s g).2 ≤ left g

/-- A property that no operation of the meter destroys. -/
structure Meter.Keeps {S G : Type*} (m : Meter S G) (P : G → Prop) : Prop where
  scan : ∀ g, P g → P (m.scan g).2
  deepen : ∀ d g, P g → P (m.deepen d g).2
  visit : ∀ s g, P g → P (m.visit s g).2

/-- The pruning table and the meter of a running search. -/
structure Memo (C G : Type*) where
  seen : C
  meter : G

namespace Space

variable {S E C G : Type*}

/-- One edge of the entry that is being expanded. -/
def relax (sp : Space S E C) (m : Meter S G) (cur : Entry S E) (x : E)
    (w : Agenda (Entry S E) (Memo C G)) : Flow (Agenda (Entry S E) (Memo C G)) (List E) :=
  match m.scan w.memo.meter with
  | (false, g) => .stop ⟨w.queue, ⟨w.memo.seen, g⟩⟩ []
  | (true, g) =>
    if sp.usable cur.state x = false then .step ⟨w.queue, ⟨w.memo.seen, g⟩⟩
    else
      match m.deepen (cur.depth + 1) g with
      | (false, g) => .stop ⟨w.queue, ⟨w.memo.seen, g⟩⟩ []
      | (true, g) =>
        if sp.goal cur.state x = true then
          .stop ⟨w.queue, ⟨w.memo.seen, g⟩⟩ (x :: cur.trail).reverse
        else
          match sp.next cur.state x with
          | none => .step ⟨w.queue, ⟨w.memo.seen, g⟩⟩
          | some t =>
            if sp.covered w.memo.seen t = true then .step ⟨w.queue, ⟨w.memo.seen, g⟩⟩
            else
              match m.visit t g with
              | (false, g) => .stop ⟨w.queue, ⟨w.memo.seen, g⟩⟩ []
              | (true, g) =>
                .step ⟨w.queue ++ [⟨t, cur.depth + 1, x :: cur.trail⟩],
                  ⟨sp.mark w.memo.seen t, g⟩⟩

def expand (sp : Space S E C) (m : Meter S G) (cur : Entry S E) :
    Agenda (Entry S E) (Memo C G) → Flow (Agenda (Entry S E) (Memo C G)) (List E) :=
  forOf (sp.relax m cur) (sp.edges cur.state)

/-- The agenda a search starts from. -/
def start (root : S) (seen : C) (g : G) : Agenda (Entry S E) (Memo C G) :=
  ⟨[⟨root, 0, []⟩], ⟨seen, g⟩⟩

def search (sp : Space S E C) (m : Meter S G) (fuel : Nat)
    (w : Agenda (Entry S E) (Memo C G)) :
    Option (Flow (Agenda (Entry S E) (Memo C G)) (List E)) :=
  worklist (sp.expand m) fuel w

/-! ## Walks -/

/-- The edges of `trail`, the last one first, lead from `root` to a state. -/
inductive Walk (sp : Space S E C) (root : S) : List E → S → Prop
  | root : Walk sp root [] root
  | snoc {trail : List E} {s t : S} {x : E} : Walk sp root trail s → x ∈ sp.edges s →
      sp.usable s x = true → sp.next s x = some t → Walk sp root (x :: trail) t

/-- A path, first edge first, whose last edge is a goal. -/
def GoalWalk (sp : Space S E C) (root : S) (path : List E) : Prop :=
  ∃ trail s x, path = (x :: trail).reverse ∧ Walk sp root trail s ∧ x ∈ sp.edges s ∧
    sp.usable s x = true ∧ sp.goal s x = true

/-- A walk of one space is a walk of another through other edges, one for
each. -/
theorem Walk.map {sp sp' : Space S E C} {f : E → E} {root : S} {trail : List E} {s : S}
    (hstep : ∀ s x t, x ∈ sp'.edges s → sp'.usable s x = true → sp'.next s x = some t →
      f x ∈ sp.edges s ∧ sp.usable s (f x) = true ∧ sp.next s (f x) = some t)
    (h : Walk sp' root trail s) : Walk sp root (trail.map f) s := by
  induction h with
  | root => exact .root
  | snoc _ hx hu hn ih =>
    obtain ⟨hx, hu, hn⟩ := hstep _ _ _ hx hu hn
    exact .snoc ih hx hu hn

theorem GoalWalk.map {sp sp' : Space S E C} {f : E → E} {root : S} {path : List E}
    (hstep : ∀ s x t, x ∈ sp'.edges s → sp'.usable s x = true → sp'.next s x = some t →
      f x ∈ sp.edges s ∧ sp.usable s (f x) = true ∧ sp.next s (f x) = some t)
    (hgoal : ∀ s x, x ∈ sp'.edges s → sp'.usable s x = true → sp'.goal s x = true →
      f x ∈ sp.edges s ∧ sp.usable s (f x) = true ∧ sp.goal s (f x) = true)
    (h : GoalWalk sp' root path) : GoalWalk sp root (path.map f) := by
  obtain ⟨trail, s, x, rfl, hw, hx, hu, hg⟩ := h
  obtain ⟨hx, hu, hg⟩ := hgoal s x hx hu hg
  refine ⟨trail.map f, s, f x, ?_, hw.map hstep, hx, hu, hg⟩
  rw [List.map_reverse, List.map_cons]

/-- What pruning needs: a state stands for every state below it, and the table
covers nothing but what is below the states entered into it. -/
structure Lawful (sp : Space S E C) (le : S → S → Prop) : Prop where
  refl : ∀ s, le s s
  trans : ∀ {s t u}, le s t → le t u → le s u
  edges : ∀ {s t}, le s t → ∀ x ∈ sp.edges s, x ∈ sp.edges t
  usable : ∀ {s t}, le s t → ∀ x, sp.usable s x = true → sp.usable t x = true
  goal : ∀ {s t}, le s t → ∀ x, sp.goal s x = true → sp.goal t x = true
  next : ∀ {s t}, le s t → ∀ x s', sp.next s x = some s' →
    ∃ t', sp.next t x = some t' ∧ le s' t'
  mark : ∀ {c s t}, sp.covered c t = false → sp.covered (sp.mark c t) s = true →
    sp.covered c s = true ∨ le s t

/-- The edges that were tried from `e` were no goal, and the states they lead
to are in `all`, at most one level deeper. -/
def Explored (sp : Space S E C) (le : S → S → Prop) (all : List (Entry S E)) (e : Entry S E)
    (xs : List E) : Prop :=
  ∀ x ∈ xs, sp.usable e.state x = true → sp.goal e.state x = false ∧
    ∀ t, sp.next e.state x = some t → ∃ e' ∈ all, le t e'.state ∧ e'.depth ≤ e.depth + 1

/-- What holds of the entries found so far, in the order they were found. -/
structure Found (sp : Space S E C) (le : S → S → Prop) (root : S) (all : List (Entry S E))
    (seen : C) : Prop where
  walk : ∀ e ∈ all, Walk sp root e.trail e.state ∧ e.depth = e.trail.length
  seen : ∀ s, sp.covered seen s = true → ∃ e ∈ all, le s e.state
  root : ∃ e ∈ all, le root e.state ∧ e.depth = 0
  sorted : all.Pairwise (·.depth ≤ ·.depth)

theorem Explored.mono {sp : Space S E C} {le : S → S → Prop} {all all' : List (Entry S E)}
    {e : Entry S E} {xs : List E} (h : Explored sp le all e xs)
    (hsub : ∀ a ∈ all, a ∈ all') : Explored sp le all' e xs := by
  intro x hx hu
  obtain ⟨hg, hn⟩ := h x hx hu
  refine ⟨hg, fun t ht => ?_⟩
  obtain ⟨e', he', h'⟩ := hn t ht
  exact ⟨e', hsub e' he', h'⟩

/-- Entering a new state found through an edge of `cur`. -/
theorem Found.push {sp : Space S E C} {le : S → S → Prop} (hl : sp.Lawful le) {root : S}
    {all : List (Entry S E)} {seen : C} (h : Found sp le root all seen) {cur : Entry S E}
    (hcur : cur ∈ all) (hnear : ∀ e ∈ all, e.depth ≤ cur.depth + 1) {x : E} {t : S}
    (hx : x ∈ sp.edges cur.state) (hu : sp.usable cur.state x = true)
    (hn : sp.next cur.state x = some t) (hc : sp.covered seen t = false) :
    Found sp le root (all ++ [⟨t, cur.depth + 1, x :: cur.trail⟩]) (sp.mark seen t) := by
  refine ⟨?_, ?_, ?_, ?_⟩
  · intro e he
    rcases List.mem_append.1 he with he | he
    · exact h.walk e he
    · rw [List.mem_singleton] at he
      subst he
      obtain ⟨hw, hd⟩ := h.walk cur hcur
      exact ⟨.snoc hw hx hu hn, by simp [hd]⟩
  · intro s hs
    rcases hl.mark hc hs with hs | hs
    · obtain ⟨e, he, hle⟩ := h.seen s hs
      exact ⟨e, List.mem_append_left _ he, hle⟩
    · exact ⟨_, List.mem_append_right _ (List.mem_singleton_self _), hs⟩
  · obtain ⟨e, he, hr⟩ := h.root
    exact ⟨e, List.mem_append_left _ he, hr⟩
  · rw [List.pairwise_append]
    refine ⟨h.sorted, List.pairwise_singleton _ _, ?_⟩
    intro a ha b hb
    rw [List.mem_singleton] at hb
    subst hb
    exact hnear a ha

/-! ## What a search returns -/

/-- Everything known while `cur` is expanded and the edges `pre` were tried. -/
structure Expanding (sp : Space S E C) (m : Meter S G) (le : S → S → Prop) (root : S)
    (done : List (Entry S E)) (cur : Entry S E) (pre : List E)
    (w : Agenda (Entry S E) (Memo C G)) : Prop where
  found : Found sp le root (done ++ cur :: w.queue) w.memo.seen
  near : ∀ e ∈ done ++ cur :: w.queue, e.depth ≤ cur.depth + 1
  explored : ∀ e ∈ done, Explored sp le (done ++ cur :: w.queue) e (sp.edges e.state)
  tried : Explored sp le (done ++ cur :: w.queue) cur pre
  ok : m.ok w.memo.meter

/-- Everything known between two entries. -/
structure Pending (sp : Space S E C) (m : Meter S G) (le : S → S → Prop) (root : S)
    (done : List (Entry S E)) (w : Agenda (Entry S E) (Memo C G)) : Prop where
  found : Found sp le root (done ++ w.queue) w.memo.seen
  near : ∀ h ∈ w.queue.head?, ∀ e ∈ done ++ w.queue, e.depth ≤ h.depth + 1
  explored : ∀ e ∈ done, Explored sp le (done ++ w.queue) e (sp.edges e.state)
  ok : m.ok w.memo.meter

/-- The search ran dry: no meter refusal, and no walk to a goal. -/
def Exhausted (sp : Space S E C) (m : Meter S G) (root : S)
    (w : Agenda (Entry S E) (Memo C G)) : Prop :=
  m.ok w.memo.meter ∧ ∀ p, ¬ GoalWalk sp root p

/-- The search returned: refused, or with a shortest walk to a goal. -/
def Answered (sp : Space S E C) (m : Meter S G) (root : S)
    (w : Agenda (Entry S E) (Memo C G)) (path : List E) : Prop :=
  (path = [] ∧ ¬ m.ok w.memo.meter) ∨
  (m.ok w.memo.meter ∧ GoalWalk sp root path ∧ ∀ p, GoalWalk sp root p → path.length ≤ p.length)

/-- A walk no longer than the depth of every pending entry ends in a state
that was found, at that depth or before. -/
theorem walk_found {sp : Space S E C} {le : S → S → Prop} (hl : sp.Lawful le) {root : S}
    {done queue : List (Entry S E)} {seen : C} (hf : Found sp le root (done ++ queue) seen)
    (he : ∀ e ∈ done, Explored sp le (done ++ queue) e (sp.edges e.state))
    {trail : List E} {s : S} (hw : Walk sp root trail s)
    (hq : ∀ e ∈ queue, trail.length ≤ e.depth) :
    ∃ e ∈ done ++ queue, le s e.state ∧ e.depth ≤ trail.length := by
  induction hw with
  | root =>
    obtain ⟨e, hm, hr, hd⟩ := hf.root
    exact ⟨e, hm, hr, by simp [hd]⟩
  | @snoc trail s t x hw hx hu hn ih =>
    simp only [List.length_cons] at hq ⊢
    obtain ⟨e, hm, hle, hd⟩ := ih fun e h => by have := hq e h; omega
    have hdone : e ∈ done := by
      rcases List.mem_append.1 hm with h | h
      · exact h
      · have := hq e h; omega
    obtain ⟨t', ht', hle'⟩ := hl.next hle x t hn
    obtain ⟨-, hnext⟩ := he e hdone x (hl.edges hle x hx) (hl.usable hle x hu)
    obtain ⟨e', hm', hle'', hd'⟩ := hnext t' ht'
    exact ⟨e', hm', hl.trans hle' hle'', by omega⟩

/-- An explored entry has no goal edge, nor has any state below it. -/
theorem goal_not_explored {sp : Space S E C} {le : S → S → Prop} (hl : sp.Lawful le)
    {all : List (Entry S E)} {e : Entry S E} (he : Explored sp le all e (sp.edges e.state))
    {s : S} (hle : le s e.state) {x : E} (hx : x ∈ sp.edges s) (hu : sp.usable s x = true) :
    sp.goal s x = false := by
  obtain ⟨hg, -⟩ := he x (hl.edges hle x hx) (hl.usable hle x hu)
  cases h : sp.goal s x with
  | false => rfl
  | true => rw [hl.goal hle x h] at hg; cases hg

theorem relax_holds {sp : Space S E C} {m : Meter S G} {le : S → S → Prop} (hl : sp.Lawful le)
    {root : S} {done : List (Entry S E)} {cur : Entry S E} {pre : List E} {x : E}
    (hx : x ∈ sp.edges cur.state) {w : Agenda (Entry S E) (Memo C G)}
    (h : Expanding sp m le root done cur pre w) :
    (sp.relax m cur x w).Holds (Expanding sp m le root done cur (pre ++ [x]))
      (Answered sp m root) := by
  obtain ⟨hf, hnear, hexp, htried, hok⟩ := h
  have hcur : cur ∈ done ++ cur :: w.queue := by simp
  have step : ∀ g, m.ok g → (sp.usable cur.state x = true → sp.goal cur.state x = false ∧
      ∀ t, sp.next cur.state x = some t →
        ∃ e' ∈ done ++ cur :: w.queue, le t e'.state ∧ e'.depth ≤ cur.depth + 1) →
      Expanding sp m le root done cur (pre ++ [x]) ⟨w.queue, ⟨w.memo.seen, g⟩⟩ := by
    intro g hg hx'
    refine ⟨hf, hnear, hexp, ?_, hg⟩
    intro y hy
    rcases List.mem_append.1 hy with hy | hy
    · exact htried y hy
    · rw [List.mem_singleton] at hy
      subst hy
      exact hx'
  unfold relax
  have hscan := m.scan_ok w.memo.meter
  split
  · rename_i g hs
    rw [hs] at hscan
    exact .inl ⟨rfl, fun h => by simpa using hscan.1 h⟩
  rename_i g hs
  rw [hs] at hscan
  have hg : m.ok g := hscan.2 ⟨hok, rfl⟩
  split
  · rename_i hu
    exact step g hg fun hu' => by rw [hu] at hu'; cases hu'
  rename_i hu
  have hu : sp.usable cur.state x = true := by simpa using hu
  have hdeep := m.deepen_ok (cur.depth + 1) g
  split
  · rename_i g' hd
    rw [hd] at hdeep
    exact .inl ⟨rfl, fun h => by simpa using hdeep.1 h⟩
  rename_i g' hd
  rw [hd] at hdeep
  have hg' : m.ok g' := hdeep.2 ⟨hg, rfl⟩
  split
  · rename_i hgoal
    obtain ⟨hw, hdep⟩ := hf.walk cur hcur
    refine .inr ⟨hg', ⟨cur.trail, cur.state, x, rfl, hw, hx, hu, hgoal⟩, ?_⟩
    rintro p ⟨trail, s, y, rfl, hw', hy, hyu, hyg⟩
    simp only [List.length_reverse, List.length_cons]
    by_contra hlt
    have hsort := (List.pairwise_append.1 hf.sorted).2.1
    obtain ⟨e, hm, hle, hde⟩ := walk_found hl hf hexp hw' fun e he => by
      rcases List.mem_cons.1 he with rfl | he
      · omega
      · have := (List.pairwise_cons.1 hsort).1 e he; omega
    have hdone : e ∈ done := by
      rcases List.mem_append.1 hm with h | h
      · exact h
      · rcases List.mem_cons.1 h with rfl | h
        · omega
        · have := (List.pairwise_cons.1 hsort).1 e h; omega
    rw [goal_not_explored hl (hexp e hdone) hle hy hyu] at hyg
    cases hyg
  rename_i hgoal
  have hgoal : sp.goal cur.state x = false := by simpa using hgoal
  split
  · rename_i hn
    exact step g' hg' fun _ => ⟨hgoal, fun t ht => by rw [hn] at ht; cases ht⟩
  rename_i t hn
  split
  · rename_i hc
    refine step g' hg' fun _ => ⟨hgoal, fun t' ht' => ?_⟩
    rw [hn] at ht'
    cases ht'
    obtain ⟨e, he, hle⟩ := hf.seen t hc
    exact ⟨e, he, hle, hnear e he⟩
  rename_i hc
  have hc : sp.covered w.memo.seen t = false := by simpa using hc
  have hvis := m.visit_ok t g'
  split
  · rename_i g'' hv
    rw [hv] at hvis
    exact .inl ⟨rfl, fun h => by simpa using hvis.1 h⟩
  rename_i g'' hv
  rw [hv] at hvis
  have hassoc : done ++ cur :: (w.queue ++ [⟨t, cur.depth + 1, x :: cur.trail⟩]) =
      (done ++ cur :: w.queue) ++ [⟨t, cur.depth + 1, x :: cur.trail⟩] := by simp
  have hsub : ∀ a ∈ done ++ cur :: w.queue,
      a ∈ done ++ cur :: (w.queue ++ [⟨t, cur.depth + 1, x :: cur.trail⟩]) :=
    fun a ha => hassoc ▸ List.mem_append_left _ ha
  refine ⟨?_, ?_, ?_, ?_, hvis.2 ⟨hg', rfl⟩⟩
  · rw [hassoc]
    exact hf.push hl hcur hnear hx hu hn hc
  · rw [hassoc]
    intro e he
    rcases List.mem_append.1 he with he | he
    · exact hnear e he
    · rw [List.mem_singleton] at he
      subst he
      exact Nat.le_refl _
  · exact fun e he => (hexp e he).mono hsub
  · intro y hy
    rcases List.mem_append.1 hy with hy | hy
    · exact htried.mono hsub y hy
    · rw [List.mem_singleton] at hy
      subst hy
      refine fun _ => ⟨hgoal, fun t' ht' => ?_⟩
      rw [hn] at ht'
      cases ht'
      exact ⟨⟨t, cur.depth + 1, y :: cur.trail⟩, by simp, hl.refl _, Nat.le_refl _⟩

theorem expand_holds {sp : Space S E C} {m : Meter S G} {le : S → S → Prop} (hl : sp.Lawful le)
    {root : S} {done : List (Entry S E)} {cur : Entry S E} {q : List (Entry S E)}
    {memo : Memo C G} (h : Pending sp m le root done ⟨cur :: q, memo⟩) :
    (sp.expand m cur ⟨q, memo⟩).Holds (Pending sp m le root (done ++ [cur]))
      (Answered sp m root) := by
  have h0 : Expanding sp m le root done cur [] ⟨q, memo⟩ :=
    ⟨h.found, h.near cur rfl, h.explored, fun x hx => absurd hx List.not_mem_nil, h.ok⟩
  refine (forOf_holds (fun pre x hx w hw => relax_holds hl hx hw) [] h0).mono ?_ fun _ _ => id
  intro w hw
  have hassoc : done ++ cur :: w.queue = (done ++ [cur]) ++ w.queue := by simp
  obtain ⟨hf, hnear, hexp, htried, hok⟩ := hw
  rw [hassoc] at hf hnear hexp htried
  refine ⟨hf, ?_, ?_, hok⟩
  · intro b hb e he
    have hmem : b ∈ w.queue := List.mem_of_mem_head? hb
    have hle : cur.depth ≤ b.depth :=
      (List.pairwise_append.1 hf.sorted).2.2 cur (by simp) b hmem
    have := hnear e he
    omega
  · intro e he
    rcases List.mem_append.1 he with he | he
    · exact hexp e he
    · rw [List.mem_singleton] at he
      subst he
      simpa using htried

/-- **What a search returns.** A search that was not refused returns a
shortest walk to a goal if there is one; a refused search has said so. -/
theorem search_spec {sp : Space S E C} {m : Meter S G} {le : S → S → Prop} (hl : sp.Lawful le)
    {root : S} {seen : C} (hseen : ∀ s, sp.covered seen s = true → le s root) {g : G}
    (hg : m.ok g) {fuel : Nat} {out : Flow (Agenda (Entry S E) (Memo C G)) (List E)}
    (h : sp.search m fuel (start root seen g) = some out) :
    out.Holds (Exhausted sp m root) (Answered sp m root) := by
  have h0 : Pending sp m le root [] (start root seen g) := by
    refine ⟨⟨?_, ?_, ?_, List.pairwise_singleton _ _⟩, ?_, by simp, hg⟩
    · intro e he
      simp only [start, List.nil_append, List.mem_singleton] at he
      subst he
      exact ⟨.root, rfl⟩
    · exact fun s hs => ⟨⟨root, 0, []⟩, List.mem_singleton_self _, hseen s hs⟩
    · exact ⟨⟨root, 0, []⟩, List.mem_singleton_self _, hl.refl _, rfl⟩
    · intro b hb e he
      simp only [start, List.nil_append, List.mem_singleton] at he
      subst he
      exact Nat.zero_le _
  refine worklist_holds (fun done a q memo hI => expand_holds hl hI) ?_ fuel [] h0 h
  intro done memo hI
  refine ⟨hI.ok, ?_⟩
  rintro p ⟨trail, s, x, rfl, hw, hx, hu, hgoal⟩
  obtain ⟨e, he, hle, -⟩ := walk_found hl hI.found hI.explored hw (by simp)
  have he : e ∈ done := by simpa using he
  rw [goal_not_explored hl (hI.explored e he) hle hx hu] at hgoal
  cases hgoal

/-! ## Termination and the meter -/

theorem relax_keeps {sp : Space S E C} {m : Meter S G} {P : G → Prop} (hP : m.Keeps P)
    {cur : Entry S E} {x : E} {w : Agenda (Entry S E) (Memo C G)} (h : P w.memo.meter) :
    (sp.relax m cur x w).Holds (fun w' => P w'.memo.meter) fun w' _ => P w'.memo.meter := by
  unfold relax
  have hs := hP.scan _ h
  split
  · rename_i g he; rw [he] at hs; exact hs
  rename_i g he; rw [he] at hs
  split
  · exact hs
  have hd := hP.deepen (cur.depth + 1) g hs
  split
  · rename_i g' he; rw [he] at hd; exact hd
  rename_i g' he; rw [he] at hd
  split
  · exact hd
  split
  · exact hd
  rename_i t _
  split
  · exact hd
  have hv := hP.visit t g' hd
  split
  · rename_i g'' he; rw [he] at hv; exact hv
  · rename_i g'' he; rw [he] at hv; exact hv

theorem forOf_relax_keeps {sp : Space S E C} {m : Meter S G} {P : G → Prop} (hP : m.Keeps P)
    {cur : Entry S E} (xs : List E) {w : Agenda (Entry S E) (Memo C G)} (h : P w.memo.meter) :
    (forOf (sp.relax m cur) xs w).Holds (fun w' => P w'.memo.meter)
      fun w' _ => P w'.memo.meter := by
  have hstep : ∀ x ∈ xs, ∀ w : Agenda (Entry S E) (Memo C G), P w.memo.meter →
      (sp.relax m cur x w).Holds (fun w' => P w'.memo.meter) fun w' _ => P w'.memo.meter :=
    fun x _ w hw => relax_keeps hP hw
  exact forOf_keeps hstep h

theorem search_meter {sp : Space S E C} {m : Meter S G} {P : G → Prop} (hP : m.Keeps P)
    {w : Agenda (Entry S E) (Memo C G)} (h : P w.memo.meter) {fuel : Nat}
    {out : Flow (Agenda (Entry S E) (Memo C G)) (List E)}
    (hout : sp.search m fuel w = some out) : P out.state.memo.meter := by
  refine worklist_keeps (P := fun memo : Memo C G => P memo.meter) ?_ h hout
  intro e q memo hm
  exact forOf_relax_keeps hP (sp.edges e.state) hm

/-- Queue entries plus the edges the meter still grants. -/
def budget (left : G → Nat) (w : Agenda (Entry S E) (Memo C G)) : Nat :=
  w.queue.length + left w.memo.meter

theorem relax_budget {sp : Space S E C} {m : Meter S G} {left : G → Nat} (hm : m.Draining left)
    (cur : Entry S E) (x : E) (w : Agenda (Entry S E) (Memo C G)) :
    (sp.relax m cur x w).Holds (fun w' => budget left w' ≤ budget left w) fun _ _ => True := by
  unfold relax
  have hs := hm.scan w.memo.meter
  split
  · trivial
  rename_i g he; rw [he] at hs
  have hs := hs rfl
  simp only at hs
  split
  · simp only [Flow.Holds, budget]; omega
  have hd := hm.deepen (cur.depth + 1) g
  split
  · trivial
  rename_i g' he; rw [he] at hd
  simp only at hd
  split
  · trivial
  split
  · simp only [Flow.Holds, budget]; omega
  rename_i t _
  split
  · simp only [Flow.Holds, budget]; omega
  have hv := hm.visit t g'
  split
  · trivial
  · rename_i g'' he; rw [he] at hv
    simp only [Flow.Holds, budget, List.length_append, List.length_singleton] at hv ⊢
    omega

/-- **Every metered search ends**: one turn for each entry in the queue and
one for each edge the meter grants, plus one to notice the empty queue. -/
theorem search_isSome {sp : Space S E C} {m : Meter S G} {left : G → Nat} (hm : m.Draining left)
    {w : Agenda (Entry S E) (Memo C G)} {fuel : Nat} (h : budget left w < fuel) :
    (sp.search m fuel w).isSome := by
  refine worklist_isSome (μ := budget left) ?_ h
  intro a q memo
  refine (forOf_keeps (P := fun w' => budget left w' ≤ budget left ⟨q, memo⟩) ?_
    (Nat.le_refl _)).mono ?_ fun _ _ => id
  · intro x _ w' hw'
    exact (relax_budget hm a x w').mono (fun w'' h'' => Nat.le_trans h'' hw') fun _ _ => id
  · intro w' hw'
    simp only [budget, List.length_cons] at hw' ⊢
    omega

theorem search_mono {sp : Space S E C} {m : Meter S G} {w : Agenda (Entry S E) (Memo C G)}
    {n k : Nat} {out : Flow (Agenda (Entry S E) (Memo C G)) (List E)}
    (h : sp.search m n w = some out) (hk : n ≤ k) : sp.search m k w = some out :=
  worklist_mono h hk

end Space

/-! ## The unmetered search -/

namespace Meter

/-- The meter that grants everything. -/
def free (S : Type*) : Meter S Unit where
  scan _ := (true, ())
  deepen _ _ := (true, ())
  visit _ _ := (true, ())
  ok _ := True
  scan_ok _ := by simp
  deepen_ok _ _ := by simp
  visit_ok _ _ := by simp

/-- A meter that has refused stays so. -/
theorem keeps_refused {S G : Type*} (m : Meter S G) : m.Keeps fun g => ¬ m.ok g where
  scan g h h' := h ((m.scan_ok g).1 h').1
  deepen d g h h' := h ((m.deepen_ok d g).1 h').1
  visit s g h h' := h ((m.visit_ok s g).1 h').1

end Meter

namespace Space

variable {S E C G : Type*}

/-- The edges that can do something: end the search or lead on. -/
def liveAt (sp : Space S E C) (s : S) (x : E) : Bool :=
  sp.usable s x && (sp.goal s x || (sp.next s x).isSome)

/-- The same space with the other edges left out. -/
def live (sp : Space S E C) : Space S E C :=
  { sp with edges := fun s => (sp.edges s).filter (sp.liveAt s), usable := fun _ _ => true }

def forget (w : Agenda (Entry S E) (Memo C G)) : Agenda (Entry S E) (Memo C Unit) :=
  ⟨w.queue, ⟨w.memo.seen, ()⟩⟩

def forgetFlow : Flow (Agenda (Entry S E) (Memo C G)) (List E) →
    Flow (Agenda (Entry S E) (Memo C Unit)) (List E)
  | .step w => .step (forget w)
  | .stop w p => .stop (forget w) p

/-- An edge that the meter grants does in the live space what it does here,
or it is not live and does nothing. -/
theorem relax_free {sp : Space S E C} {m : Meter S G} {cur : Entry S E} {x : E}
    {w : Agenda (Entry S E) (Memo C G)} (hok : m.ok (sp.relax m cur x w).state.memo.meter) :
    if sp.liveAt cur.state x = true then
      sp.live.relax (Meter.free S) cur x (forget w) = forgetFlow (sp.relax m cur x w)
    else .step (forget w) = forgetFlow (sp.relax m cur x w) := by
  unfold relax at hok ⊢
  have hs := m.scan_ok w.memo.meter
  split at hok
  · rename_i g he; rw [he] at hs
    simp only [Flow.state] at hok hs
    exact absurd (hs.1 hok).2 (by simp)
  rename_i g he
  simp only [Meter.free, live]
  split at hok
  · rename_i hu; simp [liveAt, hu, forgetFlow, forget]
  rename_i hu
  have hd := m.deepen_ok (cur.depth + 1) g
  have hu : sp.usable cur.state x = true := by simpa using hu
  split at hok
  · rename_i g' he; rw [he] at hd
    simp only [Flow.state] at hok hd
    exact absurd (hd.1 hok).2 (by simp)
  rename_i g' he
  split at hok
  · rename_i hg; simp [liveAt, hu, hg, forgetFlow, forget]
  rename_i hg
  split at hok
  · rename_i hn; simp [liveAt, hu, hg, hn, forgetFlow, forget]
  rename_i t hn
  split at hok
  · rename_i hc; simp [liveAt, hu, hg, hn, hc, forgetFlow, forget]
  rename_i hc
  have hv := m.visit_ok t g'
  split at hok
  · rename_i g'' he; rw [he] at hv
    simp only [Flow.state] at hok hv
    exact absurd (hv.1 hok).2 (by simp)
  rename_i g'' he
  simp [liveAt, hu, hg, hn, hc, forgetFlow, forget]

/-- A granted scan of some edges was granted throughout. -/
theorem forOf_ok {sp : Space S E C} {m : Meter S G} {cur : Entry S E} {xs : List E}
    {w : Agenda (Entry S E) (Memo C G)}
    (h : m.ok (forOf (sp.relax m cur) xs w).state.memo.meter) : m.ok w.memo.meter := by
  by_contra hn
  have : (forOf (sp.relax m cur) xs w).Holds _ _ := forOf_relax_keeps m.keeps_refused xs hn
  cases hf : forOf (sp.relax m cur) xs w with
  | step w' => rw [hf] at this h; exact this h
  | stop w' p => rw [hf] at this h; exact this h

theorem forOf_free {sp : Space S E C} {m : Meter S G} {cur : Entry S E} (xs : List E)
    {w : Agenda (Entry S E) (Memo C G)}
    (hok : m.ok (forOf (sp.relax m cur) xs w).state.memo.meter) :
    forOf (sp.live.relax (Meter.free S) cur) (xs.filter (sp.liveAt cur.state)) (forget w) =
      forgetFlow (forOf (sp.relax m cur) xs w) := by
  induction xs generalizing w with
  | nil => rfl
  | cons x xs ih =>
    have hx : m.ok (sp.relax m cur x w).state.memo.meter := by
      simp only [forOf] at hok
      cases hr : sp.relax m cur x w with
      | step w' => rw [hr] at hok; exact forOf_ok hok
      | stop w' p => rw [hr] at hok; exact hok
    have hfree := relax_free hx
    simp only [forOf] at hok ⊢
    cases hr : sp.relax m cur x w with
    | step w' =>
      rw [hr] at hok hfree
      by_cases hl : sp.liveAt cur.state x = true
      · rw [if_pos hl] at hfree
        simp only [List.filter_cons, hl, if_true, forOf, hfree, forgetFlow]
        exact ih hok
      · rw [if_neg hl] at hfree
        simp only [forgetFlow, Flow.step.injEq] at hfree
        simp only [List.filter_cons, hl, if_false, Bool.false_eq_true, hfree]
        exact ih hok
    | stop w' p =>
      rw [hr] at hfree
      by_cases hl : sp.liveAt cur.state x = true
      · rw [if_pos hl] at hfree
        simp only [List.filter_cons, hl, if_true, forOf, hfree, forgetFlow]
      · rw [if_neg hl] at hfree
        simp [forgetFlow] at hfree

/-- **The meter does not steer.** A search that was not refused returns what
the unmetered search on the live edges returns. -/
theorem search_free {sp : Space S E C} {m : Meter S G} {fuel : Nat}
    {w : Agenda (Entry S E) (Memo C G)} {out : Flow (Agenda (Entry S E) (Memo C G)) (List E)}
    (h : sp.search m fuel w = some out) (hok : m.ok out.state.memo.meter) :
    sp.live.search (Meter.free S) fuel (forget w) = some (forgetFlow out) := by
  induction fuel generalizing w with
  | zero => cases h
  | succ n ih =>
    obtain ⟨q, memo⟩ := w
    cases q with
    | nil =>
      simp only [search, worklist, Option.some.injEq] at h
      subst h
      rfl
    | cons e q =>
      simp only [search, worklist] at h ih ⊢
      have hexp : m.ok (sp.expand m e ⟨q, memo⟩).state.memo.meter := by
        cases hv : sp.expand m e ⟨q, memo⟩ with
        | stop w' p =>
          rw [hv] at h
          simp only [Option.some.injEq] at h
          subst h
          exact hok
        | step w' =>
          rw [hv] at h
          by_contra hn
          exact search_meter m.keeps_refused hn h hok
      have hfree : sp.live.expand (Meter.free S) e ⟨q, ⟨memo.seen, ()⟩⟩ =
          forgetFlow (sp.expand m e ⟨q, memo⟩) := forOf_free (sp.edges e.state) hexp
      cases hv : sp.expand m e ⟨q, memo⟩ with
      | step w' =>
        rw [hv] at h hfree
        simp only [forget, hfree, forgetFlow]
        exact ih h
      | stop w' p =>
        rw [hv] at h hfree
        simp only [Option.some.injEq] at h
        subst h
        simp only [forget, hfree, forgetFlow]

/-! ## Two spaces that look alike from the root -/

/-- Reached by some walk. -/
def Reached (sp : Space S E C) (root s : S) : Prop := ∃ trail, Walk sp root trail s

/-- The two spaces do the same at every state reached from the root. -/
structure Alike (sp sp' : Space S E C) (root : S) : Prop where
  edges : ∀ s, Reached sp root s → sp.edges s = sp'.edges s
  usable : ∀ s, Reached sp root s → ∀ x ∈ sp.edges s, sp.usable s x = sp'.usable s x
  goal : ∀ s, Reached sp root s → ∀ x ∈ sp.edges s, sp.goal s x = sp'.goal s x
  next : ∀ s, Reached sp root s → ∀ x ∈ sp.edges s, sp.next s x = sp'.next s x
  covered : sp.covered = sp'.covered
  mark : sp.mark = sp'.mark

theorem Alike.walk {sp sp' : Space S E C} {root : S} (ha : Alike sp sp' root) {trail : List E}
    {s : S} (h : Walk sp' root trail s) : Walk sp root trail s := by
  induction h with
  | root => exact .root
  | @snoc trail s t x _ hx hu hn ih =>
    have hr : Reached sp root s := ⟨trail, ih⟩
    rw [← ha.edges s hr] at hx
    rw [← ha.usable s hr x hx] at hu
    rw [← ha.next s hr x hx] at hn
    exact .snoc ih hx hu hn

theorem Alike.symm {sp sp' : Space S E C} {root : S} (ha : Alike sp sp' root) :
    Alike sp' sp root := by
  have hr : ∀ s, Reached sp' root s → Reached sp root s := fun s ⟨trail, h⟩ => ⟨trail, ha.walk h⟩
  refine ⟨fun s h => (ha.edges s (hr s h)).symm, ?_, ?_, ?_, ha.covered.symm, ha.mark.symm⟩
  · intro s h x hx
    rw [← ha.edges s (hr s h)] at hx
    exact (ha.usable s (hr s h) x hx).symm
  · intro s h x hx
    rw [← ha.edges s (hr s h)] at hx
    exact (ha.goal s (hr s h) x hx).symm
  · intro s h x hx
    rw [← ha.edges s (hr s h)] at hx
    exact (ha.next s (hr s h) x hx).symm

/-- The part of the space the search can see: states with a walk to them. -/
def Sees (sp : Space S E C) (root : S) (w : Agenda (Entry S E) (Memo C G)) : Prop :=
  ∀ e ∈ w.queue, Reached sp root e.state

theorem relax_sees {sp : Space S E C} {m : Meter S G} {root : S} {cur : Entry S E} {x : E}
    {w : Agenda (Entry S E) (Memo C G)} (hcur : Reached sp root cur.state)
    (hx : x ∈ sp.edges cur.state) (h : Sees sp root w) :
    (sp.relax m cur x w).Holds (Sees sp root) fun _ _ => True := by
  unfold relax
  split
  · trivial
  split
  · exact h
  rename_i hu
  have hu : sp.usable cur.state x = true := by simpa using hu
  split
  · trivial
  split
  · trivial
  split
  · exact h
  rename_i t hn
  split
  · exact h
  split
  · trivial
  · intro e he
    rcases List.mem_append.1 he with he | he
    · exact h e he
    · rw [List.mem_singleton] at he
      subst he
      obtain ⟨trail, hw⟩ := hcur
      exact ⟨x :: trail, .snoc hw hx hu hn⟩

theorem relax_congr {sp sp' : Space S E C} {m : Meter S G} {root : S} (ha : Alike sp sp' root)
    {cur : Entry S E} {x : E} (hcur : Reached sp root cur.state) (hx : x ∈ sp.edges cur.state)
    (w : Agenda (Entry S E) (Memo C G)) : sp.relax m cur x w = sp'.relax m cur x w := by
  simp only [relax, ha.usable _ hcur x hx, ha.goal _ hcur x hx, ha.next _ hcur x hx, ha.covered,
    ha.mark]

theorem expand_congr {sp sp' : Space S E C} {m : Meter S G} {root : S} (ha : Alike sp sp' root)
    {cur : Entry S E} (hcur : Reached sp root cur.state) (w : Agenda (Entry S E) (Memo C G)) :
    sp.expand m cur w = sp'.expand m cur w := by
  have : ∀ xs : List E, (∀ x ∈ xs, x ∈ sp.edges cur.state) → ∀ w,
      forOf (sp.relax m cur) xs w = forOf (sp'.relax m cur) xs w := by
    intro xs
    induction xs with
    | nil => intro _ w; rfl
    | cons x xs ih =>
      intro hxs w
      simp only [forOf, relax_congr ha hcur (hxs x List.mem_cons_self) w]
      cases sp'.relax m cur x w with
      | step w' => exact ih (fun y hy => hxs y (List.mem_cons_of_mem _ hy)) w'
      | stop w' p => rfl
  rw [expand, expand, ← ha.edges _ hcur]
  exact this _ (fun _ => id) w

/-- **Congruence.** Spaces that agree on what the root reaches give the same
search, result and meter included. -/
theorem search_congr {sp sp' : Space S E C} {m : Meter S G} {root : S} (ha : Alike sp sp' root)
    (fuel : Nat) {w : Agenda (Entry S E) (Memo C G)} (hw : Sees sp root w) :
    sp.search m fuel w = sp'.search m fuel w := by
  induction fuel generalizing w with
  | zero => rfl
  | succ n ih =>
    obtain ⟨q, memo⟩ := w
    cases q with
    | nil => rfl
    | cons e q =>
      have he : Reached sp root e.state := hw e List.mem_cons_self
      have hsees : (sp.expand m e ⟨q, memo⟩).Holds (Sees sp root) fun _ _ => True :=
        forOf_keeps (fun x hx _ h => relax_sees he hx h)
          (fun a ha => hw a (List.mem_cons_of_mem _ ha))
      simp only [search, worklist, ← expand_congr ha he] at ih ⊢
      cases hv : sp.expand m e ⟨q, memo⟩ with
      | step w' =>
        rw [hv] at hsees
        exact ih hsees
      | stop w' p => rfl

theorem sees_start {sp : Space S E C} {root : S} {seen : C} {g : G} :
    Sees sp root (start root seen g) := by
  intro e he
  simp only [start, List.mem_singleton] at he
  subst he
  exact ⟨[], .root⟩

end Space

end AccessKit.Core
