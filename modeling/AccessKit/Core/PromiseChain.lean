import Mathlib.Data.List.Basic

/-!
# Writes chained on promises

A store that answers from memory and sends each write to a database behind the promise
of the write before it: `queue = queue.then(write)`. A write runs when the one before it
was fulfilled; when that one was rejected, it is rejected without running. A query is
carried out whole or not at all: it may be refused, it may be carried out and its answer
lost, or it may be carried out and answered.

Results:
* `PromiseChain.Prefix.step`: what one step keeps of the first `n` writes being carried out.
* `WriteBehind.run_behind`: in every run the memory has all writes and the database a
  prefix of them.
* `WriteBehind.mirrors_of_all`: a database that has all of them holds what memory does.
-/
namespace AccessKit.Core

variable {W D : Type*}

/-- The promise of a write. `applied`: the database carried it out, and the answer is
under way. -/
inductive Promise
  | pending
  | applied
  | fulfilled
  | rejected
  deriving DecidableEq, Repr

/-- The writes in their order, each with its promise, and the database behind them. -/
structure PromiseChain (W D : Type*) where
  links : List (W × Promise)
  db : D

namespace PromiseChain

/-- What can happen to the `i`-th write: its query is sent, and may be refused; the answer
comes, or is lost; or it is rejected because the write before it was. -/
inductive Event
  | query (i : Nat) (refused : Bool)
  | answer (i : Nat) (lost : Bool)
  | reject (i : Nat)
  deriving DecidableEq, Repr

def promise (links : List (W × Promise)) (i : Nat) : Promise :=
  (links[i]?.map Prod.snd).getD .pending

/-- The promise that the `i`-th write is chained on. -/
def before (links : List (W × Promise)) : Nat → Promise
  | 0 => .fulfilled
  | i + 1 => promise links i

def settle (i : Nat) (p : Promise) (links : List (W × Promise)) : List (W × Promise) :=
  links.modify i fun link => (link.1, p)

def writes (c : PromiseChain W D) : List W := c.links.map Prod.fst

def enqueue (w : W) (c : PromiseChain W D) : PromiseChain W D :=
  { c with links := c.links ++ [(w, .pending)] }

section
variable (execute : W → D → Option D)

/-- `execute` is `none` when the database or the code rejects the query. -/
def step (c : PromiseChain W D) : Event → Option (PromiseChain W D)
  | .query i refused =>
    match c.links[i]?, before c.links i with
    | some (w, .pending), .fulfilled =>
      match if refused then none else execute w c.db with
      | some db => some { links := settle i .applied c.links, db }
      | none => some { c with links := settle i .rejected c.links }
    | _, _ => none
  | .answer i lost =>
    match promise c.links i with
    | .applied =>
      some { c with links := settle i (if lost then .rejected else .fulfilled) c.links }
    | _ => none
  | .reject i =>
    match c.links[i]?, before c.links i with
    | some (_, .pending), .rejected => some { c with links := settle i .rejected c.links }
    | _, _ => none

/-- The database after writes that are all carried out. -/
def carriedOut (ws : List W) (db : D) : Option D := ws.foldlM (fun db w => execute w db) db

end

section
variable {execute : W → D → Option D} {c c' : PromiseChain W D}

theorem writes_settle (i : Nat) (p : Promise) (links : List (W × Promise)) :
    (settle i p links).map Prod.fst = links.map Prod.fst := by
  induction links generalizing i with
  | nil => simp [settle]
  | cons link links ih =>
    cases i with
    | zero => rfl
    | succ i => simpa [settle] using ih i

theorem promise_settle (i j : Nat) (p : Promise) (links : List (W × Promise))
    (hi : i < links.length) :
    promise (settle i p links) j = if i = j then p else promise links j := by
  unfold promise settle
  rw [List.getElem?_modify]
  by_cases h : i = j
  · subst h
    simp [hi]
  · simp [h]

theorem promise_enqueue (w : W) (links : List (W × Promise)) (i : Nat) :
    promise (links ++ [(w, .pending)]) i = promise links i := by
  unfold promise
  rcases Nat.lt_trichotomy i links.length with h | h | h
  · rw [List.getElem?_append_left h]
  · subst h
    simp
  · rw [List.getElem?_eq_none (by simp; omega), List.getElem?_eq_none (by omega)]

theorem lt_of_promise {links : List (W × Promise)} {i : Nat}
    (h : promise links i ≠ .pending) : i < links.length := by
  by_contra hle
  exact h (by simp [promise, List.getElem?_eq_none (Nat.le_of_not_lt hle)])

theorem promise_of_get {links : List (W × Promise)} {i : Nat} {w : W} {p : Promise}
    (h : links[i]? = some (w, p)) : promise links i = p := by
  simp [promise, h]

/-- Everything a step can do: carry out the next write, settle the promise of one that was
carried out, or reject one that was not. -/
theorem step_cases {e : Event} (h : c.step execute e = some c') :
    (∃ i w db, c.links[i]? = some (w, .pending) ∧ before c.links i = .fulfilled ∧
      execute w c.db = some db ∧ c' = ⟨settle i .applied c.links, db⟩) ∨
    (∃ i p, promise c.links i = .applied ∧ (p = .fulfilled ∨ p = .rejected) ∧
      c' = { c with links := settle i p c.links }) ∨
    (∃ i w, c.links[i]? = some (w, .pending) ∧
      c' = { c with links := settle i .rejected c.links }) := by
  cases e with
  | query i refused =>
    rw [step] at h
    split at h
    · rename_i w hget hbefore
      split at h
      · rename_i db hdb
        obtain ⟨-, hdb⟩ : refused = false ∧ execute w c.db = some db := by
          cases refused <;> simp_all
        exact .inl ⟨i, w, db, hget, hbefore, hdb, (Option.some.inj h).symm⟩
      · exact .inr (.inr ⟨i, w, hget, (Option.some.inj h).symm⟩)
    · cases h
  | answer i lost =>
    rw [step] at h
    split at h
    · rename_i happlied
      refine .inr (.inl ⟨i, _, happlied, ?_, (Option.some.inj h).symm⟩)
      cases lost <;> simp
    · cases h
  | reject i =>
    rw [step] at h
    split at h
    · rename_i w hget _
      exact .inr (.inr ⟨i, w, hget, (Option.some.inj h).symm⟩)
    · cases h

theorem step_writes {e : Event} (h : c.step execute e = some c') : c'.writes = c.writes := by
  obtain ⟨i, w, db, -, -, -, rfl⟩ | ⟨i, p, -, -, rfl⟩ | ⟨i, w, -, rfl⟩ := step_cases h <;>
    exact writes_settle _ _ _

/-- The database has the first `n` writes. All but the last of them are fulfilled, and
those after them did not run. -/
structure Prefix (execute : W → D → Option D) (db₀ : D) (c : PromiseChain W D) (n : Nat) :
    Prop where
  le : n ≤ c.writes.length
  carried : carriedOut execute (c.writes.take n) db₀ = some c.db
  fulfilled : ∀ i, i + 1 < n → promise c.links i = .fulfilled
  reached : ∀ i < n, promise c.links i ≠ .pending
  unreached : ∀ i, n ≤ i → promise c.links i = .pending ∨ promise c.links i = .rejected

namespace Prefix
variable {db₀ : D} {n : Nat}

theorem initial : Prefix execute db₀ ⟨[], db₀⟩ 0 where
  le := Nat.le_refl 0
  carried := rfl
  fulfilled _ h := absurd h (by omega)
  reached _ h := absurd h (by omega)
  unreached _ _ := .inl rfl

theorem enqueue (h : Prefix execute db₀ c n) (w : W) : Prefix execute db₀ (c.enqueue w) n := by
  have hwrites : (c.enqueue w).writes = c.writes ++ [w] := by simp [writes, PromiseChain.enqueue]
  have hpromise (i : Nat) : promise (c.enqueue w).links i = promise c.links i :=
    promise_enqueue w c.links i
  exact
    { le := by
        rw [hwrites, List.length_append]
        exact Nat.le_trans h.le (Nat.le_add_right ..)
      carried := by
        rw [hwrites, List.take_append_of_le_length h.le]
        exact h.carried
      fulfilled := fun i hi => (hpromise i).trans (h.fulfilled i hi)
      reached := fun i hi => by
        rw [hpromise]
        exact h.reached i hi
      unreached := fun i hi => by
        rw [hpromise]
        exact h.unreached i hi }

theorem lt_of_fulfilled (h : Prefix execute db₀ c n) {i : Nat}
    (hi : promise c.links i = .fulfilled) : i < n := by
  by_contra hle
  rcases h.unreached i (Nat.le_of_not_lt hle) with hp | hp <;> simp [hp] at hi

/-- **Nothing after a failure.** No write after a rejected one was carried out. -/
theorem le_of_rejected (h : Prefix execute db₀ c n) {i : Nat}
    (hi : promise c.links i = .rejected) : n ≤ i + 1 := by
  by_contra hlt
  have := h.fulfilled i (Nat.lt_of_not_le hlt)
  simp [hi] at this

/-- The write to run is the first that was not carried out. -/
theorem eq_of_next (h : Prefix execute db₀ c n) {i : Nat} (hpending : promise c.links i = .pending)
    (hbefore : before c.links i = .fulfilled) : i = n := by
  have hge : n ≤ i := Nat.le_of_not_lt fun hlt => h.reached i hlt hpending
  cases i with
  | zero => omega
  | succ i =>
    have := h.lt_of_fulfilled hbefore
    omega

theorem reject (h : Prefix execute db₀ c n) {i : Nat} (hi : i < c.links.length) (hle : n ≤ i) :
    Prefix execute db₀ { c with links := settle i .rejected c.links } n where
  le := by
    have hle := h.le
    simpa only [writes, writes_settle] using hle
  carried := by
    have hcarried := h.carried
    simpa only [writes, writes_settle] using hcarried
  fulfilled j hj := by
    rw [promise_settle _ _ _ _ hi, if_neg (by omega)]
    exact h.fulfilled j hj
  reached j hj := by
    rw [promise_settle _ _ _ _ hi, if_neg (by omega)]
    exact h.reached j hj
  unreached j hj := by
    rw [promise_settle _ _ _ _ hi]
    split
    · exact .inr rfl
    · exact h.unreached j hj

theorem answer (h : Prefix execute db₀ c n) {i : Nat} (happlied : promise c.links i = .applied)
    {p : Promise} (hp : p = .fulfilled ∨ p = .rejected) :
    Prefix execute db₀ { c with links := settle i p c.links } n := by
  have hi : i < c.links.length := lt_of_promise (by simp [happlied])
  have hlt : i < n := by
    by_contra hle
    rcases h.unreached i (Nat.le_of_not_lt hle) with hq | hq <;> simp [hq] at happlied
  have hlast : n ≤ i + 1 := by
    by_contra hnot
    have := h.fulfilled i (Nat.lt_of_not_le hnot)
    simp [happlied] at this
  exact
    { le := by
        have hle := h.le
        simpa only [writes, writes_settle] using hle
      carried := by
        have hcarried := h.carried
        simpa only [writes, writes_settle] using hcarried
      fulfilled := fun j hj => by
        rw [promise_settle _ _ _ _ hi, if_neg (by omega)]
        exact h.fulfilled j hj
      reached := fun j hj => by
        rw [promise_settle _ _ _ _ hi]
        split
        · rcases hp with rfl | rfl <;> simp
        · exact h.reached j hj
      unreached := fun j hj => by
        rw [promise_settle _ _ _ _ hi, if_neg (by omega)]
        exact h.unreached j hj }

theorem query (h : Prefix execute db₀ c n) {w : W} {db : D}
    (hget : c.links[n]? = some (w, .pending)) (hbefore : before c.links n = .fulfilled)
    (hdb : execute w c.db = some db) :
    Prefix execute db₀ ⟨settle n .applied c.links, db⟩ (n + 1) := by
  obtain ⟨hn, -⟩ := List.getElem?_eq_some_iff.1 hget
  have hwrite : c.writes[n]? = some w := by simp [writes, hget]
  exact
    { le := by
        rw [writes, writes_settle, List.length_map]
        exact hn
      carried := by
        change carriedOut execute (((settle n .applied c.links).map Prod.fst).take (n + 1)) db₀ = _
        have hcarried := h.carried
        simp only [carriedOut] at hcarried
        rw [writes_settle, ← writes, List.take_add_one, hwrite, carriedOut, List.foldlM_append,
          hcarried]
        simpa using hdb
      fulfilled := fun j hj => by
        rw [promise_settle _ _ _ _ hn, if_neg (by omega)]
        by_cases hlast : j + 1 = n
        · subst hlast
          exact hbefore
        · exact h.fulfilled j (by omega)
      reached := fun j hj => by
        rw [promise_settle _ _ _ _ hn]
        split
        · simp
        · exact h.reached j (by omega)
      unreached := fun j hj => by
        rw [promise_settle _ _ _ _ hn, if_neg (by omega)]
        exact h.unreached j (by omega) }

/-- **One step.** It carries out at most the next write. -/
theorem step (h : Prefix execute db₀ c n) {e : Event} (hstep : c.step execute e = some c') :
    ∃ n', Prefix execute db₀ c' n' := by
  obtain ⟨i, w, db, hget, hbefore, hdb, rfl⟩ | ⟨i, p, happlied, hp, rfl⟩ | ⟨i, w, hget, rfl⟩ :=
    step_cases hstep
  · obtain rfl := h.eq_of_next (promise_of_get hget) hbefore
    exact ⟨i + 1, h.query hget hbefore hdb⟩
  · exact ⟨n, h.answer happlied hp⟩
  · have hle : n ≤ i := Nat.le_of_not_lt fun hlt => h.reached i hlt (promise_of_get hget)
    exact ⟨n, h.reject (List.getElem?_eq_some_iff.1 hget).1 hle⟩

end Prefix

end

end PromiseChain

/-- A store that answers from memory and writes behind. `perform` is an operation on the
memory: it throws, or it leaves a memory and perhaps a write to send. `apply` is what a
write stands for in the memory. -/
structure WriteBehind (O M W D : Type*) where
  perform : O → M → Except String (M × Option W)
  apply : W → M → M
  execute : W → D → Option D

namespace WriteBehind
variable {O M : Type*}

structure World (M W D : Type*) where
  memory : M
  chain : PromiseChain W D

/-- An operation is called, or something happens to a write. -/
inductive Event (O : Type*)
  | call (op : O)
  | chain (e : PromiseChain.Event)

/-- A store that was just opened. -/
def World.initial (memory : M) (db : D) : World M W D := ⟨memory, ⟨[], db⟩⟩

section
variable (store : WriteBehind O M W D)

/-- A call that throws changes nothing. -/
def step (world : World M W D) : Event O → Option (World M W D)
  | .call op =>
    match store.perform op world.memory with
    | .error _ => some world
    | .ok (memory, none) => some { world with memory }
    | .ok (memory, some w) => some ⟨memory, world.chain.enqueue w⟩
  | .chain e => (world.chain.step store.execute e).map fun chain => { world with chain }

def run (world : World M W D) (events : List (Event O)) : Option (World M W D) :=
  events.foldlM store.step world

/-- The promise that a wait in `world` captures has been fulfilled in `later`. -/
def Waited (world later : World M W D) : Prop :=
  PromiseChain.before later.chain.links world.chain.links.length = .fulfilled

instance (world later : World M W D) : Decidable (Waited world later) :=
  inferInstanceAs (Decidable (_ = _))

/-- The memory is what the writes make of it. -/
structure Faithful : Prop where
  written : ∀ {op : O} {m m' : M} {w : W},
    store.perform op m = .ok (m', some w) → m' = store.apply w m
  unwritten : ∀ {op : O} {m m' : M}, store.perform op m = .ok (m', none) → m' = m

/-- What holds in every run from `memory₀` and `db₀`. -/
structure Behind (memory₀ : M) (db₀ : D) (world : World M W D) (n : Nat) : Prop where
  memory : world.memory = world.chain.writes.foldl (fun m w => store.apply w m) memory₀
  sent : PromiseChain.Prefix store.execute db₀ world.chain n

end

section
variable {store : WriteBehind O M W D} {memory₀ : M} {db₀ : D} {world later : World M W D} {n : Nat}

theorem Behind.initial : store.Behind memory₀ db₀ (.initial memory₀ db₀) 0 :=
  ⟨rfl, .initial⟩

theorem Behind.step (hfaithful : store.Faithful) (h : store.Behind memory₀ db₀ world n)
    {e : Event O} (hstep : store.step world e = some later) :
    ∃ n', store.Behind memory₀ db₀ later n' := by
  cases e with
  | call op =>
    rw [WriteBehind.step] at hstep
    split at hstep
    · obtain rfl := Option.some.inj hstep
      exact ⟨n, h⟩
    · rename_i memory hperform
      obtain rfl := Option.some.inj hstep
      refine ⟨n, ?_, h.sent⟩
      rw [hfaithful.unwritten hperform]
      exact h.memory
    · rename_i memory w hperform
      obtain rfl := Option.some.inj hstep
      refine ⟨n, ?_, h.sent.enqueue w⟩
      rw [hfaithful.written hperform, h.memory]
      simp [PromiseChain.writes, PromiseChain.enqueue]
  | chain e =>
    obtain ⟨chain, hchain, rfl⟩ := Option.map_eq_some_iff.1 hstep
    obtain ⟨n', hn'⟩ := h.sent.step hchain
    refine ⟨n', ?_, hn'⟩
    rw [PromiseChain.step_writes hchain]
    exact h.memory

/-- **Every run.** Calls and answers in any order leave the database with a prefix of the
writes that the memory has. -/
theorem run_behind (hfaithful : store.Faithful) {events : List (Event O)}
    (h : store.Behind memory₀ db₀ world n) (hrun : store.run world events = some later) :
    ∃ n', store.Behind memory₀ db₀ later n' := by
  induction events generalizing world n with
  | nil =>
    obtain rfl := Option.some.inj hrun
    exact ⟨n, h⟩
  | cons e events ih =>
    obtain ⟨next, hstep, hrest⟩ := Option.bind_eq_some_iff.1 hrun
    obtain ⟨n', h'⟩ := h.step hfaithful hstep
    exact ih h' hrest

/-- **A wait that ended.** The writes before it are all carried out. -/
theorem Behind.le_of_waited (h : store.Behind memory₀ db₀ later n) (hwaited : Waited world later) :
    world.chain.writes.length ≤ n := by
  have hlength : world.chain.writes.length = world.chain.links.length := List.length_map ..
  rw [hlength]
  unfold Waited at hwaited
  cases hl : world.chain.links.length with
  | zero => exact Nat.zero_le n
  | succ i =>
    rw [hl] at hwaited
    exact h.sent.lt_of_fulfilled hwaited

/-- When one write keeps what the database has to do with the memory, all of them do. -/
theorem mirrors_of_all {Mirrors : M → D → Prop}
    (hwrite : ∀ w m db db', Mirrors m db → store.execute w db = some db' →
      Mirrors (store.apply w m) db')
    (ws : List W) {m : M} {db db' : D} (h : Mirrors m db)
    (hrun : PromiseChain.carriedOut store.execute ws db = some db') :
    Mirrors (ws.foldl (fun m w => store.apply w m) m) db' := by
  induction ws generalizing m db with
  | nil =>
    obtain rfl := Option.some.inj hrun
    exact h
  | cons w ws ih =>
    obtain ⟨next, hnext, hrest⟩ := Option.bind_eq_some_iff.1 hrun
    exact ih (hwrite w m db next h hnext) hrest

end

end WriteBehind

end AccessKit.Core
