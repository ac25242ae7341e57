import Mathlib.Data.List.Induction

/-!
# Backups

A system keeps copies of its contents under identifiers, and a list of entries, one for each
copy that it made. An entry names its copy and carries its digest. A copy comes with the list
of its time, and to restore it brings both back. A copy replaces the one that was there under
its identifier.

Results:
* `Lawful.restores`: while no identifier is used again for other contents, each entry names a
  copy of its digest, and a copy that was made can be restored.
* `Lawful.unused`: and only then.
-/
namespace AccessKit.Core

/-- A copy of the contents, with the entries of its time. -/
structure Backup (C E : Type*) where
  content : C
  entries : List E

/-- A system with backups. `Op` are its other calls, and `P` is what else it takes to back up
and to restore. -/
structure BackupSystem (σ Op P I C E D : Type*) where
  content : σ → C
  entries : σ → List E
  backup : σ → I → Option (Backup C E)
  call : σ → Op → σ
  create : σ → I → P → σ × Except String E
  restore : σ → I → P → σ × Except String Unit
  entryId : E → I
  entryDigest : E → D
  digest : C → D

inductive BackupCall (Op P I : Type*)
  | call (op : Op)
  | create (id : I) (p : P)
  | restore (id : I) (p : P)

namespace BackupSystem

section
variable {σ Op P I C E D : Type*} (B : BackupSystem σ Op P I C E D)

def perform (s : σ) : BackupCall Op P I → σ
  | .call op => B.call s op
  | .create id p => (B.create s id p).1
  | .restore id p => (B.restore s id p).1

def run (s : σ) (calls : List (BackupCall Op P I)) : σ := calls.foldl B.perform s

theorem perform_call (s : σ) (op : Op) : B.perform s (.call op) = B.call s op := rfl

theorem perform_create (s : σ) (id : I) (p : P) : B.perform s (.create id p) = (B.create s id p).1 :=
  rfl

theorem run_cons (s : σ) (c : BackupCall Op P I) (calls : List (BackupCall Op P I)) :
    B.run s (c :: calls) = B.run (B.perform s c) calls := rfl

theorem run_nil (s : σ) : B.run s [] = s := rfl

theorem run_concat (s : σ) (calls : List (BackupCall Op P I)) (c : BackupCall Op P I) :
    B.run s (calls ++ [c]) = B.perform (B.run s calls) c := by
  rw [run, run, List.foldl_append, List.foldl_cons, List.foldl_nil]

/-- The entry names a copy, and carries its digest. -/
def Kept (s : σ) (e : E) : Prop :=
  ∃ b, B.backup s (B.entryId e) = some b ∧ B.digest b.content = B.entryDigest e

/-- **Backups restore what they captured.** After the calls every entry is kept, and whatever
was backed up on the way is brought back by its identifier. -/
def Restores (works : P → Prop) (start : σ) (calls : List (BackupCall Op P I)) : Prop :=
  (∀ e ∈ B.entries (B.run start calls), B.Kept (B.run start calls) e) ∧
  ∀ before id p after e, calls = before ++ .create id p :: after →
    (B.create (B.run start before) id p).2 = .ok e → ∀ q, works q →
      (B.restore (B.run start calls) id q).2 = .ok () ∧
        B.content (B.restore (B.run start calls) id q).1 = B.content (B.run start before)

/-- A backup does not take the identifier of other contents. -/
def Unused (s : σ) : BackupCall Op P I → Prop
  | .create id _ => ∀ b, B.backup s id = some b → b.content = B.content s
  | _ => True

def AllUnused : σ → List (BackupCall Op P I) → Prop
  | _, [] => True
  | s, call :: calls => B.Unused s call ∧ AllUnused (B.perform s call) calls

/-- The contents were backed up under the identifier, in one of the calls. -/
def Made (start : σ) (calls : List (BackupCall Op P I)) (id : I) (c : C) : Prop :=
  ∃ before p after e, calls = before ++ .create id p :: after ∧
    (B.create (B.run start before) id p).2 = .ok e ∧ B.content (B.run start before) = c

variable {B} in
theorem Made.append {start : σ} {calls : List (BackupCall Op P I)} {id : I} {c : C}
    (h : B.Made start calls id c) (later : List (BackupCall Op P I)) :
    B.Made start (calls ++ later) id c := by
  obtain ⟨before, p, after, e, rfl, hok, hc⟩ := h
  exact ⟨before, p, after ++ later, e, by rw [List.append_assoc, List.cons_append], hok, hc⟩

variable {B} in
theorem allUnused_append {s : σ} {before after : List (BackupCall Op P I)} :
    B.AllUnused s (before ++ after) ↔
      B.AllUnused s before ∧ B.AllUnused (B.run s before) after := by
  induction before generalizing s with
  | nil => exact (iff_of_eq (true_and _)).symm
  | cons call before ih =>
    rw [List.cons_append, AllUnused, AllUnused, ih, and_assoc]
    rfl

section
variable [DecidableEq I]

/-- What the calls of a system do, in a state that it can be in. A backup that throws leaves
entries and copies; a restore that throws may have changed what is in memory. -/
structure Lawful (Inv : σ → Prop) (works : P → Prop) : Prop where
  call_inv : ∀ {s} op, Inv s → Inv (B.call s op)
  call_entries : ∀ {s} op, Inv s → B.entries (B.call s op) = B.entries s
  call_backup : ∀ {s} op, Inv s → B.backup (B.call s op) = B.backup s
  create_inv : ∀ {s} id p, Inv s → Inv (B.create s id p).1
  created : ∀ {s} id p, Inv s →
    (∃ e, (B.create s id p).2 = .ok e ∧ B.entryId e = id ∧
      B.entryDigest e = B.digest (B.content s) ∧
      B.entries (B.create s id p).1 = B.entries s ++ [e] ∧
      ∀ i, B.backup (B.create s id p).1 i =
        if id = i then some ⟨B.content s, B.entries s ++ [e]⟩ else B.backup s i) ∨
    (∃ message, (B.create s id p).2 = .error message) ∧
      B.entries (B.create s id p).1 = B.entries s ∧ B.backup (B.create s id p).1 = B.backup s
  restore_inv : ∀ {s} id p, Inv s → Inv (B.restore s id p).1
  restore_backup : ∀ {s} id p, Inv s → B.backup (B.restore s id p).1 = B.backup s
  restore_entries : ∀ {s} id p, Inv s → B.entries (B.restore s id p).1 = B.entries s ∨
    ∃ b, B.backup s id = some b ∧ B.entries (B.restore s id p).1 = b.entries
  restored : ∀ {s} id p b, Inv s → B.backup s id = some b → works p →
    (B.restore s id p).2 = .ok () ∧ B.content (B.restore s id p).1 = b.content

/-- A state in which every entry is kept, of the list and of the copies. -/
structure Sound (Inv : σ → Prop) (s : σ) : Prop where
  inv : Inv s
  entries : ∀ e ∈ B.entries s, B.Kept s e
  copies : ∀ i b, B.backup s i = some b → ∀ e ∈ b.entries, B.Kept s e

variable {B} {Inv : σ → Prop} {works : P → Prop} {s : σ}

omit [DecidableEq I] in
theorem sound_of_empty (hinv : Inv s) (hentries : B.entries s = [])
    (hnone : ∀ i, B.backup s i = none) : B.Sound Inv s where
  inv := hinv
  entries e he := by
    rw [hentries] at he
    cases he
  copies i b hb := by
    rw [hnone] at hb
    cases hb

theorem Lawful.perform_inv (h : B.Lawful Inv works) (hinv : Inv s) (call : BackupCall Op P I) :
    Inv (B.perform s call) := by
  cases call with
  | call op => exact h.call_inv op hinv
  | create id p => exact h.create_inv id p hinv
  | restore id p => exact h.restore_inv id p hinv

theorem Lawful.run_inv (h : B.Lawful Inv works) (hinv : Inv s)
    (calls : List (BackupCall Op P I)) : Inv (B.run s calls) := by
  induction calls generalizing s with
  | nil => exact hinv
  | cons call calls ih => exact ih (h.perform_inv hinv call)

/-- **What a call does to a copy**: it is there with its contents. -/
theorem Lawful.held (h : B.Lawful Inv works) (hinv : Inv s) {call : BackupCall Op P I}
    (hunused : B.Unused s call) {i : I} {b : Backup C E} (hb : B.backup s i = some b) :
    ∃ b', B.backup (B.perform s call) i = some b' ∧ b'.content = b.content := by
  cases call with
  | call op => exact ⟨b, by rw [perform, h.call_backup op hinv, hb], rfl⟩
  | create id p =>
    rcases h.created id p hinv with ⟨e, -, -, -, -, hbackup⟩ | ⟨-, -, hbackup⟩
    · by_cases hid : id = i
      · subst hid
        exact ⟨_, by rw [perform, hbackup, if_pos rfl], (hunused b hb).symm⟩
      · exact ⟨b, by rw [perform, hbackup, if_neg hid, hb], rfl⟩
    · exact ⟨b, by rw [perform, hbackup, hb], rfl⟩
  | restore id p => exact ⟨b, by rw [perform, h.restore_backup id p hinv, hb], rfl⟩

theorem Lawful.kept (h : B.Lawful Inv works) (hinv : Inv s) {call : BackupCall Op P I}
    (hunused : B.Unused s call) {e : E} (he : B.Kept s e) : B.Kept (B.perform s call) e := by
  obtain ⟨b, hb, hdigest⟩ := he
  obtain ⟨b', hb', hcontent⟩ := h.held hinv hunused hb
  exact ⟨b', hb', hcontent ▸ hdigest⟩

/-- **One call.** -/
theorem Lawful.perform (h : B.Lawful Inv works) (hs : B.Sound Inv s) {call : BackupCall Op P I}
    (hunused : B.Unused s call) : B.Sound Inv (B.perform s call) := by
  have hkept : ∀ {e}, B.Kept s e → B.Kept (B.perform s call) e := h.kept hs.inv hunused
  cases call with
  | call op =>
    refine ⟨h.perform_inv hs.inv _, fun e he => hkept (hs.entries e ?_),
      fun i b hb e he => hkept (hs.copies i b ?_ e he)⟩
    · rwa [← h.call_entries op hs.inv]
    · rwa [← h.call_backup op hs.inv]
  | restore id p =>
    refine ⟨h.perform_inv hs.inv _, fun e he => ?_,
      fun i b hb e he => hkept (hs.copies i b ?_ e he)⟩
    · rcases h.restore_entries id p hs.inv with hentries | ⟨b, hb, hentries⟩
      · exact hkept (hs.entries e (hentries ▸ he))
      · exact hkept (hs.copies id b hb e (hentries ▸ he))
    · rwa [← h.restore_backup id p hs.inv]
  | create id p =>
    refine ⟨h.perform_inv hs.inv _, ?_, ?_⟩
    all_goals
      rcases h.created id p hs.inv with
        ⟨new, -, hid, hdigest, hentries, hbackup⟩ | ⟨-, hentries, hbackup⟩
    · have hnew : B.Kept (B.create s id p).1 new :=
        ⟨_, by rw [hbackup, hid, if_pos rfl], hdigest.symm⟩
      intro e he
      rcases List.mem_append.1 (hentries ▸ he) with hold | hlast
      · exact hkept (hs.entries e hold)
      · exact List.mem_singleton.1 hlast ▸ hnew
    · exact fun e he => hkept (hs.entries e (hentries ▸ he))
    · have hnew : B.Kept (B.create s id p).1 new :=
        ⟨_, by rw [hbackup, hid, if_pos rfl], hdigest.symm⟩
      intro i b hb e he
      rw [BackupSystem.perform, hbackup] at hb
      split at hb
      · cases hb
        rcases List.mem_append.1 he with hold | hlast
        · exact hkept (hs.entries e hold)
        · exact List.mem_singleton.1 hlast ▸ hnew
      · exact hkept (hs.copies i b hb e he)
    · exact fun i b hb e he => hkept (hs.copies i b (hbackup ▸ hb) e he)

/-- **Any calls** leave a copy with its contents. -/
theorem Lawful.run (h : B.Lawful Inv works) {calls : List (BackupCall Op P I)}
    (hs : B.Sound Inv s) (hunused : B.AllUnused s calls) :
    B.Sound Inv (B.run s calls) ∧ ∀ i b, B.backup s i = some b →
      ∃ b', B.backup (B.run s calls) i = some b' ∧ b'.content = b.content := by
  induction calls generalizing s with
  | nil => exact ⟨hs, fun i b hb => ⟨b, hb, rfl⟩⟩
  | cons call calls ih =>
    obtain ⟨hone, hrest⟩ := hunused
    obtain ⟨hsound, hheld⟩ := ih (h.perform hs hone) hrest
    refine ⟨hsound, fun i b hb => ?_⟩
    obtain ⟨b', hb', hcontent⟩ := h.held hs.inv hone hb
    obtain ⟨b'', hb'', hcontent'⟩ := hheld i b' hb'
    exact ⟨b'', hb'', hcontent'.trans hcontent⟩

/-- **Backups restore what they captured**, from a sound state on, while no identifier is used
again for other contents. -/
theorem Lawful.restores (h : B.Lawful Inv works) (hs : B.Sound Inv s)
    {calls : List (BackupCall Op P I)} (hunused : B.AllUnused s calls) :
    B.Restores works s calls := by
  refine ⟨(h.run hs hunused).1.entries, ?_⟩
  rintro before id p after e rfl hcreated q hq
  obtain ⟨hbefore, hcreate, hafter⟩ := allUnused_append.1 hunused
  have hmiddle := (h.run hs hbefore).1
  rcases h.created id p hmiddle.inv with ⟨_, -, -, -, -, hbackup⟩ | ⟨⟨message, herror⟩, -⟩
  · obtain ⟨hsound, hheld⟩ := h.run (h.perform hmiddle hcreate) hafter
    obtain ⟨b, hb, hcontent⟩ := hheld id _ (by rw [BackupSystem.perform, hbackup, if_pos rfl])
    rw [BackupSystem.run, List.foldl_append]
    obtain ⟨hok, hrestored⟩ := h.restored id q b hsound.inv hb hq
    exact ⟨hok, hrestored.trans hcontent⟩
  · rw [herror] at hcreated
    cases hcreated

/-- **Where a copy comes from**: it was made in one of the calls, with these contents. -/
theorem Lawful.made (h : B.Lawful Inv works) (hinv : Inv s) (hnone : ∀ i, B.backup s i = none)
    {calls : List (BackupCall Op P I)} {i : I} {b : Backup C E}
    (hb : B.backup (B.run s calls) i = some b) : B.Made s calls i b.content := by
  induction calls using List.reverseRecOn generalizing b with
  | nil =>
    rw [show B.backup (B.run s []) i = none from hnone i] at hb
    cases hb
  | append_singleton calls call ih =>
    have hinv' := h.run_inv hinv calls
    rw [run_concat] at hb
    cases call with
    | call op =>
      exact (ih ((congrFun (h.call_backup op hinv') i).symm.trans hb)).append _
    | restore id p =>
      exact (ih ((congrFun (h.restore_backup id p hinv') i).symm.trans hb)).append _
    | create id p =>
      rcases h.created id p hinv' with ⟨e, hok, -, -, -, hbackup⟩ | ⟨-, -, hbackup⟩
      · have hstored := (hbackup i).symm.trans hb
        split at hstored
        · next hid =>
          subst hid
          cases hstored
          exact ⟨calls, p, [], e, rfl, hok, rfl⟩
        · exact (ih hstored).append _
      · exact (ih ((congrFun hbackup i).symm.trans hb)).append _

/-- **Only then**: where backups restore what they captured, none that was made took the
identifier of other contents. -/
theorem Lawful.unused (h : B.Lawful Inv works) (hinv : Inv s)
    (hnone : ∀ i, B.backup s i = none) {calls before after : List (BackupCall Op P I)} {id : I}
    {p q : P} {e : E} (hq : works q) (hrestores : B.Restores works s calls)
    (hcalls : calls = before ++ .create id p :: after)
    (hok : (B.create (B.run s before) id p).2 = .ok e) :
    B.Unused (B.run s before) (.create id p) := by
  intro b hb
  obtain ⟨first, p', middle, e', rfl, hok', hcontent⟩ := h.made hinv hnone hb
  rw [List.append_assoc, List.cons_append] at hcalls
  have hfirst := hrestores.2 first id p' _ e' hcalls hok' q hq
  rw [← List.cons_append, ← List.append_assoc] at hcalls
  have hsecond := hrestores.2 _ id p after e hcalls hok q hq
  exact hcontent.symm.trans (hfirst.2.symm.trans hsecond.2)

end

end

end BackupSystem

end AccessKit.Core
