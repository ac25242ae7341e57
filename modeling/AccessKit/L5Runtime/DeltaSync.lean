import AccessKit.Core.Changelog
import AccessKit.L5Runtime.CollectionReads
import Mathlib.Data.List.Induction

/-!
# Incremental reads and full ones

A cache that is kept by changes, against a full read. The provider is a parameter: what it
promises of the pages it serves, and of the tokens it issues with them, is `Serves`, after
the data of the collection at each call. Changes may come in several versions, on several
pages, and between any two calls; a token may be rejected at any time.

Results:
* `latest_applyGraphDeltaChanges`: the last change of a record wins.
* `Collected.lists`: what reads to the end come to lists the data at the last of them.
* `delta_sync_equals_full_read`: the cache after a completed read, and a full read.
-/
namespace AccessKit.L5.Entra
open AccessKit.Core AccessKit.L1

def graphId (record : JsonRecord) : Option String := recordId record "id"

/-! ## Merging -/

theorem get_cons (p : String × JsValue) (r : JsonRecord) (key : String) :
    JsonRecord.get (p :: r) key = if p.1 = key then p.2 else JsonRecord.get r key := by
  unfold JsonRecord.get
  by_cases h : p.1 = key
  · simp [h]
  · rw [List.find?_cons_of_neg (by simpa using h), if_neg h]

theorem get_spread {b : JsonRecord} (hb : (b.map (·.1)).Nodup) (a : JsonRecord) (key : String) :
    JsonRecord.get (JsonRecord.spread a b) key =
      if key ∈ b.map (·.1) then JsonRecord.get b key else JsonRecord.get a key := by
  unfold JsonRecord.spread
  induction b generalizing a with
  | nil => simp
  | cons p b ih =>
    obtain ⟨hp, hb⟩ := List.nodup_cons.1 hb
    rw [List.foldl_cons, ih hb, JsonRecord.get_set, get_cons, List.map_cons]
    by_cases hkey : p.1 = key
    · subst hkey
      simp [hp]
    · have hmem : key ∈ p.1 :: b.map (·.1) ↔ key ∈ b.map (·.1) := by
        rw [List.mem_cons, or_iff_right (Ne.symm hkey)]
      simp only [hmem, if_neg hkey]

theorem get_spread_of_defined {a b : JsonRecord} (hb : (b.map (·.1)).Nodup) {key : String}
    (hdefined : JsonRecord.get b key ≠ .undefined) :
    JsonRecord.get (JsonRecord.spread a b) key = JsonRecord.get b key := by
  rw [get_spread hb, if_pos]
  by_contra hkey
  refine hdefined ?_
  unfold JsonRecord.get
  rw [List.find?_eq_none.2 fun p hp => ?_]
  intro heq
  exact hkey (List.mem_map.2 ⟨p, hp, by simpa using heq⟩)

theorem graphId_spread {a b : JsonRecord} (hb : (b.map (·.1)).Nodup) {id : String}
    (hid : graphId b = some id) : graphId (JsonRecord.spread a b) = some id := by
  unfold graphId recordId at hid ⊢
  rw [get_spread_of_defined hb]
  · exact hid
  · intro hundefined
    rw [hundefined] at hid
    cases hid

theorem tombstone_spread {a b : JsonRecord} (hb : (b.map (·.1)).Nodup)
    (h : isGraphTombstone b = true) : isGraphTombstone (JsonRecord.spread a b) = true := by
  unfold isGraphTombstone at h ⊢
  rw [get_spread_of_defined hb]
  · exact h
  · intro hundefined
    rw [hundefined] at h
    cases h

/-- Records under their ids. -/
def Keyed (byId : OrderedMap String JsonRecord) : Prop :=
  ∀ id record, byId.get? id = some record → graphId record = some id

theorem Keyed.set {byId : OrderedMap String JsonRecord} (h : Keyed byId) {id : String}
    {record : JsonRecord} (hid : graphId record = some id) : Keyed (byId.set id record) := by
  intro id' record' hget
  rw [OrderedMap.get?_set] at hget
  split at hget
  · rename_i heq
    cases hget
    exact heq ▸ hid
  · exact h id' record' hget

/-- What the merge starts from: the last cached record of each id. -/
theorem cached_byId (cached : List JsonRecord) :
    ∃ byId, cached.foldl (fun byId value =>
        match recordId value "id" with
        | some id => byId.set id value
        | none => byId) (OrderedMap.empty : OrderedMap String JsonRecord) = byId ∧
      Keyed byId ∧ ∀ id, byId.get? id = latest graphId cached id := by
  induction cached using List.reverseRecOn with
  | nil => exact ⟨_, rfl, fun _ _ h => (by cases h), fun _ => rfl⟩
  | append_singleton cached value ih =>
    obtain ⟨byId, hfold, hkeyed, hget⟩ := ih
    rw [List.foldl_append, List.foldl_cons, List.foldl_nil, hfold]
    cases hid : graphId value with
    | none =>
      rw [show recordId value "id" = none from hid]
      refine ⟨byId, rfl, hkeyed, fun id => ?_⟩
      rw [latest_concat, hid, if_neg (by simp), hget]
    | some id' =>
      rw [show recordId value "id" = some id' from hid]
      refine ⟨byId.set id' value, rfl, hkeyed.set hid, fun id => ?_⟩
      rw [OrderedMap.get?_set, hget, latest_concat, hid]
      simp only [Option.some.injEq]

/-- What became of the records under a list of changes: the last change of an id is there in
full, and where it is a tombstone a mark is. -/
structure Merged (byId : OrderedMap String JsonRecord) (changes : List JsonRecord)
    (merged : OrderedMap String JsonRecord × List JsonRecord) : Prop where
  keyed : Keyed merged.1
  anonymous : ∀ record ∈ merged.2, graphId record = none
  kept : ∀ id, latest graphId changes id = none → merged.1.get? id = byId.get? id
  replaced : ∀ id change, latest graphId changes id = some change →
    isGraphTombstone change = false → merged.1.get? id = some change
  marked : ∀ id change, latest graphId changes id = some change →
    isGraphTombstone change = true →
      ∃ record, merged.1.get? id = some record ∧ isGraphTombstone record = true

theorem applyChange_some (merged : OrderedMap String JsonRecord × List JsonRecord)
    {change : JsonRecord} (hobject : (change.map (·.1)).Nodup) {id : String}
    (hid : graphId change = some id) :
    ∃ record, applyChange merged change = (merged.1.set id record, merged.2) ∧
      graphId record = some id ∧
      (isGraphTombstone change = false → record = change) ∧
      (isGraphTombstone change = true → isGraphTombstone record = true) := by
  unfold applyChange
  rw [show recordId change "id" = some id from hid]
  dsimp only
  cases merged.1.get? id with
  | none => exact ⟨change, rfl, hid, fun _ => rfl, fun h => h⟩
  | some previous =>
    cases htombstone : isGraphTombstone change with
    | false => exact ⟨change, rfl, hid, fun _ => rfl, fun h => (by cases h)⟩
    | true =>
      exact ⟨JsonRecord.spread previous change, rfl, graphId_spread hobject hid,
        fun h => (by cases h), fun _ => tombstone_spread hobject htombstone⟩

theorem merged_changes {byId : OrderedMap String JsonRecord} (hkeyed : Keyed byId)
    {anonymous : List JsonRecord} (hanonymous : ∀ record ∈ anonymous, graphId record = none)
    {changes : List JsonRecord} (hobjects : ∀ change ∈ changes, (change.map (·.1)).Nodup) :
    Merged byId changes (changes.foldl applyChange (byId, anonymous)) := by
  induction changes using List.reverseRecOn with
  | nil => exact ⟨hkeyed, hanonymous, fun _ _ => rfl, fun _ _ h => (by cases h),
      fun _ _ h => (by cases h)⟩
  | append_singleton changes change ih =>
    have hmerged := ih fun c hc => hobjects c (List.mem_append_left _ hc)
    rw [List.foldl_append, List.foldl_cons, List.foldl_nil]
    generalize changes.foldl applyChange (byId, anonymous) = merged at hmerged
    cases hid : graphId change with
    | none =>
      have happly : applyChange merged change = (merged.1, merged.2 ++ [change]) := by
        unfold applyChange
        rw [show recordId change "id" = none from hid]
      have hlatest : ∀ id, latest graphId (changes ++ [change]) id =
          latest graphId changes id := fun id => by
        rw [latest_concat, hid, if_neg (by simp)]
      rw [happly]
      refine ⟨hmerged.keyed, fun record hrecord => ?_, fun id h => hmerged.kept id (hlatest id ▸ h),
        fun id c h => hmerged.replaced id c (hlatest id ▸ h),
        fun id c h => hmerged.marked id c (hlatest id ▸ h)⟩
      rcases List.mem_append.1 hrecord with hold | hnew
      · exact hmerged.anonymous record hold
      · exact List.mem_singleton.1 hnew ▸ hid
    | some id' =>
      obtain ⟨record, happly, hrecord, hfull, hmark⟩ :=
        applyChange_some merged (hobjects change (by simp)) hid
      have hlatest : ∀ id, latest graphId (changes ++ [change]) id =
          if id' = id then some change else latest graphId changes id := fun id => by
        rw [latest_concat, hid]
        simp only [Option.some.injEq]
      rw [happly]
      refine ⟨hmerged.keyed.set hrecord, hmerged.anonymous, fun id h => ?_, fun id c h ht => ?_,
        fun id c h ht => ?_⟩
      all_goals
        rw [hlatest] at h
        rw [OrderedMap.get?_set]
        by_cases heq : id' = id
      · rw [if_pos heq] at h
        cases h
      · rw [if_neg heq] at h ⊢
        exact hmerged.kept id h
      · rw [if_pos heq] at h ⊢
        cases h
        rw [hfull ht]
      · rw [if_neg heq] at h ⊢
        exact hmerged.replaced id c h ht
      · rw [if_pos heq] at h ⊢
        cases h
        exact ⟨record, rfl, hmark ht⟩
      · rw [if_neg heq] at h ⊢
        exact hmerged.marked id c h ht

theorem latest_values {byId : OrderedMap String JsonRecord} (hkeyed : Keyed byId)
    {anonymous : List JsonRecord} (hanonymous : ∀ record ∈ anonymous, graphId record = none)
    (id : String) : latest graphId (anonymous ++ byId.values) id = byId.get? id := by
  have hnone : latest graphId anonymous id = none := latest_eq_none.2 fun record hrecord => by
    simp [hanonymous record hrecord]
  rw [latest_append, hnone, Option.or_none]
  cases hget : byId.get? id with
  | none =>
    refine latest_eq_none.2 fun record hrecord hid => ?_
    obtain ⟨key, hkey⟩ := OrderedMap.mem_values.1 hrecord
    obtain rfl : key = id := Option.some.inj ((hkeyed key record hkey).symm.trans hid)
    simp [hget] at hkey
  | some record =>
    refine latest_of_unique (OrderedMap.mem_values.2 ⟨id, hget⟩) (hkeyed id record hget)
      fun other hother hid => ?_
    obtain ⟨key, hkey⟩ := OrderedMap.mem_values.1 hother
    obtain rfl : key = id := Option.some.inj ((hkeyed key other hkey).symm.trans hid)
    exact Option.some.inj (hkey.symm.trans hget)

/-- **Merging changes.** A record that did not change is kept, the last change of one is there
in full, and a tombstone leaves its mark. -/
theorem latest_applyGraphDeltaChanges (cached : List JsonRecord) {changes : List JsonRecord}
    (hobjects : ∀ change ∈ changes, (change.map (·.1)).Nodup) (id : String) :
    (latest graphId changes id = none →
      latest graphId (applyGraphDeltaChanges cached changes) id = latest graphId cached id) ∧
    ∀ change, latest graphId changes id = some change →
      (isGraphTombstone change = false →
        latest graphId (applyGraphDeltaChanges cached changes) id = some change) ∧
      (isGraphTombstone change = true → ∃ record,
        latest graphId (applyGraphDeltaChanges cached changes) id = some record ∧
          isGraphTombstone record = true) := by
  obtain ⟨byId, hfold, hkeyed, hget⟩ := cached_byId cached
  have hanonymous : ∀ record ∈ cached.filter fun value => (recordId value "id").isNone,
      graphId record = none := fun record hrecord =>
    Option.isNone_iff_eq_none.1 (List.mem_filter.1 hrecord).2
  have hmerged := merged_changes hkeyed hanonymous hobjects
  subst hfold
  have hlatest : latest graphId (applyGraphDeltaChanges cached changes) id = _ :=
    latest_values hmerged.keyed hmerged.anonymous id
  rw [hlatest, ← hget]
  exact ⟨hmerged.kept id, fun change hchange =>
    ⟨hmerged.replaced id change hchange, hmerged.marked id change hchange⟩⟩

/-! ## What the provider promises -/

def tombstoned (record : JsonRecord) : Prop := isGraphTombstone record = true

/-- Of each id, what is live at its call. -/
def asOf (live : Nat → String → Option JsonRecord) (at_ : String → Nat) (id : String) :
    Option JsonRecord :=
  live (at_ id) id

/-- Each id is seen at one of the calls. -/
def During (started ended : Nat) (at_ : String → Nat) : Prop :=
  ∀ id, started ≤ at_ id ∧ at_ id < ended

/-- A provider that serves a collection whose live records at each call are given. What it
answers during a read may be of any of the read's calls, and of another one for each record. -/
structure Serves (options : Options) (path : String) (live : Nat → String → Option JsonRecord)
    (issued : String → (String → Nat) → Prop) : Prop where
  /-- A record has a property once. -/
  objects : ∀ call link page, options.list call link = .ok page →
    ∀ record ∈ page.value, (record.map (·.1)).Nodup
  unmarked : ∀ call id record, live call id = some record → ¬ tombstoned record
  /-- The pages under the path list the live records in full. -/
  full : ∀ {started ended pages}, Pages options path started pages ended →
    ∃ seen, During started ended seen ∧
      Lists graphId tombstoned (asOf live seen) (pageValues pages) ∧
      ∀ token, cursorOf pages = some token → issued token seen
  /-- The pages under a token list changed records in full and deleted ones as tombstones. -/
  changes : ∀ {token before started ended pages}, issued token before →
    (∀ id, before id < started) → Pages options token started pages ended →
      ∃ seen, During started ended seen ∧
        ListsChanges graphId tombstoned (asOf live before) (asOf live seen) (pageValues pages) ∧
        ∀ token', cursorOf pages = some token' → issued token' seen

section
variable {options : Options} {path : String} {live : Nat → String → Option JsonRecord}
  {issued : String → (String → Nat) → Prop}

theorem Serves.objects_pages (h : Serves options path live issued) {link : String}
    {started ended : Nat} {pages : List ProviderPage}
    (hpages : Pages options link started pages ended) :
    ∀ record ∈ pageValues pages, (record.map (·.1)).Nodup := by
  induction hpages with
  | last hsent =>
    obtain ⟨tries, -, -, -, hanswer, -⟩ := hsent
    simpa [pageValues] using h.objects _ _ _ hanswer
  | more hsent _ _ _ ih =>
    obtain ⟨tries, -, -, -, hanswer, -⟩ := hsent
    intro record hrecord
    rcases List.mem_append.1 hrecord with hfirst | hrest
    · exact h.objects _ _ _ hanswer record hfirst
    · exact ih record hrest

/-- **What reads to the end come to**: a listing of the live records, each as of a call of the
last read. The induction is on the reads. -/
theorem Collected.lists (h : Serves options path live issued) {values : List JsonRecord}
    {cursor : Option String} {started ended : Nat}
    (hcollected : Collected options path values cursor started ended) :
    ∃ seen, During started ended seen ∧ Lists graphId tombstoned (asOf live seen) values ∧
      ∀ token, cursor = some token → issued token seen := by
  induction hcollected with
  | full hpages => exact h.full hpages
  | @changes cached _ _ _ _ _ _ _ hcached hafter hpages hcursor ih =>
    obtain ⟨before, hbefore, hlists, hissued⟩ := ih
    obtain ⟨seen, hseen, hchanges, hissued'⟩ := h.changes (hissued _ rfl)
      (fun id => (hbefore id).2.trans_le hafter) hpages
    have hmerge := latest_applyGraphDeltaChanges cached (h.objects_pages hpages)
    refine ⟨seen, hseen, hlists.merge hchanges (fun id record => h.unmarked (seen id) id record)
      (fun id => (hmerge id).1) (fun id change hchange hlive => ?_)
      (fun id change hchange htombstone w hw => ?_), fun token htoken => ?_⟩
    · exact ((hmerge id).2 change hchange).1 (by simpa [tombstoned] using hlive)
    · obtain ⟨record, hrecord, hmark⟩ := ((hmerge id).2 change hchange).2 htombstone
      obtain rfl : record = w := Option.some.inj (hrecord.symm.trans hw)
      exact hmark
    · exact hissued' token (hcursor.trans htoken)

/-- A record is absent from the listing or marked in it. -/
def Gone (values : List JsonRecord) (id : String) : Prop :=
  ∀ record, latest graphId values id = some record → tombstoned record

/-- **Delta sync equals a full resync.** After any reads, the cache that a completed read
leaves, by changes or in full, against what a full read comes to afterwards: of an id whose
data stays as it is during the two, both have the live record as the latest, or else both
have none that is not marked. -/
theorem delta_sync_equals_full_read {options : Options} {path : String}
    {live : Nat → String → Option JsonRecord} {issued : String → (String → Nat) → Prop}
    (h : Serves options path live issued) {reader : CollectionReader}
    (hreached : Reached options reader) {values full : List JsonRecord}
    (hread : (reader.readCollectionResult options path).2 = .ok (values, true))
    (hfull : (CollectionReader.readFull options
      { calls := (reader.readCollectionResult options path).1.calls } path).2 = .ok (full, true)) :
    (reader.readCollectionResult options path).1.collectionCaches.get? path = some values ∧
    ∀ id current,
      (∀ call, reader.calls ≤ call → call < (CollectionReader.readFull options
        { calls := (reader.readCollectionResult options path).1.calls } path).1.calls →
          live call id = current) →
      (∀ record, current = some record →
        latest graphId values id = some record ∧ latest graphId full id = some record) ∧
      (current = none → Gone values id ∧ Gone full id) := by
  obtain ⟨cursor, started, hstarted, hcollected, hcache, -⟩ :=
    (readCollectionResult_sound hreached.sound path).completed values hread
  have hcalls := (readFull_calls options
    { calls := (reader.readCollectionResult options path).1.calls } path).1
  have hfresh : Sound options
      { calls := (reader.readCollectionResult options path).1.calls } := fun _ _ htoken => by
    cases htoken
  have hnone : (OrderedMap.empty : OrderedMap String String).get? path = none := rfl
  obtain ⟨cursor', started', hstarted', hcollected', -⟩ :=
    (readFull_sound hfresh hnone).completed full hfull
  obtain ⟨seen, hseen, hlists, -⟩ := hcollected.lists h
  obtain ⟨seen', hseen', hlists', -⟩ := hcollected'.lists h
  refine ⟨hcache, fun id current hstill => ?_⟩
  have hdone := (readCollectionResult_calls options reader path).1
  have hnow : asOf live seen id = current :=
    hstill _ (hstarted.trans (hseen id).1) ((hseen id).2.trans_le hcalls)
  have hnow' : asOf live seen' id = current :=
    hstill _ (hdone.trans (hstarted'.trans (hseen' id).1)) (hseen' id).2
  subst hnow
  exact ⟨fun record hrecord => ⟨hlists.live id record hrecord,
      hlists'.live id record (hnow'.trans hrecord)⟩,
    fun hnone => ⟨hlists.gone id hnone, hlists'.gone id (hnow'.trans hnone)⟩⟩

/-! ## The user who left -/

/-- The one user, until the first answer. -/
def untilFirst (call : Nat) (id : String) : Option JsonRecord :=
  if call = 0 ∧ id = "user-1" then some user else none

/-- The first token is of the first answer, the other one of any later one. -/
def leaverIssued (token : String) (seen : String → Nat) : Prop :=
  token = "/users/delta?token=0" ∧ (∀ id, seen id = 0) ∨
    token = "/users/delta?token=1" ∧ ∀ id, seen id ≠ 0

theorem pages_oneLeaver {link : String} {started ended : Nat} {pages : List ProviderPage}
    (h : Pages oneLeaver link started pages ended) :
    ended = started + 1 ∧ ∃ page, pages = [page] ∧ oneLeaver.list started link = .ok page := by
  have hanswer : ∀ call, ∃ page, oneLeaver.list call link = .ok page ∧
      page.status = none ∧ page.next = none := by
    intro call
    refine ⟨_, rfl, ?_⟩
    split
    · exact ⟨rfl, rfl⟩
    · split <;> exact ⟨rfl, rfl⟩
  have hsent : ∀ {page : ProviderPage} {ended : Nat}, Sent oneLeaver link started page ended →
      ended = started + 1 ∧ oneLeaver.list started link = .ok page ∧ page.next = none := by
    rintro page ended ⟨tries, -, rfl, hthrottled, hpage, -⟩
    cases tries with
    | zero =>
      obtain ⟨page', hpage', -, hnext⟩ := hanswer started
      obtain rfl : page' = page := Except.ok.inj (hpage'.symm.trans hpage)
      exact ⟨rfl, hpage, hnext⟩
    | succ tries =>
      obtain ⟨page', hpage', hstatus⟩ := hthrottled 0 (Nat.succ_pos tries)
      obtain ⟨page'', hpage'', hok, -⟩ := hanswer (started + 0)
      obtain rfl : page'' = page' := Except.ok.inj (hpage''.symm.trans hpage')
      rw [hok] at hstatus
      cases hstatus
  cases h with
  | last hpage =>
    obtain ⟨rfl, hlist, -⟩ := hsent hpage
    exact ⟨rfl, _, rfl, hlist⟩
  | more hpage _ hnext =>
    obtain ⟨-, -, hnone⟩ := hsent hpage
    rw [hnone] at hnext
    cases hnext

theorem untilFirst_some {call : Nat} {id : String} {record : JsonRecord}
    (h : untilFirst call id = some record) : (call = 0 ∧ id = "user-1") ∧ record = user := by
  unfold untilFirst at h
  split at h
  · rename_i hfirst
    exact ⟨hfirst, (Option.some.inj h).symm⟩
  · cases h

theorem untilFirst_later {call : Nat} (h : call ≠ 0) (id : String) : untilFirst call id = none :=
  if_neg fun hfirst => h hfirst.1

theorem not_tombstoned_user : ¬ tombstoned user := by
  unfold tombstoned
  decide

theorem tombstoned_userLeft : tombstoned userLeft := by
  unfold tombstoned
  decide

theorem serves_oneLeaver : Serves oneLeaver "/users" untilFirst leaverIssued where
  objects call link page hpage := by
    obtain rfl := Except.ok.inj hpage
    split
    · simp [user]
    · split <;> simp [userLeft]
  unmarked call id record hlive := by
    obtain ⟨-, rfl⟩ := untilFirst_some hlive
    exact not_tombstoned_user
  full {started ended pages} hpages := by
    obtain ⟨rfl, page, rfl, hpage⟩ := pages_oneLeaver hpages
    obtain rfl := Except.ok.inj hpage
    refine ⟨fun _ => started, fun _ => ⟨Nat.le_refl _, Nat.lt_succ_self _⟩, ?_⟩
    cases started with
    | zero =>
      refine ⟨⟨fun id record hlive => ?_, fun id hnone record hrecord => ?_⟩, fun token ht => ?_⟩
      · obtain ⟨⟨-, rfl⟩, rfl⟩ := untilFirst_some hlive
        rfl
      · obtain rfl : record = user := List.mem_singleton.1 (mem_of_latest hrecord)
        have hid : graphId user = some id := key_of_latest hrecord
        obtain rfl : "user-1" = id := Option.some.inj hid
        cases hnone
      · exact .inl ⟨(Option.some.inj ht).symm, fun _ => rfl⟩
    | succ started =>
      refine ⟨⟨fun id record hlive => ?_, fun id _ record hrecord => ?_⟩, fun token ht => ?_⟩
      · rw [asOf, untilFirst_later (Nat.succ_ne_zero started)] at hlive
        cases hlive
      · cases mem_of_latest hrecord
      · exact .inr ⟨(Option.some.inj ht).symm, fun _ => Nat.succ_ne_zero started⟩
  changes {token before started ended pages} hissued hbefore hpages := by
    obtain ⟨rfl, page, rfl, hpage⟩ := pages_oneLeaver hpages
    obtain rfl := Except.ok.inj hpage
    have hstarted : started ≠ 0 := Nat.ne_of_gt (Nat.zero_lt_of_lt (hbefore ""))
    have hnone : ∀ id, asOf untilFirst (fun _ => started) id = none := untilFirst_later hstarted
    refine ⟨fun _ => started, fun _ => ⟨Nat.le_refl _, Nat.lt_succ_self _⟩,
      ⟨fun id record hlive => ?_, fun id _ => ?_⟩, fun token' ht => ?_⟩
    · rw [hnone] at hlive
      cases hlive
    · rcases hissued with ⟨rfl, hzero⟩ | ⟨rfl, hlater⟩
      · by_cases hid : "user-1" = id
        · subst hid
          exact .inl ⟨userLeft, rfl, tombstoned_userLeft⟩
        · refine .inr ⟨latest_eq_none.2 fun record hrecord hkey => hid ?_,
            if_neg fun hfirst => hid hfirst.2.symm⟩
          obtain rfl : record = userLeft := List.mem_singleton.1 hrecord
          exact Option.some.inj hkey
      · exact .inr ⟨rfl, untilFirst_later (hlater id) id⟩
    · rcases hissued with ⟨rfl, -⟩ | ⟨rfl, -⟩
      · exact .inr ⟨(Option.some.inj ht).symm, fun _ => hstarted⟩
      · exact .inr ⟨(Option.some.inj ht).symm, fun _ => hstarted⟩

theorem full_read_again :
    (CollectionReader.readFull oneLeaver
      { calls := (readOnce.readCollectionResult oneLeaver "/users").1.calls } "/users").2 =
        .ok ([], true) := rfl

theorem delta_sync_equals_full_read_leaver :
    readOnce.collectionCaches.get? "/users" = some [user] ∧
    Gone [JsonRecord.spread user userLeft] "user-1" ∧ Gone [] "user-1" :=
  ⟨rfl, ((delta_sync_equals_full_read serves_oneLeaver (.collection .start "/users")
    readOnce_again full_read_again).2 "user-1" none fun _ hcall _ =>
      untilFirst_later (Nat.ne_of_gt hcall) _).2 rfl⟩

end

end AccessKit.L5.Entra
