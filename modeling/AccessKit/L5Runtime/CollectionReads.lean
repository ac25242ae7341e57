import AccessKit.L5Runtime.EntraReader

/-!
# What the collection reader reports

packages/connectors-microsoft-graph/src/collection-reader.ts under any provider: the client
is an arbitrary function of the number of the call and the path, so that links may be
cyclic, and every call may be throttled, denied, or fail.

Results:
* `readCollectionResult_calls`: a read ends after a bounded number of calls.
* `readCollectionPages_outcome`: what a read of the pages does.
* `Sound.read`: a cursor that is held belongs to the records that are cached with it.
* `read_truthful`: a read that reports completion has received every page.
-/
namespace AccessKit.L5
open AccessKit.Core AccessKit.L1

/-! ## One page -/

section
variable {P : Type} {send : Nat → Except String P} {throttled : P → Bool}

theorem fetchPage_calls (send : Nat → Except String P) (throttled : P → Bool)
    (retries calls : Nat) :
    calls < (fetchPage send throttled retries calls).1 ∧
      (fetchPage send throttled retries calls).1 ≤ calls + (retries + 1) := by
  induction retries generalizing calls with
  | zero =>
    unfold fetchPage
    split
    · simp
    · split <;> simp
  | succ retries ih =>
    unfold fetchPage
    split
    · simp
    · split
      · obtain ⟨hlt, hle⟩ := ih (calls + 1)
        dsimp only
        omega
      · simp

theorem fetchPage_some {retries calls calls' : Nat} {page : P}
    (h : fetchPage send throttled retries calls = (calls', .ok (some page))) :
    ∃ tries ≤ retries, calls' = calls + tries + 1 ∧
      (∀ i < tries, ∃ p, send (calls + i) = .ok p ∧ throttled p = true) ∧
      send (calls + tries) = .ok page ∧ throttled page = false := by
  induction retries generalizing calls with
  | zero =>
    unfold fetchPage at h
    split at h
    · cases h
    rename_i answer hsend
    split at h
    · cases h
    rename_i hthrottled
    cases h
    exact ⟨0, Nat.le_refl 0, rfl, fun i hi => absurd hi (Nat.not_lt_zero i), hsend,
      by simpa using hthrottled⟩
  | succ retries ih =>
    unfold fetchPage at h
    split at h
    · cases h
    rename_i answer hsend
    split at h
    · rename_i hthrottled
      obtain ⟨tries, hle, hcalls, hall, hlast, hok⟩ := ih h
      refine ⟨tries + 1, Nat.succ_le_succ hle, by omega, fun i hi => ?_, ?_, hok⟩
      · cases i with
        | zero => exact ⟨answer, hsend, hthrottled⟩
        | succ i =>
          have hi' := hall i (Nat.lt_of_succ_lt_succ hi)
          rwa [Nat.add_assoc, Nat.add_comm 1 i] at hi'
      · rwa [Nat.add_assoc, Nat.add_comm 1 tries] at hlast
    · rename_i hthrottled
      cases h
      exact ⟨0, Nat.zero_le _, rfl, fun i hi => absurd hi (Nat.not_lt_zero i), hsend,
        by simpa using hthrottled⟩

end

end AccessKit.L5

namespace AccessKit.L5.Entra
open AccessKit.Core AccessKit.L1

/-! ## All pages -/

section
variable (options : Options)

/-- The provider answers the request with the page, after some throttled answers that the
limit allows. -/
def Sent (path : String) (calls : Nat) (page : ProviderPage) (calls' : Nat) : Prop :=
  ∃ tries ≤ options.maxRetries, calls' = calls + tries + 1 ∧
    (∀ i < tries, ∃ p, options.list (calls + i) path = .ok p ∧ p.status.getD 200 = 429) ∧
    options.list (calls + tries) path = .ok page ∧ page.status.getD 200 ≠ 429

/-- The pages are received in order: the first under the path, each other one under the link
of the one before, and the last one has no link. -/
inductive Pages : String → Nat → List ProviderPage → Nat → Prop
  | last {path : String} {calls calls' : Nat} {page : ProviderPage}
      (hsent : Sent options path calls page calls') (hok : page.status.getD 200 < 400)
      (hlast : truthy page.next = none) : Pages path calls [page] calls'
  | more {path next : String} {calls calls₁ calls' : Nat} {page : ProviderPage}
      {pages : List ProviderPage} (hsent : Sent options path calls page calls₁)
      (hok : page.status.getD 200 < 400) (hnext : truthy page.next = some next)
      (hrest : Pages next calls₁ pages calls') : Pages path calls (page :: pages) calls'

/-- The records of the pages, in order. -/
def pageValues (pages : List ProviderPage) : List JsonRecord := pages.flatMap (·.value)

/-- The last delta link of the pages, or else the one before them. -/
def lastDeltaLink (deltaLink : Option String) (pages : List ProviderPage) : Option String :=
  pages.foldl (fun deltaLink page => page.deltaLink.or deltaLink) deltaLink

/-- The delta link that the pages came with. -/
def cursorOf (pages : List ProviderPage) : Option String := truthy (lastDeltaLink none pages)

end

section
variable {options : Options}

theorem sent_of_fetchPage {path : String} {calls calls' : Nat} {page : ProviderPage}
    (h : fetchPage (fun call => options.list call path)
      (fun page => page.status.getD 200 = 429) options.maxRetries calls =
        (calls', .ok (some page))) : Sent options path calls page calls' := by
  obtain ⟨tries, hle, hcalls, hall, hlast, hok⟩ := fetchPage_some h
  exact ⟨tries, hle, hcalls, by simpa using hall, hlast, by simpa using hok⟩

/-- **The pages of one pass** take a bounded number of calls, however the links run. -/
theorem readPages_calls (incremental : Bool) (pages : Nat) (path : String)
    (values : List JsonRecord) (deltaLink : Option String) (calls : Nat) :
    calls ≤ (readPages options incremental pages path values deltaLink calls).1 ∧
      (readPages options incremental pages path values deltaLink calls).1 ≤
        calls + pages * (options.maxRetries + 1) := by
  induction pages generalizing path values deltaLink calls with
  | zero => simp [readPages]
  | succ pages ih =>
    have hfetch := fetchPage_calls (fun call => options.list call path)
      (fun page => page.status.getD 200 = 429) options.maxRetries calls
    unfold readPages
    rw [Nat.succ_mul]
    split
    · rename_i heq
      rw [heq] at hfetch
      dsimp only at hfetch ⊢
      omega
    · rename_i heq
      rw [heq] at hfetch
      dsimp only at hfetch ⊢
      omega
    rename_i calls₁ page heq
    rw [heq] at hfetch
    dsimp only at hfetch
    split
    · dsimp only
      omega
    split
    · dsimp only
      omega
    split
    · rename_i next hnext
      have hrest := ih next (values ++ page.value) (page.deltaLink.or deltaLink) calls₁
      omega
    · dsimp only
      omega

theorem readPages_stale {incremental : Bool} {limit calls calls' : Nat} {path : String}
    {values : List JsonRecord} {deltaLink : Option String}
    (h : readPages options incremental limit path values deltaLink calls = (calls', .ok .stale)) :
    incremental = true := by
  induction limit generalizing path values deltaLink calls with
  | zero => cases h
  | succ limit ih =>
    unfold readPages at h
    split at h
    · cases h
    · cases h
    split at h
    · rename_i hstale
      exact hstale.1
    split at h
    · cases h
    split at h
    · exact ih h
    · cases h

theorem readPages_read {incremental : Bool} {limit calls calls' : Nat} {path : String}
    {values values' : List JsonRecord} {deltaLink deltaLink' : Option String}
    (h : readPages options incremental limit path values deltaLink calls =
      (calls', .ok (.read values' deltaLink'))) :
    ∃ pages, Pages options path calls pages calls' ∧ values' = values ++ pageValues pages ∧
      deltaLink' = lastDeltaLink deltaLink pages := by
  induction limit generalizing path values deltaLink calls with
  | zero => cases h
  | succ limit ih =>
    unfold readPages at h
    split at h
    · cases h
    · cases h
    rename_i calls₁ page hfetch
    have hsent := sent_of_fetchPage hfetch
    split at h
    · cases h
    split at h
    · cases h
    rename_i hok
    split at h
    · rename_i next hnext
      obtain ⟨pages, hpages, rfl, rfl⟩ := ih h
      refine ⟨page :: pages, .more hsent (by omega) hnext hpages, ?_, rfl⟩
      simp [pageValues, List.append_assoc]
    · rename_i hlast
      cases h
      exact ⟨[page], .last hsent (by omega) hlast, by simp [pageValues], rfl⟩

/-! ## One read -/

/-- What one pass over the pages does: it throws, or gives up on the changes, or caches what
it has of a full read, or caches a read to the end together with its cursor. -/
inductive PassOutcome (options : Options) (reader : CollectionReader) (cacheKey startPath : String)
    (cachedValues : Option (List JsonRecord)) :
    CollectionReader × Except String (Option (List JsonRecord × Bool)) → Prop
  | threw (calls : Nat) (message : String) :
      PassOutcome options reader cacheKey startPath cachedValues
        ({ reader with calls }, .error message)
  | ambiguous (calls : Nat) (hcached : cachedValues ≠ none) :
      PassOutcome options reader cacheKey startPath cachedValues ({ reader with calls }, .ok none)
  | cut (calls : Nat) (values : List JsonRecord) (hcached : cachedValues = none) :
      PassOutcome options reader cacheKey startPath cachedValues
        ({ reader with
           calls, collectionCaches := reader.collectionCaches.set cacheKey values },
         .ok (some (values, false)))
  | full (calls : Nat) (pages : List ProviderPage) (hcached : cachedValues = none)
      (hpages : Pages options startPath reader.calls pages calls) :
      PassOutcome options reader cacheKey startPath cachedValues
        ({ calls
           deltaStates := match cursorOf pages with
             | some token => reader.deltaStates.set cacheKey token
             | none => reader.deltaStates
           collectionCaches := reader.collectionCaches.set cacheKey (pageValues pages) },
         .ok (some (pageValues pages, true)))
  | changes (calls : Nat) (pages : List ProviderPage) (cached : List JsonRecord) (token : String)
      (hcached : cachedValues = some cached) (hcursor : cursorOf pages = some token)
      (hpages : Pages options startPath reader.calls pages calls) :
      PassOutcome options reader cacheKey startPath cachedValues
        ({ calls
           deltaStates := reader.deltaStates.set cacheKey token
           collectionCaches := reader.collectionCaches.set cacheKey
             (applyGraphDeltaChanges cached (pageValues pages)) },
         .ok (some (applyGraphDeltaChanges cached (pageValues pages), true)))

variable {reader : CollectionReader}

/-- **What a pass does.** -/
theorem readCollectionPages_outcome (options : Options) (reader : CollectionReader)
    (cacheKey startPath : String) (cachedValues : Option (List JsonRecord)) :
    PassOutcome options reader cacheKey startPath cachedValues
      (reader.readCollectionPages options cacheKey startPath cachedValues) := by
  unfold CollectionReader.readCollectionPages
  split
  · exact .threw _ _
  · rename_i calls hread
    refine .ambiguous calls fun hnone => ?_
    rw [hnone] at hread
    exact absurd (readPages_stale hread) (by decide)
  · rename_i calls values hread
    split
    · exact .ambiguous calls (Option.some_ne_none _)
    · exact .cut calls values rfl
  · rename_i calls values deltaLink hread
    obtain ⟨pages, hpages, hvalues, rfl⟩ := readPages_read hread
    rw [List.nil_append] at hvalues
    subst hvalues
    split
    · rename_i token cached hcursor
      exact .changes calls pages cached token rfl hcursor hpages
    · rename_i token hcursor
      have hout : PassOutcome options reader cacheKey startPath none _ :=
        .full calls pages rfl hpages
      rwa [cursorOf, hcursor] at hout
    · exact .ambiguous calls (Option.some_ne_none _)
    · rename_i hcursor
      have hout : PassOutcome options reader cacheKey startPath none _ :=
        .full calls pages rfl hpages
      rwa [cursorOf, hcursor] at hout

theorem readCollectionPages_calls (options : Options) (reader : CollectionReader)
    (cacheKey startPath : String) (cachedValues : Option (List JsonRecord)) :
    (reader.readCollectionPages options cacheKey startPath cachedValues).1.calls =
      (readPages options cachedValues.isSome options.maxPages startPath [] none
        reader.calls).1 := by
  unfold CollectionReader.readCollectionPages
  rcases readPages options cachedValues.isSome options.maxPages startPath [] none reader.calls
    with ⟨calls, message | ⟨values⟩ | _ | ⟨values, deltaLink⟩⟩
  · rfl
  · cases cachedValues <;> rfl
  · rfl
  · cases hcursor : truthy deltaLink <;> cases cachedValues <;>
      simp [CollectionReader.cacheCollection, hcursor]

/-! ## Reads in succession -/

/-- The records are what reads to the end come to: a full one, and then the changes since,
each from the cursor of the one before. The last of them took the calls from `started` up to
`ended`. -/
inductive Collected (options : Options) (path : String) :
    List JsonRecord → Option String → Nat → Nat → Prop
  | full {pages : List ProviderPage} {started ended : Nat}
      (hpages : Pages options path started pages ended) :
      Collected options path (pageValues pages) (cursorOf pages) started ended
  | changes {cached : List JsonRecord} {token cursor : String} {pages : List ProviderPage}
      {started₀ ended₀ started ended : Nat}
      (hcached : Collected options path cached (some token) started₀ ended₀)
      (hafter : ended₀ ≤ started) (hpages : Pages options token started pages ended)
      (hcursor : cursorOf pages = some cursor) :
      Collected options path (applyGraphDeltaChanges cached (pageValues pages)) (some cursor)
        started ended

/-- A cursor is held together with the records of the read that it came with. -/
def Sound (options : Options) (reader : CollectionReader) : Prop :=
  ∀ path token, reader.deltaStates.get? path = some token → ∃ values started ended,
    reader.collectionCaches.get? path = some values ∧
      Collected options path values (some token) started ended ∧ ended ≤ reader.calls

/-- What a read of a path reports and leaves behind. -/
structure ReadSound (options : Options) (reader : CollectionReader) (path : String)
    (r : CollectionReader × Except String (List JsonRecord × Bool)) : Prop where
  sound : Sound options r.1
  completed : ∀ values, r.2 = .ok (values, true) → ∃ cursor started, reader.calls ≤ started ∧
    Collected options path values cursor started r.1.calls ∧
      r.1.collectionCaches.get? path = some values ∧ r.1.deltaStates.get? path = cursor
  cut : ∀ values, r.2 = .ok (values, false) → r.1.deltaStates.get? path = none
  threw : ∀ message, r.2 = .error message →
    r.1.collectionCaches = reader.collectionCaches ∧
      (r.1.deltaStates = reader.deltaStates ∨ r.1.deltaStates.get? path = none)

theorem sound_after {reader' : CollectionReader} (h : Sound options reader) {path : String}
    (hcalls : reader.calls ≤ reader'.calls)
    (hcache : ∀ other ≠ path,
      reader'.collectionCaches.get? other = reader.collectionCaches.get? other)
    (hdelta : ∀ other ≠ path, reader'.deltaStates.get? other = reader.deltaStates.get? other)
    (hpath : ∀ token, reader'.deltaStates.get? path = some token → ∃ values started ended,
      reader'.collectionCaches.get? path = some values ∧
        Collected options path values (some token) started ended ∧ ended ≤ reader'.calls) :
    Sound options reader' := by
  intro other token htoken
  by_cases ho : other = path
  · subst ho
    exact hpath token htoken
  · rw [hdelta other ho] at htoken
    obtain ⟨values, started, ended, hvalues, hcollected, hended⟩ := h other token htoken
    exact ⟨values, started, ended, (hcache other ho).trans hvalues, hcollected,
      hended.trans hcalls⟩

theorem pass_calls (options : Options) (reader : CollectionReader)
    (cacheKey startPath : String) (cachedValues : Option (List JsonRecord)) :
    reader.calls ≤ (reader.readCollectionPages options cacheKey startPath cachedValues).1.calls ∧
      (reader.readCollectionPages options cacheKey startPath cachedValues).1.calls ≤
        reader.calls + options.maxPages * (options.maxRetries + 1) := by
  rw [readCollectionPages_calls]
  exact readPages_calls _ _ _ _ _ _

/-- A full read, when no cursor is held for the path. -/
theorem readFull_sound (h : Sound options reader) {path : String}
    (hnone : reader.deltaStates.get? path = none) :
    ReadSound options reader path (reader.readFull options path) := by
  have hcalls := (pass_calls options reader path path none).1
  have houtcome := readCollectionPages_outcome options reader path path
    none
  unfold CollectionReader.readFull
  generalize reader.readCollectionPages options path path none = result at hcalls houtcome
  cases houtcome with
  | threw calls message =>
    refine ⟨?_, fun _ he => (by cases he), fun _ he => (by cases he), fun _ _ => ⟨rfl, .inl rfl⟩⟩
    exact sound_after h hcalls (fun _ _ => rfl) (fun _ _ => rfl) fun token htoken =>
      absurd (hnone.symm.trans htoken) (by simp)
  | ambiguous calls hcached => exact absurd rfl hcached
  | cut calls values =>
    refine ⟨?_, fun _ he => (by cases he), fun _ _ => hnone, fun _ he => (by cases he)⟩
    exact sound_after h hcalls (fun other ho => OrderedMap.get?_set_ne _ _ ho.symm)
      (fun _ _ => rfl) fun token htoken => absurd (hnone.symm.trans htoken) (by simp)
  | full calls pages hcached hpages =>
    have hcollected := Collected.full hpages
    have hget : (match cursorOf pages with
        | some token => reader.deltaStates.set path token
        | none => reader.deltaStates).get? path = cursorOf pages := by
      cases cursorOf pages with
      | none => exact hnone
      | some token => exact OrderedMap.get?_set_self ..
    refine ⟨?_, fun values he => ?_, fun _ he => (by cases he), fun _ he => (by cases he)⟩
    · refine sound_after h hcalls (fun other ho => OrderedMap.get?_set_ne _ _ ho.symm)
        (fun other ho => ?_) fun token htoken => ?_
      · dsimp only
        cases cursorOf pages with
        | none => rfl
        | some token => exact OrderedMap.get?_set_ne _ _ ho.symm
      · have hcursor : cursorOf pages = some token := hget.symm.trans htoken
        exact ⟨pageValues pages, reader.calls, calls, OrderedMap.get?_set_self ..,
          hcursor ▸ hcollected, Nat.le_refl _⟩
    · cases he
      exact ⟨cursorOf pages, reader.calls, Nat.le_refl _, hcollected,
        OrderedMap.get?_set_self .., hget⟩
  | changes calls pages cached token hcached => cases hcached

/-- What is reported after an earlier pass was given up. -/
theorem ReadSound.after {reader' : CollectionReader} {path : String}
    {r : CollectionReader × Except String (List JsonRecord × Bool)}
    (h : ReadSound options reader' path r) (hcalls : reader.calls ≤ reader'.calls)
    (hcaches : reader'.collectionCaches = reader.collectionCaches)
    (hdelta : reader'.deltaStates.get? path = none) : ReadSound options reader path r where
  sound := h.sound
  completed values he := by
    obtain ⟨cursor, started, hstarted, hrest⟩ := h.completed values he
    exact ⟨cursor, started, hcalls.trans hstarted, hrest⟩
  cut := h.cut
  threw message he := by
    obtain ⟨hc, hd | hd⟩ := h.threw message he
    · exact ⟨hc.trans hcaches, .inr (by rw [hd]; exact hdelta)⟩
    · exact ⟨hc.trans hcaches, .inr hd⟩

theorem readCollectionResult_sound (h : Sound options reader) (path : String) :
    ReadSound options reader path (reader.readCollectionResult options path) := by
  unfold CollectionReader.readCollectionResult
  split
  · rename_i token cached htoken hcached
    obtain ⟨values, started₀, ended₀, hvalues, hcollected, hended⟩ := h path token htoken
    obtain rfl : cached = values := Option.some.inj (hcached.symm.trans hvalues)
    have hcalls := (pass_calls options reader path token (some cached)).1
    have houtcome := readCollectionPages_outcome options reader path token
      (some cached)
    generalize reader.readCollectionPages options path token (some cached) = result
      at hcalls houtcome
    cases houtcome with
    | threw calls message =>
      refine ⟨?_, fun _ he => (by cases he), fun _ he => (by cases he), fun _ _ => ⟨rfl, .inl rfl⟩⟩
      exact sound_after h hcalls (fun _ _ => rfl) (fun _ _ => rfl) fun token' htoken' =>
        let ⟨values, started, ended, hv, hc, he⟩ := h path token' htoken'
        ⟨values, started, ended, hv, hc, he.trans hcalls⟩
    | ambiguous calls =>
      have hdelta : (reader.deltaStates.delete path).get? path = none := by
        rw [OrderedMap.get?_delete, if_pos rfl]
      have hsound : Sound options
          { reader with calls, deltaStates := reader.deltaStates.delete path } :=
        sound_after h hcalls (fun _ _ => rfl)
          (fun other ho => by rw [OrderedMap.get?_delete, if_neg (Ne.symm ho)])
          fun token' htoken' => absurd (hdelta.symm.trans htoken') (by simp)
      exact (readFull_sound hsound hdelta).after hcalls rfl hdelta
    | cut calls values hnone => cases hnone
    | full calls pages hnone => cases hnone
    | changes calls pages cached' cursor heq hcursor hpages =>
      obtain rfl : cached = cached' := Option.some.inj heq
      have hnew := Collected.changes hcollected hended hpages hcursor
      refine ⟨?_, fun values he => ?_, fun _ he => (by cases he), fun _ he => (by cases he)⟩
      · refine sound_after h hcalls (fun other ho => OrderedMap.get?_set_ne _ _ ho.symm)
          (fun other ho => OrderedMap.get?_set_ne _ _ ho.symm) fun token' htoken' => ?_
        obtain rfl : cursor = token' :=
          Option.some.inj ((OrderedMap.get?_set_self ..).symm.trans htoken')
        exact ⟨_, reader.calls, calls, OrderedMap.get?_set_self .., hnew, Nat.le_refl _⟩
      · cases he
        exact ⟨some cursor, reader.calls, Nat.le_refl _, hnew, OrderedMap.get?_set_self ..,
          OrderedMap.get?_set_self ..⟩
  · rename_i hno
    refine readFull_sound h ?_
    cases htoken : reader.deltaStates.get? path with
    | none => rfl
    | some token =>
      obtain ⟨values, -, -, hvalues, -⟩ := h path token htoken
      exact absurd hvalues (hno token values htoken)

theorem readFull_calls (options : Options) (reader : CollectionReader) (path : String) :
    reader.calls ≤ (reader.readFull options path).1.calls ∧
      (reader.readFull options path).1.calls ≤
        reader.calls + options.maxPages * (options.maxRetries + 1) := by
  have hcalls := pass_calls options reader path path none
  unfold CollectionReader.readFull
  generalize reader.readCollectionPages options path path none = result at hcalls
  obtain ⟨reader', message | result⟩ := result
  · exact hcalls
  · exact hcalls

/-- **Termination**: a read ends after two passes, each of `maxPages` pages that are tried
`maxRetries` times again at most. -/
theorem readCollectionResult_calls (options : Options) (reader : CollectionReader) (path : String) :
    reader.calls ≤ (reader.readCollectionResult options path).1.calls ∧
      (reader.readCollectionResult options path).1.calls ≤
        reader.calls + 2 * (options.maxPages * (options.maxRetries + 1)) := by
  unfold CollectionReader.readCollectionResult
  split
  · rename_i token cached _ _
    have hcalls := pass_calls options reader path token (some cached)
    generalize reader.readCollectionPages options path token (some cached) = result at hcalls
    obtain ⟨reader', message | _ | result⟩ := result
    · dsimp only at hcalls ⊢
      omega
    · have hfull := readFull_calls options
        { reader' with deltaStates := reader'.deltaStates.delete path } path
      dsimp only at hcalls hfull ⊢
      omega
    · dsimp only at hcalls ⊢
      omega
  · have hfull := readFull_calls options reader path
    omega

/-- The reader of a connector: reads of collections and of records, one after the other. -/
inductive Reached (options : Options) : CollectionReader → Prop
  | start : Reached options {}
  | collection {reader : CollectionReader} (h : Reached options reader) (path : String) :
      Reached options (reader.readCollectionResult options path).1
  | record {reader : CollectionReader} (h : Reached options reader) (path : String) :
      Reached options (reader.readRecord options path).1

theorem sound_start : Sound options {} := by
  intro path token htoken
  cases htoken

theorem Sound.readRecord (h : Sound options reader) (path : String) :
    Sound options (reader.readRecord options path).1 := by
  have hcalls := fetchPage_calls (fun call => options.get call path)
    (fun record => record.status.getD 200 = 429) options.maxRetries reader.calls
  unfold CollectionReader.readRecord
  generalize fetchPage (fun call => options.get call path)
    (fun record => record.status.getD 200 = 429) options.maxRetries reader.calls = result at hcalls
  have hkept : ∀ calls, reader.calls ≤ calls → Sound options { reader with calls } := by
    intro calls hle other token htoken
    obtain ⟨values, started, ended, hvalues, hcollected, hended⟩ := h other token htoken
    exact ⟨values, started, ended, hvalues, hcollected, hended.trans hle⟩
  obtain ⟨calls, message | _ | record⟩ := result
  · exact hkept calls (Nat.le_of_lt hcalls.1)
  · exact hkept calls (Nat.le_of_lt hcalls.1)
  · exact hkept calls (Nat.le_of_lt hcalls.1)

theorem Reached.sound (h : Reached options reader) : Sound options reader := by
  induction h with
  | start => exact sound_start
  | collection _ path ih => exact (readCollectionResult_sound ih path).sound
  | record _ path ih => exact ih.readRecord path

/-- **A read ends and is truthful**, whatever the provider answers. It takes a bounded number
of calls; what it reports as completed it has received page by page up to a last page, in
this read; and a cursor that is held after it came with this read and with its records, or
the read threw and cursor and records are those of before. -/
theorem read_truthful {options : Options} {reader : CollectionReader}
    (h : Reached options reader) (path : String) :
    ((reader.readCollectionResult options path).1.calls ≤
      reader.calls + 2 * (options.maxPages * (options.maxRetries + 1))) ∧
    (∀ values, (reader.readCollectionResult options path).2 = .ok (values, true) →
      ∃ cursor started, reader.calls ≤ started ∧ Collected options path values cursor started
        (reader.readCollectionResult options path).1.calls) ∧
    ∀ token, (reader.readCollectionResult options path).1.deltaStates.get? path = some token →
      (∃ values started, (reader.readCollectionResult options path).2 = .ok (values, true) ∧
        (reader.readCollectionResult options path).1.collectionCaches.get? path = some values ∧
        reader.calls ≤ started ∧ Collected options path values (some token) started
          (reader.readCollectionResult options path).1.calls) ∨
      ((∃ message, (reader.readCollectionResult options path).2 = .error message) ∧
        reader.deltaStates.get? path = some token ∧
        (reader.readCollectionResult options path).1.collectionCaches.get? path =
          reader.collectionCaches.get? path) := by
  have hread := readCollectionResult_sound h.sound path
  refine ⟨(readCollectionResult_calls options reader path).2, fun values he => ?_,
    fun token htoken => ?_⟩
  · obtain ⟨cursor, started, hstarted, hcollected, -⟩ := hread.completed values he
    exact ⟨cursor, started, hstarted, hcollected⟩
  · generalize reader.readCollectionResult options path = r at hread htoken
    obtain ⟨reader', message | ⟨values, completed⟩⟩ := r
    · obtain ⟨hcaches, hdelta | hdelta⟩ := hread.threw message rfl
      · exact .inr ⟨⟨message, rfl⟩, hdelta ▸ htoken, congrArg (·.get? path) hcaches⟩
      · exact absurd (hdelta.symm.trans htoken) (by simp)
    · cases completed with
      | false => exact absurd ((hread.cut values rfl).symm.trans htoken) (by simp)
      | true =>
        obtain ⟨cursor, started, hstarted, hcollected, hcache, hcursor⟩ :=
          hread.completed values rfl
        obtain rfl : cursor = some token := hcursor.symm.trans htoken
        exact .inl ⟨values, started, rfl, hcache, hstarted, hcollected⟩

def user : JsonRecord := [("id", .str "user-1"), ("displayName", .str "User 1")]

def userLeft : JsonRecord :=
  [("id", .str "user-1"), ("@removed", .obj [("reason", .str "deleted")])]

/-- A directory of one user, who is gone after the first answer. -/
def oneLeaver : Options where
  list call path := .ok <|
    if path = "/users" ∧ call = 0 then
      { value := [user], deltaLink := some "/users/delta?token=0" }
    else if path = "/users/delta?token=0" then
      { value := [userLeft], deltaLink := some "/users/delta?token=1" }
    else { value := [], deltaLink := some "/users/delta?token=1" }
  get _ _ := .ok {}

/-- The reader after the first read. -/
def readOnce : CollectionReader :=
  (({} : CollectionReader).readCollectionResult oneLeaver "/users").1

theorem readOnce_again :
    (readOnce.readCollectionResult oneLeaver "/users").2 =
      .ok ([JsonRecord.spread user userLeft], true) := rfl

theorem read_truthful_second :
    ∃ cursor started, readOnce.calls ≤ started ∧
      Collected oneLeaver "/users" [JsonRecord.spread user userLeft] cursor started
        (readOnce.readCollectionResult oneLeaver "/users").1.calls :=
  (read_truthful (.collection .start "/users") "/users").2.1 _ readOnce_again

end

end AccessKit.L5.Entra
