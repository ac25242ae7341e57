import AccessKit.L7Persistence.FinalizedFiles
import AccessKit.L9Evidence.Exports

/-!
# Exports into files

packages/api/src/runtime-evidence-export.ts:190-205 over packages/core/src/repositories.ts:246-276:
a runtime with a directory of packages, from its start on. Nothing but an export writes to
the directory, and whatever an export returns was written.

Results:
* `Run.files`: what the files of a runtime hold.
* `read_run`: what is read at any later time is the last package that an export returned
  for the file, and it is verified.
-/
namespace AccessKit.L9
open AccessKit.Core AccessKit.L1 AccessKit.L8
open AccessKit.L2.Audit (bind_ok)
open AccessKit.L2.Evidence (EvidenceModule ReportedVerified Sealed verifierOf plainModule
  EvidenceVerificationReport)
open AccessKit.L2.Audit.Fixtures (exactHost printsNumbers_exact readsNumbers_exact scanNumber)
open AccessKit.L2.Fixtures (timestamp)
open AccessKit.L7 (EvidenceExport EvidenceFiles EvidenceWrite)
open AccessKit.L7.LocalFileEvidenceRepository (fileName readEvidenceExport storedEvidence receipt)

/-! ## The repository -/

/-- The repository on local files, which never throws. -/
def localEvidenceRepository (H : Host) : EvidencePackageRepository EvidenceFiles where
  writeEvidenceExport files write :=
    .ok (L7.LocalFileEvidenceRepository.writeEvidenceExport H files write)

/-- What a runtime works with that keeps its packages in files. -/
def onFiles {κ σ : Type} (M : EvidenceModule κ) (localeCompare : String → String → Int)
    (audit : AuditRepository σ) : EvidenceEnvironment κ σ EvidenceFiles where
  evidence := M
  localeCompare
  audit
  packages := localEvidenceRepository M.host

/-- The file that a package goes to. -/
def fileOf (evidence : JsonRecord) : Option String :=
  match JsonRecord.get evidence "exportId" with
  | .str exportId => some (fileName exportId)
  | _ => none

/-- The last of the packages that went to a file. -/
def lastReturned (name : String) (returned : List JsonRecord) : Option JsonRecord :=
  returned.reverse.find? fun evidence => fileOf evidence = some name

/-- The text of a package in a file. -/
def packageText (H : Host) (evidence : JsonRecord) : String :=
  (stableStringify H (.obj evidence)).getD "" ++ "\n"

theorem evidenceExportOf_content (e : EvidenceExport) : evidenceExportOf e.content = some e := by
  obtain ⟨content, exportId, packageHash, hjson, hid, hhash⟩ := e
  unfold evidenceExportOf
  rw [dif_pos hjson]
  split
  · rename_i hid' hhash'
    obtain rfl := JsValue.str.inj (hid.symm.trans hid')
    obtain rfl := JsValue.str.inj (hhash.symm.trans hhash')
    rfl
  · rename_i hne
    exact absurd hhash (hne _ _ hid)

theorem EvidenceApp.Finalized.evidenceExport {κ : Type} {M : EvidenceModule κ}
    {exportId : CanonicalId} {evidence : JsonRecord} (h : Finalized M exportId evidence) :
    ∃ e : EvidenceExport, evidenceExportOf evidence = some e ∧ e.content = evidence ∧
      e.exportId = exportId := by
  obtain ⟨e, rfl, hid⟩ := L7.exists_evidenceExport h.sealed.json h.exportId h.packageHash
  exact ⟨e, evidenceExportOf_content e, rfl, hid⟩

theorem lastReturned_append (name : String) (returned : List JsonRecord) (evidence : JsonRecord) :
    lastReturned name (returned ++ [evidence]) =
      if fileOf evidence = some name then some evidence else lastReturned name returned := by
  unfold lastReturned
  rw [List.reverse_append, List.reverse_singleton, List.singleton_append]
  by_cases h : fileOf evidence = some name
  · rw [if_pos h, List.find?_cons_of_pos (by simpa using h)]
  · rw [if_neg h, List.find?_cons_of_neg (by simpa using h)]

/-! ## Runs -/

/-- Whatever else a runtime does: its packages are left, and its events have times. -/
structure Elsewhere {σ : Type} (app app' : EvidenceApp σ EvidenceFiles) : Prop where
  evidenceRepository : app'.evidenceRepository = app.evidenceRepository
  timed : app.Timed → app'.Timed

theorem Elsewhere.trans {σ : Type} {app app' app'' : EvidenceApp σ EvidenceFiles}
    (h : Elsewhere app app') (h' : Elsewhere app' app'') : Elsewhere app app'' :=
  ⟨h'.evidenceRepository.trans h.evidenceRepository, h'.timed ∘ h.timed⟩

/-- A run of a runtime, with the packages that its exports returned. -/
inductive Run {κ σ : Type} (E : EvidenceEnvironment κ σ EvidenceFiles)
    (start : EvidenceApp σ EvidenceFiles) : List JsonRecord → EvidenceApp σ EvidenceFiles → Prop
  | start : Run E start [] start
  | exported {returned : List JsonRecord} {app : EvidenceApp σ EvidenceFiles}
      (h : Run E start returned app) (requestActor : Option CanonicalId) (wallClock : IsoDateTime)
      (controls : List String) (format : EvidenceExportFormat) {options : EvidenceExportOptions}
      (hoptions : options.Timed) :
      Run E start (returned ++ (app.exportEvidencePackage E requestActor wallClock controls format
        options).2.toOption.toList)
        (app.exportEvidencePackage E requestActor wallClock controls format options).1
  | verified {returned : List JsonRecord} {app : EvidenceApp σ EvidenceFiles}
      (h : Run E start returned app) (requestActor : Option CanonicalId) (wallClock : IsoDateTime)
      (evidencePackage : JsValue) (idempotencyKey : String) :
      Run E start returned
        (app.verifyEvidencePackage E requestActor wallClock evidencePackage idempotencyKey).1
  | auditExported {returned : List JsonRecord} {app : EvidenceApp σ EvidenceFiles}
      (h : Run E start returned app) (requestActor : Option CanonicalId)
      (options : AuditEventExportOptions) :
      Run E start returned (app.exportAuditEvents E requestActor options).1
  | auditVerified {returned : List JsonRecord} {app : EvidenceApp σ EvidenceFiles}
      (h : Run E start returned app) (requestActor : Option CanonicalId) :
      Run E start returned (app.verifyAuditIntegrity E requestActor).1
  | elsewhere {returned : List JsonRecord} {app app' : EvidenceApp σ EvidenceFiles}
      (h : Run E start returned app) (helsewhere : Elsewhere app app') : Run E start returned app'

namespace EvidenceApp

section
variable {κ σ : Type} {E : EvidenceEnvironment κ σ EvidenceFiles}
  {app : EvidenceApp σ EvidenceFiles} {requestActor : Option CanonicalId}

theorem elsewhere_tick : Elsewhere app app.tick := ⟨rfl, fun h => ⟨h.clock, h.events⟩⟩

theorem elsewhere_storeGovernance (records : AccessReviewGovernanceRecords) :
    Elsewhere app (app.storeGovernance records) := ⟨rfl, fun h => ⟨h.clock, h.events⟩⟩

theorem elsewhere_recordAudit (input : L2.Audit.AuditEventInput) :
    Elsewhere app (app.recordAudit E requestActor input).1 :=
  ⟨rfl, fun h => h.recordAudit requestActor input⟩

theorem elsewhere_verifyEvidencePackage (wallClock : IsoDateTime) (evidencePackage : JsValue)
    (idempotencyKey : String) : Elsewhere app
      (app.verifyEvidencePackage E requestActor wallClock evidencePackage idempotencyKey).1 := by
  unfold verifyEvidencePackage
  dsimp only
  split
  · exact elsewhere_tick
  · exact elsewhere_tick.trans (elsewhere_recordAudit _)

theorem elsewhere_exportAuditEvents (options : AuditEventExportOptions) :
    Elsewhere app (app.exportAuditEvents E requestActor options).1 := by
  unfold exportAuditEvents
  dsimp only
  split
  · exact elsewhere_tick
  · exact elsewhere_tick.trans (elsewhere_recordAudit _)

theorem elsewhere_verifyAuditIntegrity :
    Elsewhere app (app.verifyAuditIntegrity E requestActor).1 := by
  unfold verifyAuditIntegrity
  dsimp only
  split
  · exact elsewhere_tick
  · exact elsewhere_tick.trans (elsewhere_recordAudit _)

end

/-! ## What is published is in its file -/

section
variable {κ σ : Type} {M : EvidenceModule κ} (localeCompare : String → String → Int)
  (audit : AuditRepository σ) {app : EvidenceApp σ EvidenceFiles} {files : EvidenceFiles}

theorem Finalized.fileOf {exportId : CanonicalId} {evidence : JsonRecord}
    (h : Finalized M exportId evidence) : fileOf evidence = some (fileName exportId) := by
  simp only [L9.fileOf, h.exportId]

theorem Finalized.withReceipt {exportId : CanonicalId} {evidence : JsonRecord}
    (h : Finalized M exportId evidence) (r : L2.Audit.EvidenceStorageReceipt) :
    Finalized M exportId (withReceipt evidence (some r)) where
  sealed := h.sealed.set (.inr rfl) (L7.LocalFileEvidenceRepository.isJson_receipt r)
  exportId := by
    rw [EvidenceApp.withReceipt, JsonRecord.get_set, if_neg (by decide)]
    exact h.exportId
  packageHash := by
    rw [EvidenceApp.withReceipt, JsonRecord.get_set, if_neg (by decide)]
    exact h.packageHash

theorem writeEvidenceExport_files {evidence : JsonRecord} {e : EvidenceExport}
    (he : evidenceExportOf evidence = some e) (hfiles : app.evidenceRepository = some files)
    (storedAt : IsoDateTime) :
    app.writeEvidenceExport (onFiles M localeCompare audit) evidence storedAt =
      ({ app with evidenceRepository := some (files.set (fileName e.exportId)
          (L7.LocalFileEvidenceRepository.fileText M.host ⟨e, storedAt⟩)) },
        some (receipt ⟨e, storedAt⟩)) := by
  unfold writeEvidenceExport
  rw [hfiles, he]
  rfl

theorem publish_files (requestActor : Option CanonicalId) {exportId : CanonicalId}
    {evidence : JsonRecord} (h : Finalized M exportId evidence)
    (hfiles : app.evidenceRepository = some files) :
    ∃ app' stored, app.publish (onFiles M localeCompare audit) requestActor exportId evidence =
        (app', stored) ∧ Finalized M exportId stored ∧ (app.Timed → app'.Timed) ∧
      app'.evidenceRepository =
        some (files.set (fileName exportId) (packageText M.host stored)) := by
  obtain ⟨e, he, rfl, rfl⟩ := h.evidenceExport
  have hrecorded : Elsewhere app (app.recordAudit (onFiles M localeCompare audit) requestActor
    (app.generatedEvent e.exportId e.content)).1 := elsewhere_recordAudit _
  have hwritten := writeEvidenceExport_files (M := M) localeCompare audit he
    (hrecorded.evidenceRepository.trans hfiles)
  unfold publish
  dsimp only
  rw [hwritten]
  exact ⟨_, _, rfl, h.withReceipt _,
    fun htimed => ⟨(hrecorded.timed htimed).clock, (hrecorded.timed htimed).events⟩, rfl⟩

theorem exportEvidencePackage_files (hprint : PrintsNumbers M.host) (hsigns : SignsItself M)
    (requestActor : Option CanonicalId) (wallClock : IsoDateTime) (controls : List String)
    (format : EvidenceExportFormat) {options : EvidenceExportOptions} (htimed : app.Timed)
    (hoptions : options.Timed) (hfiles : app.evidenceRepository = some files) :
    ∃ app' result, app.exportEvidencePackage (onFiles M localeCompare audit) requestActor wallClock
        controls format options = (app', result) ∧ app'.Timed ∧
      ((∃ message, result = .error message ∧ app'.evidenceRepository = some files) ∨
        ∃ evidence, result = .ok evidence ∧
          Finalized M ("evidence:" ++ L6.compactTimestamp app.now) evidence ∧
          app'.evidenceRepository = some (files.set
            (fileName ("evidence:" ++ L6.compactTimestamp app.now))
            (packageText M.host evidence))) := by
  rcases exportEvidencePackage_cases (E := onFiles M localeCompare audit) requestActor wallClock
    controls format hprint hsigns htimed hoptions with
    ⟨-, app', message, hresult, happ⟩ |
    ⟨-, records, evidence, published, hfinalized, rfl, hresult⟩
  · have helsewhere : Elsewhere app app' := by
      rcases happ with rfl | ⟨records, rfl⟩
      · exact elsewhere_tick
      · exact elsewhere_tick.trans (elsewhere_storeGovernance records)
    exact ⟨app', _, hresult, helsewhere.timed htimed,
      .inl ⟨message, rfl, helsewhere.evidenceRepository.trans hfiles⟩⟩
  · have helsewhere : Elsewhere app (app.tick.storeGovernance records) :=
      elsewhere_tick.trans (elsewhere_storeGovernance records)
    obtain ⟨app', stored, hpublish, hstored, htimed', hfiles'⟩ :=
      publish_files (M := M) localeCompare audit requestActor hfinalized
        (helsewhere.evidenceRepository.trans hfiles)
    rw [hpublish] at hresult
    exact ⟨app', _, hresult, htimed' (helsewhere.timed htimed),
      .inr ⟨stored, rfl, hstored, hfiles'⟩⟩

end

end EvidenceApp

/-! ## What is read -/

open EvidenceApp

section
variable {κ σ : Type} {M : EvidenceModule κ} {localeCompare : String → String → Int}
  {audit : AuditRepository σ} {start app : EvidenceApp σ EvidenceFiles}
  {returned : List JsonRecord} {readNumber : String → Option Rat}

/-- The files hold the packages that were returned, each in the file that it goes to. -/
structure Holds (M : EvidenceModule κ) (returned : List JsonRecord)
    (app : EvidenceApp σ EvidenceFiles) : Prop where
  timed : app.Timed
  sealed : ∀ evidence ∈ returned, Sealed (verifierOf M {}) evidence
  files : ∃ files, app.evidenceRepository = some files ∧
    ∀ name, files.get? name = (lastReturned name returned).map (packageText M.host)

theorem Holds.elsewhere {app' : EvidenceApp σ EvidenceFiles} (h : Holds M returned app)
    (helsewhere : Elsewhere app app') : Holds M returned app' :=
  ⟨helsewhere.timed h.timed, h.sealed, helsewhere.evidenceRepository ▸ h.files⟩

theorem Holds.exported (hprint : PrintsNumbers M.host) (hsigns : SignsItself M)
    (h : Holds M returned app) (requestActor : Option CanonicalId) (wallClock : IsoDateTime)
    (controls : List String) (format : EvidenceExportFormat) {options : EvidenceExportOptions}
    (hoptions : options.Timed) :
    Holds M (returned ++ (app.exportEvidencePackage (onFiles M localeCompare audit) requestActor
        wallClock controls format options).2.toOption.toList)
      (app.exportEvidencePackage (onFiles M localeCompare audit) requestActor wallClock controls
        format options).1 := by
  obtain ⟨files, hfiles, hget⟩ := h.files
  obtain ⟨app', result, hresult, htimed, hcases⟩ :=
    exportEvidencePackage_files localeCompare audit hprint hsigns requestActor wallClock controls
      format h.timed hoptions hfiles
  rw [hresult]
  rcases hcases with ⟨message, rfl, hkept⟩ | ⟨evidence, rfl, hfinalized, hwritten⟩
  · refine ⟨htimed, ?_, files, hkept, ?_⟩
    · simpa [Except.toOption] using h.sealed
    · simpa [Except.toOption] using hget
  · change Holds M (returned ++ [evidence]) app'
    refine ⟨htimed, fun e he => ?_, _, hwritten, fun name => ?_⟩
    · rcases List.mem_append.1 he with he | he
      · exact h.sealed e he
      · rw [List.mem_singleton.1 he]
        exact hfinalized.sealed
    · rw [OrderedMap.get?_set, lastReturned_append, hfinalized.fileOf, hget]
      simp only [Option.some.injEq]
      split <;> rfl

/-- **A run** keeps what the files hold. -/
theorem Run.holds (hprint : PrintsNumbers M.host) (hsigns : SignsItself M)
    (htimed : start.Timed) (hempty : start.evidenceRepository = some .empty)
    (h : Run (onFiles M localeCompare audit) start returned app) : Holds M returned app := by
  induction h with
  | start => exact ⟨htimed, fun e he => (List.not_mem_nil he).elim, _, hempty, fun _ => rfl⟩
  | exported _ requestActor wallClock controls format hoptions ih =>
    exact ih.exported hprint hsigns requestActor wallClock controls format hoptions
  | verified => exact Holds.elsewhere ‹_› (elsewhere_verifyEvidencePackage _ _ _)
  | auditExported => exact Holds.elsewhere ‹_› (elsewhere_exportAuditEvents _)
  | auditVerified => exact Holds.elsewhere ‹_› elsewhere_verifyAuditIntegrity
  | elsewhere _ helsewhere ih => exact ih.elsewhere helsewhere

/-- **What is read** at any time under an identifier is the last package that an export
returned for its file, and it is verified; if there is none, nothing is read. -/
theorem read_run (hprint : PrintsNumbers M.host) (hread : ReadsNumbers M.host readNumber)
    (hsigns : SignsItself M) (htimed : start.Timed)
    (hempty : start.evidenceRepository = some .empty)
    (h : Run (onFiles M localeCompare audit) start returned app) (exportId : CanonicalId) :
    ∃ files, app.evidenceRepository = some files ∧
      ((lastReturned (fileName exportId) returned = none ∧
        readEvidenceExport readNumber files exportId = .ok none) ∨
      ∃ evidence v, lastReturned (fileName exportId) returned = some evidence ∧
        readEvidenceExport readNumber files exportId = .ok (some v) ∧
        SameJson (.obj evidence) v ∧ ∀ verifiedAt now,
          ReportedVerified (verifierOf M {}) v verifiedAt now) := by
  have hholds := h.holds hprint hsigns htimed hempty
  obtain ⟨files, hfiles, hget⟩ := hholds.files
  refine ⟨files, hfiles, ?_⟩
  unfold readEvidenceExport
  rw [hget]
  cases hlast : lastReturned (fileName exportId) returned with
  | none => exact .inl ⟨rfl, rfl⟩
  | some evidence =>
    have hmem : evidence ∈ returned := List.mem_reverse.1 (List.mem_of_find?_eq_some hlast)
    have hsealed := hholds.sealed evidence hmem
    obtain ⟨text, v, htext, hparse, hsame⟩ := parse_stableStringify hprint hread hsealed.json "\n"
      (List.all_eq_true.1 (by decide))
    obtain ⟨fields, rfl⟩ := hsame.eq_obj
    refine .inr ⟨evidence, _, rfl, ?_, hsame,
      (hsealed.congr hsame (isJson_jsonParse hparse)).reported⟩
    simp only [Option.map_some, packageText, htext, Option.getD_some, hparse]

end

/-- A runtime records an event, exports a package, and reads it. -/
theorem read_plain : ∃ returned app files v,
    Run (onFiles plainModule plainCompare noAuditRepository) (plainApp (some .empty)) returned
      app ∧ app.evidenceRepository = some files ∧
    readEvidenceExport scanNumber files ("evidence:" ++ L6.compactTimestamp timestamp) =
      .ok (some v) ∧ ReportedVerified (verifierOf plainModule {}) v none timestamp := by
  have hsigns : SignsItself plainModule := fun _ => beq_self_eq_true _
  have hoptions : EvidenceExportOptions.Timed {} := ⟨by decide, by decide⟩
  have hstarted := timed_plain (some (OrderedMap.empty : EvidenceFiles))
  have hrecorded : Elsewhere (plainApp (some .empty)) ((plainApp (some .empty)).recordAudit
    (onFiles plainModule plainCompare noAuditRepository) none detected).1 :=
      elsewhere_recordAudit detected
  have hstart : Run (onFiles plainModule plainCompare noAuditRepository) (plainApp (some .empty))
    [] (plainApp (some .empty)) := .start
  have hrun := (hstart.elsewhere hrecorded).exported none timestamp ["AC-2"] .json hoptions
  obtain ⟨evidence, hevidence⟩ := (exportEvidencePackage_verified
    (E := onFiles plainModule plainCompare noAuditRepository) none timestamp ["AC-2"] .json
    printsNumbers_exact hsigns (hrecorded.timed hstarted) hoptions).1.2 (exportable_plain _ _)
  obtain ⟨app', result, hresult, -, hcases⟩ := exportEvidencePackage_files (M := plainModule)
    plainCompare noAuditRepository printsNumbers_exact hsigns none timestamp ["AC-2"] .json
    (hrecorded.timed hstarted) hoptions rfl
  rw [hresult] at hevidence hrun
  obtain rfl : result = .ok evidence := hevidence
  obtain ⟨message, herror, -⟩ | ⟨stored, hstored, hfinalized, -⟩ := hcases
  · cases herror
  · cases hstored
    obtain ⟨files, hfiles, ⟨hnone, -⟩ | ⟨_, v, -, hread, -, hverified⟩⟩ :=
      read_run (M := plainModule) printsNumbers_exact readsNumbers_exact hsigns hstarted rfl hrun
        ("evidence:" ++ L6.compactTimestamp timestamp)
    · have hlast : lastReturned (fileName ("evidence:" ++ L6.compactTimestamp timestamp))
          ([] ++ [evidence]) = some evidence := by
        rw [lastReturned_append]
        exact if_pos hfinalized.fileOf
      cases hlast.symm.trans hnone
    · exact ⟨_, app', files, v, hrun, hfiles, hread, hverified none timestamp⟩

end AccessKit.L9
