import AccessKit.L3Policy.Valid
import AccessKit.L8Drift.Fixtures
import AccessKit.L9Evidence.Drafts

/-!
# What an export returns

packages/api/src/runtime-evidence-export.ts:109-205: an export reads the audit log and the
stores as they are, whatever they hold. A package comes of it unless the log cannot be
verified, a date is out of range, or a control has a name that every object inherits; and
the package passes every check of the module it was made with, with the receipt of a
repository or without.

Results:
* `exportMetadata_iff`: when a package is finalized.
* `exportEvidencePackage_verified`: when an export returns a package, and what a verifier
  says of it, at any time.
-/
namespace AccessKit.L9
open AccessKit.Core AccessKit.L1 AccessKit.L8
open AccessKit.L2.Audit (AuditEvent AuditEventInput AuditIntegrityReport EvidenceStorageReceipt
  bind_ok)
open AccessKit.L2.Evidence (EvidenceModule Named ReportedVerified Sealed signs_default verifierOf
  finalizeEvidenceExport plainModule)
open AccessKit.L2.Audit.Fixtures (exactHost printsNumbers_exact)
open AccessKit.L2.Fixtures (timestamp)
open AccessKit.L3 (sortStrings)
open AccessKit.L7.LocalFileEvidenceRepository (isJson_receipt)

theorem mapError_ok {ε ε' α : Type} {f : ε → ε'} {x : Except ε α} {a : α} :
    x.mapError f = .ok a ↔ x = .ok a := by
  cases x <;> simp [Except.mapError]

/-! ## Times -/

/-- A period that is given is no empty text. -/
structure EvidenceExportOptions.Timed (options : EvidenceExportOptions) : Prop where
  periodStart : options.periodStart ≠ some ""
  periodEnd : options.periodEnd ≠ some ""

/-- The clock and the events of a runtime have times. -/
structure EvidenceApp.Timed {σ ρ : Type} (app : EvidenceApp σ ρ) : Prop where
  clock : ∀ n, app.clock n ≠ ""
  events : ∀ event ∈ app.storeEvents, event.occurredAt ≠ ""

namespace EvidenceApp

section
variable {σ ρ : Type} {app : EvidenceApp σ ρ} {options : EvidenceExportOptions}

theorem getD_ne {given : Option IsoDateTime} {time : IsoDateTime} (h : given ≠ some "")
    (htime : time ≠ "") : given.getD time ≠ "" := by
  cases given with
  | none => exact htime
  | some given => exact fun he => h (congrArg some he)

theorem firstOccurrence_ne {events : List AuditEvent}
    (h : ∀ event ∈ events, event.occurredAt ≠ "") : firstOccurrence events ≠ some "" := by
  intro hfirst
  have hmem : "" ∈ sortStrings (events.map (·.occurredAt)) := List.mem_of_head? hfirst
  obtain ⟨event, hevent, htime⟩ := List.mem_map.1 (L3.mem_sortStrings.1 hmem)
  exact h event hevent htime

theorem Timed.recordAudit {κ : Type} {E : EvidenceEnvironment κ σ ρ} (h : app.Timed)
    (requestActor : Option CanonicalId) (input : AuditEventInput) :
    (app.recordAudit E requestActor input).1.Timed := by
  refine ⟨h.clock, fun event hevent => ?_⟩
  rcases List.mem_append.1 hevent with hevent | hevent
  · exact h.events event hevent
  · rw [List.mem_singleton.1 hevent]
    exact h.clock _

theorem exportStart_ne (h : app.Timed) (ho : options.Timed) {generatedAt : IsoDateTime}
    (hat : generatedAt ≠ "") : app.exportStart options generatedAt ≠ "" :=
  getD_ne ho.periodStart (getD_ne (firstOccurrence_ne h.events) hat)

end

/-! ## What is read -/

section
variable {κ σ ρ : Type} {E : EvidenceEnvironment κ σ ρ} {app : EvidenceApp σ ρ}
  {controls : List String} {format : EvidenceExportFormat} {options : EvidenceExportOptions}
  {generatedAt : IsoDateTime}

/-- The log can be verified, and the governance records can be generated. -/
def Readable (E : EvidenceEnvironment κ σ ρ) (app : EvidenceApp σ ρ)
    (options : EvidenceExportOptions) (generatedAt : IsoDateTime) : Prop :=
  (∃ report, app.verifyRuntimeAuditIntegrity E generatedAt = .ok report) ∧
  ∃ records, buildAccessReviewGovernance E.evidence.host E.localeCompare
    (app.governanceInput (app.exportEvents options generatedAt) generatedAt) = .ok records

/-- What is read for an export of controls. -/
structure InputsFor (app : EvidenceApp σ ρ) (controls : List String)
    (options : EvidenceExportOptions) (generatedAt : IsoDateTime) (i : ExportInputs)
    (mappings : List EvidenceControlMapping) : Prop where
  mappings : buildControlMappings controls i.events = .ok mappings
  periodStart : i.periodStart = app.exportStart options generatedAt
  periodEnd : i.periodEnd = options.periodEnd.getD generatedAt
  generatedAt : i.generatedAt = generatedAt

theorem exportInputs_ok {i : ExportInputs} {mappings : List EvidenceControlMapping}
    (h : app.exportInputs E controls format options generatedAt = .ok (i, mappings)) :
    Readable E app options generatedAt ∧ InputsFor app controls options generatedAt i mappings := by
  obtain ⟨report, hreport, h⟩ := bind_ok.1 h
  obtain ⟨mapped, hmapped, h⟩ := bind_ok.1 h
  obtain ⟨records, hrecords, h⟩ := bind_ok.1 h
  cases h
  exact ⟨⟨⟨report, hreport⟩, records, hrecords⟩, mapError_ok.1 hmapped, rfl, rfl, rfl⟩

theorem exportInputs_read (h : Readable E app options generatedAt)
    (hcontrols : NoInherited controls) :
    ∃ i mappings, app.exportInputs E controls format options generatedAt = .ok (i, mappings) := by
  obtain ⟨⟨report, hreport⟩, records, hrecords⟩ := h
  obtain ⟨mappings, hmappings⟩ :=
    exists_mappings hcontrols (app.exportEvents options generatedAt)
  exact ⟨_, mappings, bind_ok.2 ⟨report, hreport, bind_ok.2 ⟨mappings, mapError_ok.2 hmappings,
    bind_ok.2 ⟨records, hrecords, rfl⟩⟩⟩⟩

end

/-! ## What is finalized -/

section
variable {κ σ ρ : Type} {E : EvidenceEnvironment κ σ ρ} {controls : List String}
  {i : ExportInputs} {mappings : List EvidenceControlMapping}

/-- The default key of a module verifies what it signs. -/
def SignsItself {κ : Type} (M : EvidenceModule κ) : Prop :=
  ∀ text, M.verifyPayload M.runtimePublicKey text (M.runtimeSignPayload text) = true

/-- A package that a module made: sealed, with an identifier and a hash. -/
structure Finalized {κ : Type} (M : EvidenceModule κ) (exportId : CanonicalId)
    (evidence : JsonRecord) : Prop where
  sealed : Sealed (verifierOf M {}) evidence
  exportId : JsonRecord.get evidence "exportId" = .str exportId
  packageHash : Named "packageHash" (JsonRecord.get evidence "integrityManifest")

theorem buildPoamItems_isOk {H : Host} {report : AuditIntegrityReport} {generatedAt : IsoDateTime}
    {findings : List GovernanceFinding} :
    (∃ items, buildPoamItems H mappings report generatedAt findings = .ok items) ↔
      (addDays H generatedAt 30).isOk = true := by
  unfold buildPoamItems
  cases addDays H generatedAt 30 with
  | error message => exact iff_of_false (by rintro ⟨items, hitems⟩; cases hitems) Bool.false_ne_true
  | ok date => exact iff_of_true ⟨_, rfl⟩ rfl

theorem finalized_evidenceDraft (app : EvidenceApp σ ρ) (hprint : PrintsNumbers E.evidence.host)
    (hsigns : SignsItself E.evidence)
    (hmappings : buildControlMappings controls i.events = .ok mappings)
    (hstart : i.periodStart ≠ "") (hend : i.periodEnd ≠ "") (hat : i.generatedAt ≠ "")
    {items statements : List JsValue}
    (hitems : buildPoamItems E.evidence.host mappings i.auditIntegrity i.generatedAt
      i.governance.findings = .ok items)
    (hstatements : buildControlStatements mappings
      (buildEvidenceArtifacts i.format i.events.length) i.generatedAt = .ok statements)
    (wallClock : IsoDateTime) :
    ∃ evidence, finalizeEvidenceExport E.evidence (evidenceDraft app.connectors.values app.counts
        app.driftFindings.values i mappings items statements) {} wallClock = .ok evidence ∧
      Finalized E.evidence ("evidence:" ++ L6.compactTimestamp i.generatedAt) evidence := by
  have hnamed := named_poamItems hitems
  have hbuilt : ∀ s ∈ statements, ∃ m, buildControlStatement
      (buildEvidenceArtifacts i.format i.events.length) i.generatedAt m = .ok s := by
    intro s hs
    obtain ⟨m, -, hm⟩ := forall₂_exists_right (mapM_ok.1 hstatements).flip hs
    exact ⟨m, hm⟩
  have hshape : ∀ s ∈ statements, L2.Evidence.StatementShape s := fun s hs =>
    let ⟨_, hm⟩ := hbuilt s hs
    statementShape hat hm
  have hjson : ∀ s ∈ statements, IsJson s := fun s hs =>
    let ⟨_, hm⟩ := hbuilt s hs
    isJson_statement hm
  obtain ⟨evidence, hfinal, hsealed, hid, hhash⟩ :=
    (draft_evidenceDraft (fun item hmem => (hnamed item hmem).2) hshape hstart hend).sealed
      hprint (isJson_evidenceDraft (fun item hmem => (hnamed item hmem).1) hjson)
      namedBoundary_evidenceDraft (sameEvents_evidenceDraft hmappings) (signs_default hsigns)
      (fun h => absurd h Bool.false_ne_true) wallClock
  exact ⟨evidence, hfinal, hsealed, hid, hhash⟩

/-- **A package is finalized** exactly if no control has an inherited name, and there is a
date a month later. -/
theorem exportMetadata_iff (app : EvidenceApp σ ρ) (wallClock : IsoDateTime)
    (hprint : PrintsNumbers E.evidence.host)
    (hsigns : SignsItself E.evidence)
    (hmappings : buildControlMappings controls i.events = .ok mappings)
    (hstart : i.periodStart ≠ "") (hend : i.periodEnd ≠ "") (hat : i.generatedAt ≠ "") :
    ((∃ evidence, app.exportMetadata E wallClock i mappings = .ok evidence) ↔
      NoInherited controls ∧ (addDays E.evidence.host i.generatedAt 30).isOk = true) ∧
    ∀ evidence, app.exportMetadata E wallClock i mappings = .ok evidence →
      Finalized E.evidence ("evidence:" ++ L6.compactTimestamp i.generatedAt) evidence := by
  refine ⟨⟨?_, ?_⟩, ?_⟩
  · rintro ⟨evidence, h⟩
    obtain ⟨items, hitems, h⟩ := bind_ok.1 h
    obtain ⟨statements, hstatements, -⟩ := bind_ok.1 h
    exact ⟨(buildControlStatements_iff hmappings _ _).1 ⟨statements, mapError_ok.1 hstatements⟩,
      buildPoamItems_isOk.1 ⟨items, hitems⟩⟩
  · rintro ⟨hcontrols, hdate⟩
    obtain ⟨items, hitems⟩ := buildPoamItems_isOk.2 hdate
    obtain ⟨statements, hstatements⟩ :=
      (buildControlStatements_iff hmappings i.format i.events.length).2 hcontrols
    obtain ⟨evidence, hevidence, -⟩ := finalized_evidenceDraft app hprint hsigns hmappings hstart
      hend hat hitems hstatements wallClock
    exact ⟨evidence, bind_ok.2 ⟨items, hitems, bind_ok.2 ⟨statements, mapError_ok.2 hstatements,
      hevidence⟩⟩⟩
  · intro evidence h
    obtain ⟨items, hitems, h⟩ := bind_ok.1 h
    obtain ⟨statements, hstatements, h⟩ := bind_ok.1 h
    obtain ⟨evidence', hevidence, hfinalized⟩ := finalized_evidenceDraft app hprint hsigns
      hmappings hstart hend hat hitems (mapError_ok.1 hstatements) wallClock
    obtain rfl := Except.ok.inj (h.symm.trans hevidence)
    exact hfinalized

end

/-! ## Exports -/

section
variable {κ σ ρ : Type} {E : EvidenceEnvironment κ σ ρ} {app : EvidenceApp σ ρ}
  {requestActor : Option CanonicalId} {wallClock : IsoDateTime} {controls : List String}
  {format : EvidenceExportFormat} {options : EvidenceExportOptions}

/-- What a package comes of. -/
structure Exportable (E : EvidenceEnvironment κ σ ρ) (app : EvidenceApp σ ρ)
    (controls : List String) (options : EvidenceExportOptions) : Prop where
  readable : Readable E app options app.now
  controls : NoInherited controls
  dated : (addDays E.evidence.host app.now 30).isOk = true

theorem exportEvidencePackage_unread {message : String}
    (h : app.tick.exportInputs E controls format options app.now = .error message) :
    app.exportEvidencePackage E requestActor wallClock controls format options =
      (app.tick, .error message) := by
  simp only [exportEvidencePackage, h]

theorem exportEvidencePackage_unfinished {i : ExportInputs}
    {mappings : List EvidenceControlMapping} {message : String}
    (h : app.tick.exportInputs E controls format options app.now = .ok (i, mappings))
    (hmetadata : (app.tick.storeGovernance i.governance).exportMetadata E wallClock i mappings =
      .error message) :
    app.exportEvidencePackage E requestActor wallClock controls format options =
      (app.tick.storeGovernance i.governance, .error message) := by
  simp only [exportEvidencePackage, h, hmetadata]

theorem exportEvidencePackage_published {i : ExportInputs}
    {mappings : List EvidenceControlMapping} {evidence : JsonRecord}
    (h : app.tick.exportInputs E controls format options app.now = .ok (i, mappings))
    (hmetadata : (app.tick.storeGovernance i.governance).exportMetadata E wallClock i mappings =
      .ok evidence) :
    app.exportEvidencePackage E requestActor wallClock controls format options =
      (((app.tick.storeGovernance i.governance).publish E requestActor
          ("evidence:" ++ L6.compactTimestamp app.now) evidence).1,
        .ok ((app.tick.storeGovernance i.governance).publish E requestActor
          ("evidence:" ++ L6.compactTimestamp app.now) evidence).2) := by
  simp only [exportEvidencePackage, h, hmetadata]

/-- What an export does: nothing comes of it, and no file is written, or a package is
finalized and published. -/
theorem exportEvidencePackage_cases (requestActor : Option CanonicalId) (wallClock : IsoDateTime)
    (controls : List String) (format : EvidenceExportFormat)
    (hprint : PrintsNumbers E.evidence.host) (hsigns : SignsItself E.evidence)
    (htimed : app.Timed) (hoptions : options.Timed) :
    (¬ Exportable E app controls options ∧ ∃ app' message,
      app.exportEvidencePackage E requestActor wallClock controls format options =
        (app', .error message) ∧ (app' = app.tick ∨
          ∃ records, app' = app.tick.storeGovernance records)) ∨
    (Exportable E app controls options ∧ ∃ records evidence published,
      Finalized E.evidence ("evidence:" ++ L6.compactTimestamp app.now) evidence ∧
      published = (app.tick.storeGovernance records).publish E requestActor
        ("evidence:" ++ L6.compactTimestamp app.now) evidence ∧
      app.exportEvidencePackage E requestActor wallClock controls format options =
        (published.1, .ok published.2)) := by
  cases hinputs : app.tick.exportInputs E controls format options app.now with
  | error message =>
    refine .inl ⟨fun hexport => ?_, _, message, exportEvidencePackage_unread hinputs, .inl rfl⟩
    have hread : ∃ i mappings, app.tick.exportInputs E controls format options app.now =
        .ok (i, mappings) := exportInputs_read hexport.readable hexport.controls
    obtain ⟨i, mappings, hread⟩ := hread
    rw [hread] at hinputs
    cases hinputs
  | ok inputs =>
    obtain ⟨i, mappings⟩ := inputs
    obtain ⟨hreadable, hi⟩ := exportInputs_ok hinputs
    have hat : i.generatedAt ≠ "" := hi.generatedAt ▸ htimed.clock _
    have hstart : i.periodStart ≠ "" := by
      rw [hi.periodStart]
      exact exportStart_ne ⟨htimed.clock, htimed.events⟩ hoptions (htimed.clock _)
    have hend : i.periodEnd ≠ "" := hi.periodEnd ▸ getD_ne hoptions.periodEnd (htimed.clock _)
    obtain ⟨hiff, hfinalized⟩ := exportMetadata_iff (app.tick.storeGovernance i.governance)
      wallClock hprint hsigns hi.mappings hstart hend hat
    rw [hi.generatedAt] at hiff hfinalized
    cases hmetadata : (app.tick.storeGovernance i.governance).exportMetadata E wallClock i
        mappings with
    | error message =>
      refine .inl ⟨fun hexport => ?_, _, message,
        exportEvidencePackage_unfinished hinputs hmetadata, .inr ⟨_, rfl⟩⟩
      obtain ⟨evidence, hevidence⟩ := hiff.2 ⟨hexport.controls, hexport.dated⟩
      rw [hmetadata] at hevidence
      cases hevidence
    | ok evidence =>
      obtain ⟨hcontrols, hdated⟩ := hiff.1 ⟨evidence, hmetadata⟩
      exact .inr ⟨⟨hreadable, hcontrols, hdated⟩, i.governance, evidence, _,
        hfinalized evidence hmetadata, rfl, exportEvidencePackage_published hinputs hmetadata⟩

theorem sealed_publish {exportId : CanonicalId} {evidence : JsonRecord}
    (h : Finalized E.evidence exportId evidence) :
    Sealed (verifierOf E.evidence {}) (app.publish E requestActor exportId evidence).2 := by
  have hreceipt : ∀ receipt, Sealed (verifierOf E.evidence {}) (withReceipt evidence receipt) := by
    intro receipt
    cases receipt with
    | none => exact h.sealed
    | some receipt => exact h.sealed.set (.inr rfl) (isJson_receipt receipt)
  exact hreceipt _

/-- **An export** returns a package exactly if one comes of it, and whatever it returns
passes every check at any time. -/
theorem exportEvidencePackage_verified (requestActor : Option CanonicalId)
    (wallClock : IsoDateTime) (controls : List String) (format : EvidenceExportFormat)
    (hprint : PrintsNumbers E.evidence.host) (hsigns : SignsItself E.evidence)
    (htimed : app.Timed) (hoptions : options.Timed) :
    ((∃ evidence, (app.exportEvidencePackage E requestActor wallClock controls format options).2 =
      .ok evidence) ↔ Exportable E app controls options) ∧
    ∀ evidence, (app.exportEvidencePackage E requestActor wallClock controls format options).2 =
      .ok evidence → ∀ verifiedAt now,
        ReportedVerified (verifierOf E.evidence {}) (.obj evidence) verifiedAt now := by
  rcases exportEvidencePackage_cases requestActor wallClock controls format hprint hsigns htimed
    hoptions with
    ⟨hnot, app', message, hresult, -⟩ |
    ⟨hexport, records, evidence, published, hfinalized, rfl, hresult⟩
  · rw [hresult]
    refine ⟨iff_of_false ?_ hnot, fun evidence h => ?_⟩
    · rintro ⟨evidence, h⟩
      cases h
    · cases h
  · rw [hresult]
    refine ⟨iff_of_true ⟨_, rfl⟩ hexport, fun stored h => ?_⟩
    cases h
    exact (sealed_publish hfinalized).reported

end

/-! ## A runtime with a drift finding -/

/-- No audit repository. -/
def noAuditRepository : AuditRepository Empty where
  appendAuditEvent s := s.elim
  listAuditEvents s := s.elim
  verifyIntegrity s := s.elim

def plainEnvironment {ρ : Type} (packages : EvidencePackageRepository ρ) :
    EvidenceEnvironment Unit Empty ρ where
  evidence := plainModule
  localeCompare := plainCompare
  audit := noAuditRepository
  packages

/-- A runtime that detected a drift finding. -/
def plainApp {ρ : Type} (evidenceRepository : Option ρ) : EvidenceApp Empty ρ where
  auditRecorder := ⟨[]⟩
  storeEvents := []
  auditRepository := none
  hasStateRepository := false
  evidenceRepository
  persistenceDegradations := []
  connectors := .empty
  counts := ⟨1, 1, 1, 0⟩
  driftFindings := OrderedMap.empty.set "drift:plan" (planFinding "drift:plan" "user:alice")
  accessReviewCampaigns := .empty
  governanceFindings := .empty
  exceptionRequests := .empty
  actor := "operator:local"
  clock _ := timestamp
  ticks := 0

/-- The event of the finding. -/
def detected : AuditEventInput where
  eventType := "drift.detected"
  actor := "service:reconciliation"
  subjectId := some "user:alice"
  resourceId := some "document:plan"
  correlationId := "drift:plan"
  payload := [("findingId", .str "drift:plan")]

theorem timed_plain {ρ : Type} (s : Option ρ) : (plainApp s).Timed where
  clock _ := by
    change timestamp ≠ ""
    decide
  events _ h := by cases h

/-- Once the event is recorded, a package comes of it. -/
theorem exportable_plain {ρ : Type} (packages : EvidencePackageRepository ρ) (s : Option ρ) :
    Exportable (plainEnvironment packages)
      ((plainApp s).recordAudit (plainEnvironment packages) none detected).1 ["AC-2"] {} where
  readable := by
    refine ⟨⟨_, rfl⟩, buildAccessReviewGovernance_dated _ ⟨?_, fun d hd => ?_⟩⟩
    · change L8.Dated exactHost timestamp
      decide +kernel
    · obtain rfl : d = planFinding "drift:plan" "user:alice" := List.mem_singleton.1 hd
      change L8.Dated exactHost "2026-01-01T00:00:00.000Z"
      decide +kernel
  controls := by decide
  dated := by
    change (addDays exactHost timestamp 30).isOk = true
    decide +kernel

theorem exported_plain : ∃ evidence,
    (((plainApp none).recordAudit (plainEnvironment ⟨fun s : Empty => s.elim⟩) none
      detected).1.exportEvidencePackage (plainEnvironment ⟨fun s : Empty => s.elim⟩) none timestamp
        ["AC-2"] .json {}).2 = .ok evidence ∧ ∀ verifiedAt now,
      ReportedVerified (verifierOf plainModule {}) (.obj evidence) verifiedAt now := by
  have hoptions : EvidenceExportOptions.Timed {} := ⟨by decide, by decide⟩
  have htimed := (timed_plain (none : Option Empty)).recordAudit
    (E := plainEnvironment ⟨fun s : Empty => s.elim⟩) none detected
  obtain ⟨hiff, hall⟩ := exportEvidencePackage_verified
    (E := plainEnvironment ⟨fun s : Empty => s.elim⟩) none timestamp ["AC-2"] .json
    printsNumbers_exact (fun _ => beq_self_eq_true _) htimed hoptions
  obtain ⟨evidence, hevidence⟩ := hiff.2 (exportable_plain _ none)
  exact ⟨evidence, hevidence, hall evidence hevidence⟩

end EvidenceApp

end AccessKit.L9
