import AccessKit.L7Persistence.EvidenceFiles

/-!
# Evidence packages that share a file

Status: open.

packages/core/src/repositories.ts:246-276 keeps each evidence package in a file that is named
after its identifier, with every code unit but letters, digits, underscores and hyphens
replaced by an underscore (`sanitizeFileSegment`, 864-866). Packages whose identifiers differ
in such a unit share a file: the later one overwrites the other, and is what reading under
either identifier returns. Identifiers have colons in them everywhere else; the reference
repository files packages under the identifier itself.

Counterexample (`evidence_overwritten`): after the packages `export:q1` and `export_q1` are
written, reading `export:q1` returns the package `export_q1`.

Exact condition (`returnsLast_iff`): of the packages written to the file of an identifier, the
last has that identifier.
-/
namespace AccessKit.Bugs.SharedFiles
open AccessKit.Core AccessKit.L1 AccessKit.L2.Audit AccessKit.L7
open AccessKit.L7.LocalFileEvidenceRepository
open AccessKit.L2.Fixtures AccessKit.L2.Audit.Fixtures

/-- Reading an identifier after some writes gives the package that was last written under it,
with its receipt, and nothing when there is none. -/
def ReturnsLast (H : Host) (readNumber : String → Option Rat) (writes : List EvidenceWrite)
    (exportId : CanonicalId) : Prop :=
  match lastWrite (fun w => w.evidence.exportId = exportId) writes with
  | none => readEvidenceExport readNumber (writeAll H writes) exportId = .ok none
  | some write => ∃ v, readEvidenceExport readNumber (writeAll H writes) exportId = .ok (some v) ∧
      SameJson (.obj (storedEvidence write)) v

/-- The last package that was written to the file of an identifier has the identifier. -/
def LastIsItsOwn (writes : List EvidenceWrite) (exportId : CanonicalId) : Prop :=
  ∀ write, lastWrite (fun w => sanitizeFileSegment w.evidence.exportId =
    sanitizeFileSegment exportId) writes = some write → write.evidence.exportId = exportId

section
variable {H : Host} {readNumber : String → Option Rat}

theorem exportId_storedEvidence {write write' : EvidenceWrite} {v : JsValue}
    (h : SameJson (.obj (storedEvidence write)) v) (h' : SameJson (.obj (storedEvidence write')) v) :
    write.evidence.exportId = write'.evidence.exportId := by
  have hget : ∀ w : EvidenceWrite,
      JsonRecord.get (storedEvidence w) "exportId" = .str w.evidence.exportId := fun w => by
    rw [storedEvidence, JsonRecord.get_set, if_neg (by decide), w.evidence.exportId_eq]
  cases h.trans h'.symm with
  | obj hfields =>
    have hid := hfields "exportId"
    rw [hget, hget] at hid
    exact sameJson_str hid

/-- The first item that satisfies a test is the first to satisfy a stronger one, if it does. -/
theorem find?_of_stronger {α : Type} {p q : α → Bool} {l : List α} {a : α}
    (h : l.find? q = some a) (ha : p a = true) (himp : ∀ x, p x = true → q x = true) :
    l.find? p = some a := by
  obtain ⟨-, before, after, rfl, hbefore⟩ := List.find?_eq_some_iff_append.1 h
  refine List.find?_eq_some_iff_append.2 ⟨ha, before, after, rfl, fun x hx => ?_⟩
  have hq := hbefore x hx
  cases hp : p x with
  | false => rfl
  | true => simp [himp x hp] at hq

theorem lastWrite_file (writes : List EvidenceWrite) (exportId : CanonicalId) :
    lastWrite (fun w => fileName w.evidence.exportId = fileName exportId) writes =
      lastWrite (fun w => sanitizeFileSegment w.evidence.exportId =
        sanitizeFileSegment exportId) writes := by
  congr 1
  funext w
  simp [fileName]

theorem own_of_returnsLast (hp : PrintsNumbers H) (hr : ReadsNumbers H readNumber)
    {writes : List EvidenceWrite} {exportId : CanonicalId}
    (h : ReturnsLast H readNumber writes exportId) : LastIsItsOwn writes exportId := by
  intro write hwrite
  have hread := readEvidenceExport_written hp hr writes exportId
  rw [lastWrite_file, hwrite] at hread
  obtain ⟨v, hv, hsame⟩ := hread
  unfold ReturnsLast at h
  cases hown : lastWrite (fun w => w.evidence.exportId = exportId) writes with
  | none =>
    rw [hown, hv] at h
    cases h
  | some own =>
    rw [hown] at h
    obtain ⟨v', hv', hsame'⟩ := h
    rw [hv] at hv'
    cases hv'
    have hid : own.evidence.exportId = exportId := by simpa using List.find?_some hown
    rw [exportId_storedEvidence hsame hsame', hid]

theorem returnsLast_of_own (hp : PrintsNumbers H) (hr : ReadsNumbers H readNumber)
    {writes : List EvidenceWrite} {exportId : CanonicalId} (h : LastIsItsOwn writes exportId) :
    ReturnsLast H readNumber writes exportId := by
  have hfile : ∀ w : EvidenceWrite, w.evidence.exportId = exportId →
      sanitizeFileSegment w.evidence.exportId = sanitizeFileSegment exportId := fun w he => by
    rw [he]
  have hread := readEvidenceExport_written hp hr writes exportId
  rw [lastWrite_file] at hread
  unfold ReturnsLast
  cases hlast : lastWrite (fun w => sanitizeFileSegment w.evidence.exportId =
      sanitizeFileSegment exportId) writes with
  | none =>
    -- nothing was written to the file, so nothing under the identifier
    have hnone : lastWrite (fun w => w.evidence.exportId = exportId) writes = none := by
      unfold lastWrite at hlast ⊢
      rw [List.find?_eq_none] at hlast ⊢
      exact fun w hw he => hlast w hw (by simpa using hfile w (of_decide_eq_true he))
    rw [hlast] at hread
    rw [hnone]
    exact hread
  | some last =>
    have hown : lastWrite (fun w => w.evidence.exportId = exportId) writes = some last :=
      find?_of_stronger hlast (by simpa using h last hlast) fun w hw => by
        simpa using hfile w (of_decide_eq_true hw)
    rw [hlast] at hread
    rw [hown]
    exact hread

/-- **Exactly** when the last package of the file is the identifier's own, reading returns the
package that was last written under it. -/
theorem returnsLast_iff (hp : PrintsNumbers H) (hr : ReadsNumbers H readNumber)
    (writes : List EvidenceWrite) (exportId : CanonicalId) :
    ReturnsLast H readNumber writes exportId ↔ LastIsItsOwn writes exportId :=
  ⟨own_of_returnsLast hp hr, returnsLast_of_own hp hr⟩

end

/-! ## Two packages of one quarter -/

/-- A package with nothing but what the repository reads. -/
def package (exportId : CanonicalId) : EvidenceExport where
  content := [("exportId", .str exportId),
    ("integrityManifest", .obj [("packageHash", .str "sha256:package")])]
  exportId := exportId
  packageHash := "sha256:package"
  json := by
    have hkeys : ["exportId", "integrityManifest"].Nodup := by decide
    refine .obj hkeys fun p hp _ => ?_
    simp only [List.mem_cons, List.not_mem_nil, or_false] at hp
    rcases hp with rfl | rfl
    · exact .str _
    · refine .obj (List.nodup_singleton _) fun q hq _ => ?_
      rw [List.mem_singleton.1 hq]
      exact .str _
  exportId_eq := rfl
  packageHash_eq := rfl

def quarter : List EvidenceWrite :=
  [⟨package "export:q1", timestamp⟩, ⟨package "export_q1", later⟩]

/-- **The second package overwrites the first**: reading the first gives the second. -/
theorem evidence_overwritten : ¬ ReturnsLast exactHost scanNumber quarter "export:q1" := by
  intro h
  have hlast := List.find?_cons_of_pos (l := [(⟨package "export:q1", timestamp⟩ : EvidenceWrite)])
    (a := ⟨package "export_q1", later⟩) (p := fun w => sanitizeFileSegment w.evidence.exportId =
      sanitizeFileSegment "export:q1") (by decide +kernel)
  exact absurd (own_of_returnsLast printsNumbers_exact readsNumbers_exact h _ hlast)
    (show "export_q1" ≠ "export:q1" by decide)

theorem returnsLast_iff_quarter :
    ReturnsLast exactHost scanNumber quarter "export_q1" ↔ LastIsItsOwn quarter "export_q1" :=
  returnsLast_iff printsNumbers_exact readsNumbers_exact quarter "export_q1"

end AccessKit.Bugs.SharedFiles
