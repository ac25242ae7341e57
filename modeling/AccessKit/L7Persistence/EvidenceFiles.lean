import AccessKit.Core.OrderedMap
import AccessKit.L2Audit.ReferenceStore
import AccessKit.L2Audit.Texts

/-!
# Evidence packages in files

packages/core/src/repositories.ts:246-276 and 864-866: `LocalFileEvidenceRepository` keeps each
package in a file of its directory. The name of the file is the identifier with every code unit
that is no letter, digit, underscore or hyphen of ASCII replaced by an underscore, so that
different identifiers may share a file.

Results:
* `readEvidenceExport_written`: what is read is what was last written to the file.
-/
namespace AccessKit.L7
open AccessKit.Core AccessKit.L1 AccessKit.L2.Audit

/-- A package: a JSON object with an identifier and the hash of its manifest.
mirrors packages/core/src/domain/evidence.ts:373-403 -/
structure EvidenceExport where
  content : JsonRecord
  exportId : CanonicalId
  packageHash : String
  json : IsJson (.obj content)
  exportId_eq : JsonRecord.get content "exportId" = .str exportId
  packageHash_eq :
    JsValue.prop (JsonRecord.get content "integrityManifest") "packageHash" = .str packageHash

/-- A unit of `[a-z0-9_-]`, in either case. -/
def isSegmentUnit (u : Nat) : Bool :=
  (97 ≤ u ∧ u ≤ 122) ∨ (65 ≤ u ∧ u ≤ 90) ∨ (48 ≤ u ∧ u ≤ 57) ∨ u = 95 ∨ u = 45

/-- mirrors packages/core/src/repositories.ts:864-866 -/
def sanitizeFileSegment (value : String) : String :=
  String.ofList ((utf16 value).map fun u => if isSegmentUnit u then Char.ofNat u else '_')

/-- What is written in one call. -/
structure EvidenceWrite where
  evidence : EvidenceExport
  storedAt : IsoDateTime

/-- The files of the directory, by name. -/
abbrev EvidenceFiles := OrderedMap String String

namespace LocalFileEvidenceRepository

def fileName (exportId : CanonicalId) : String := sanitizeFileSegment exportId ++ ".json"

/-- mirrors packages/core/src/repositories.ts:250-258 -/
def receipt (write : EvidenceWrite) : EvidenceStorageReceipt where
  exportId := write.evidence.exportId
  packageHash := write.evidence.packageHash
  storedAt := write.storedAt
  backend := "local_file"
  location := "evidence-packages/" ++ fileName write.evidence.exportId
  immutable := false
  version := "evidence-storage-receipt:v1"

/-- The package with its receipt.
mirrors packages/core/src/repositories.ts:259-262 -/
def storedEvidence (write : EvidenceWrite) : JsonRecord :=
  JsonRecord.set "storageReceipt" (receipt write).toJs write.evidence.content

section
variable (H : Host) (readNumber : String → Option Rat)

/-- mirrors packages/core/src/repositories.ts:264 -/
def fileText (write : EvidenceWrite) : String :=
  (stableStringify H (.obj (storedEvidence write))).getD "" ++ "\n"

/-- mirrors packages/core/src/repositories.ts:246-266 -/
def writeEvidenceExport (files : EvidenceFiles) (write : EvidenceWrite) :
    EvidenceStorageReceipt × EvidenceFiles :=
  (receipt write, files.set (fileName write.evidence.exportId) (fileText H write))

/-- `none` is `undefined`: there is no file. A file that is no JSON is refused.
mirrors packages/core/src/repositories.ts:268-276 -/
def readEvidenceExport (files : EvidenceFiles) (exportId : CanonicalId) :
    Except String (Option JsValue) :=
  match files.get? (fileName exportId) with
  | none => .ok none
  | some text =>
    match jsonParse readNumber text with
    | none => .error "SyntaxError"
    | some evidence => .ok (some evidence)

/-- The files after writes to an empty directory. -/
def writeAll (writes : List EvidenceWrite) : EvidenceFiles :=
  writes.foldl (fun files write => (writeEvidenceExport H files write).2) .empty

end

/-! ## What a file holds -/

/-- The last write that satisfies a test. -/
def lastWrite (p : EvidenceWrite → Bool) (writes : List EvidenceWrite) : Option EvidenceWrite :=
  writes.reverse.find? p

section
variable {H : Host} {readNumber : String → Option Rat}

theorem get?_writeAll (writes : List EvidenceWrite) (name : String) :
    (writeAll H writes).get? name =
      (lastWrite (fun w => fileName w.evidence.exportId = name) writes).map (fileText H) := by
  unfold writeAll lastWrite
  induction writes using List.reverseRecOn with
  | nil => rfl
  | append_singleton writes write ih =>
    rw [List.foldl_append, List.foldl_cons, List.foldl_nil, List.reverse_append,
      List.reverse_singleton, List.singleton_append, writeEvidenceExport, OrderedMap.get?_set]
    by_cases h : fileName write.evidence.exportId = name
    · rw [if_pos h, List.find?_cons_of_pos (by simpa using h), Option.map_some]
    · rw [if_neg h, List.find?_cons_of_neg (by simpa using h), ih]

theorem isJson_receipt (r : EvidenceStorageReceipt) : IsJson r.toJs := by
  have hkeys : ["exportId", "packageHash", "storedAt", "backend", "location", "immutable",
      "version"].Nodup := by decide
  refine .obj hkeys fun p hp _ => ?_
  simp only [List.mem_cons, List.not_mem_nil, or_false] at hp
  rcases hp with rfl | rfl | rfl | rfl | rfl | rfl | rfl <;> constructor

theorem isJson_storedEvidence (write : EvidenceWrite) : IsJson (.obj (storedEvidence write)) :=
  isJson_set write.evidence.json (isJson_receipt _)

/-- **What is read** is what was last written to the file. -/
theorem readEvidenceExport_written (hp : PrintsNumbers H) (hr : ReadsNumbers H readNumber)
    (writes : List EvidenceWrite) (exportId : CanonicalId) :
    match lastWrite (fun w => fileName w.evidence.exportId = fileName exportId) writes with
    | none => readEvidenceExport readNumber (writeAll H writes) exportId = .ok none
    | some write => ∃ v, readEvidenceExport readNumber (writeAll H writes) exportId = .ok (some v) ∧
        SameJson (.obj (storedEvidence write)) v := by
  unfold readEvidenceExport
  rw [get?_writeAll]
  cases lastWrite (fun w => fileName w.evidence.exportId = fileName exportId) writes with
  | none => rfl
  | some write =>
    obtain ⟨s, v, hs, hv, hsame⟩ := parse_stableStringify hp hr
      (isJson_storedEvidence write) "\n" (List.all_eq_true.1 (by decide))
    refine ⟨v, ?_, hsame⟩
    simp only [Option.map_some, fileText, hs, Option.getD_some, hv]

end

end LocalFileEvidenceRepository

end AccessKit.L7
