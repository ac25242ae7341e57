import Mathlib.Algebra.Group.Nat.Defs
import AccessKit.L2Audit.ReferenceRuns

/-!
# A reference audit store to try

Results:
* `hexDigests_hex`: the host of the fixtures prints digests in hexadecimal.
* `new_tenant`: the adapter of the fixtures opens on a store that is valid.
-/
namespace AccessKit.L2.Audit.Fixtures
open AccessKit.Core AccessKit.L1 AccessKit.L2.Fixtures ReferenceAuditEvidenceAdapter

/-- The code points of a text, in six hexadecimal digits each. -/
def hexText (s : String) : String :=
  String.ofList (s.toList.flatMap fun c =>
    [5, 4, 3, 2, 1, 0].map fun i => Nat.digitChar (c.toNat / 16 ^ i % 16))

/-- A host with digests in hexadecimal digits. -/
def hexHost : Host := { exactHost with sha256Hex := hexText }

theorem printsNumbers_hex : PrintsNumbers hexHost :=
  ⟨printsNumbers_exact.nonempty, printsNumbers_exact.chars, printsNumbers_exact.inj⟩

theorem hexDigests_hex : HexDigests hexHost := by
  have hdigit : ∀ n < 16, Nat.digitChar n ∈ "0123456789abcdef".toList := by decide
  intro s c hc
  simp only [hexHost, hexText, String.toList_ofList, List.mem_flatMap, List.mem_map] at hc
  obtain ⟨d, -, i, -, rfl⟩ := hc
  exact hdigit _ (Nat.mod_lt _ (by decide))

def keyMaterial : String := "0123456789abcdef0123456789abcdef"

def tenantOptions : ReferenceAuditEvidenceAdapterOptions where
  tenantBoundary := "tenant:a"
  location := "audit"
  signingKeyMaterial := keyMaterial

/-- What stands for the HMAC is the text it is taken of. -/
def plainHmac (_ text : String) : String := text

/-- The adapter of the tenant. -/
def tenantAdapter (H : Host) : ReferenceAuditEvidenceAdapter where
  tenantBoundary := "tenant:a"
  location := "audit"
  retentionPolicy := { policyId := "retention:audit:default", retentionDays := 2555, legalHold := false }
  windowSigner := createHmacAuditWindowSigner H plainHmac "signing-key:audit-window:default" keyMaterial

def emptyStore : ExternalAppendOnlyAuditStore where
  auditRecords := []
  evidenceRecords := []
  signedWindows := []
  siemDeliveries := []
  backupMetadata := []
  backups := OrderedMap.empty

theorem new_tenant {H : Host} {store : ExternalAppendOnlyAuditStore}
    (h : Valid H (tenantAdapter H) store.toAuditSnapshot) :
    ReferenceAuditEvidenceAdapter.new H plainHmac tenantOptions store = .ok (tenantAdapter H) := by
  unfold ReferenceAuditEvidenceAdapter.new
  simp only [guard_ok, seq_ok, validateStoreState_ok, assertNoSecretMaterial_ok, pure, Except.pure]
  refine ⟨by decide, ?_, by decide +kernel, h, rfl⟩
  rw [noSecrets_str]
  decide +kernel

theorem valid_empty (H : Host) : Valid H (tenantAdapter H) emptyStore.toAuditSnapshot :=
  ⟨rfl, rfl, nofun, nofun⟩

end AccessKit.L2.Audit.Fixtures
