import AccessKit.L2Graph.Records

/-!
# Repositories of a graph

packages/core/src/persistence.ts:131-145: a graph repository takes records one by one, each
under its own id, and exports the four lists. It may refuse a record.

Results:
* `keeps_inMemory`: the repository in memory keeps the copies of what was written.
-/
namespace AccessKit.L2.Store
open AccessKit.Core AccessKit.L1
open GraphRecord (filing)
open InMemoryRebacStore (RebacSeedData)

/-- The four upserts of a repository as one, and the lists that it exports.
mirrors packages/core/src/persistence.ts:131-145 -/
structure RebacGraphRepository (σ : Type) where
  upsert : σ → GraphRecord → σ × Except String Unit
  exportGraph : σ → RebacSeedData

namespace RebacGraphRepository

/-- The repository, as one of records. -/
def toRepository {σ : Type} (repository : RebacGraphRepository σ) : Repository σ GraphRecord where
  write := repository.upsert
  records s := (repository.exportGraph s).records

/-- mirrors packages/core/src/persistence.ts:216-282 -/
def inMemory : RebacGraphRepository InMemoryRebacStore where
  upsert st r := (st.upsert r.copy, .ok ())
  exportGraph st := st.exportSeedData.copy

theorem records_inMemory (st : InMemoryRebacStore) (k : GraphKey) :
    filing.load (inMemory.toRepository.records st) k = (st.find k).map filing.copy := by
  rw [← InMemoryRebacStore.load_export, ← Filing.load_map_copy, ← RebacSeedData.records_copy]
  rfl

theorem keeps_inMemory : filing.Keeps inMemory.toRepository where
  accepted st r _ := by
    funext k
    show filing.load (inMemory.toRepository.records (st.upsert r.copy)) k = _
    rw [records_inMemory, InMemoryRebacStore.find_upsert]
    unfold Filing.put
    show Option.map filing.copy (if filing.key (filing.copy r) = k then some (filing.copy r)
      else _) = _
    split
    · exact congrArg some (filing.copy_copy r)
    · exact (records_inMemory st k).symm
  refused st r message h := by cases h

end RebacGraphRepository

end AccessKit.L2.Store
