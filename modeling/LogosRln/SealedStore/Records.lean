import LogosRln.SealedStore.Store

/-!
# Published records

The reads that take no lock: they see the snapshot of the last published
mutation.
-/

namespace LogosRln.SealedStore

open Lifecycle

/-- Every published record, in hash order. -/
def Store.records (store : Store) : List MembershipRecord :=
  store.snapshot.toList.map Prod.snd

def Store.membership (hash : String) (store : Store) : Option MembershipRecord :=
  store.snapshot[hash]?

/-- The records of one registry. -/
def recordsFor (canonicalRegistry : String) (records : List MembershipRecord) :
    List MembershipRecord :=
  records.filter (·.identity.registryId == canonicalRegistry)

theorem mem_records {store : Store} {record : MembershipRecord} :
    record ∈ store.records ↔ ∃ hash : String, store.snapshot[hash]? = some record := by
  simp only [Store.records, List.mem_map, Prod.exists, exists_eq_right,
    Std.ExtTreeMap.mem_toList_iff_getElem?_eq_some]

theorem mem_recordsFor {canonicalRegistry : String} {records : List MembershipRecord}
    {record : MembershipRecord} :
    record ∈ recordsFor canonicalRegistry records ↔
      record ∈ records ∧ record.identity.registryId = canonicalRegistry := by
  simp [recordsFor]

end LogosRln.SealedStore
