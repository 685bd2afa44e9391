import Mathlib.Data.Finset.Card
import Mathlib.Data.List.Perm.Subperm

/-!
# Key sets of ordered maps

A loop over an ordered map that collects the keys of some entries is determined
by the map's lookups.  The standard library supplies the maps and their lookup
laws; this file adds the collected key sets and sizes read off the keys.
-/

namespace LogosRln.OrderedMap

variable {K V : Type*} [Ord K] [Std.TransOrd K]

theorem mem_iff_exists [Std.LawfulEqOrd K] {entries : Std.ExtTreeMap K V} {key : K} :
    key ∈ entries ↔ ∃ value, entries[key]? = some value := by
  rw [← Std.ExtTreeMap.isSome_getElem?_iff_mem, Option.isSome_iff_exists]

/-- A map with one entry. -/
theorem toList_eq_singleton [Std.LawfulEqOrd K] {entries : Std.ExtTreeMap K V} {key : K} {value : V}
    (hsize : entries.size = 1) (hentry : entries[key]? = some value) :
    entries.toList = [(key, value)] := by
  have hmember := Std.ExtTreeMap.mem_toList_iff_getElem?_eq_some.mpr hentry
  have hlength : entries.toList.length = 1 := by simpa using hsize
  obtain ⟨other, hother⟩ := List.length_eq_one_iff.mp hlength
  rw [hother, List.mem_singleton] at hmember
  rw [hother, hmember]

/-- Fewer keys, fewer entries. -/
theorem size_le_of_forall_mem [Std.LawfulEqOrd K] {W : Type*} {left : Std.ExtTreeMap K V}
    {right : Std.ExtTreeMap K W} (hkeys : ∀ key, key ∈ left → key ∈ right) :
    left.size ≤ right.size := by
  have hsubset : left.keys ⊆ right.keys := by
    intro key hkey
    exact Std.ExtTreeMap.mem_keys.mpr (hkeys key (Std.ExtTreeMap.mem_keys.mp hkey))
  simpa using (left.nodup_keys.subperm hsubset).length_le

variable [Std.LawfulEqOrd K] [DecidableEq K]

/-- The keys whose entry passes the test. -/
def keysWhere (entries : Std.ExtTreeMap K V) (test : K → V → Bool) : Finset K :=
  ((entries.toList.filter fun entry => test entry.1 entry.2).map Prod.fst).toFinset

@[simp]
theorem mem_keysWhere {entries : Std.ExtTreeMap K V} {test : K → V → Bool} {key : K} :
    key ∈ keysWhere entries test ↔ ∃ value, entries[key]? = some value ∧ test key value := by
  simp only [keysWhere, List.mem_toFinset, List.mem_map, List.mem_filter, Prod.exists,
    exists_and_right, exists_eq_right, Std.ExtTreeMap.mem_toList_iff_getElem?_eq_some]

/-- All keys. -/
def keySet (entries : Std.ExtTreeMap K V) : Finset K :=
  keysWhere entries fun _ _ => true

@[simp]
theorem mem_keySet {entries : Std.ExtTreeMap K V} {key : K} :
    key ∈ keySet entries ↔ key ∈ entries := by
  simp [keySet, mem_iff_exists]

/-- Without some of its keys a map has as many fewer entries. -/
theorem length_filter_notMem {entries : Std.ExtTreeMap K V} {excluded : Finset K}
    (hmembers : ∀ key ∈ excluded, key ∈ entries) :
    (entries.toList.filter fun entry => entry.1 ∉ excluded).length =
      entries.size - excluded.card := by
  have hkeys : entries.toList.map Prod.fst = entries.keys := Std.ExtTreeMap.map_fst_toList_eq_keys
  have hinside : (entries.keys.filter fun key => key ∈ excluded).length = excluded.card := by
    rw [← List.toFinset_card_of_nodup (entries.nodup_keys.filter _)]
    congr 1
    ext key
    simpa [Std.ExtTreeMap.mem_keys] using hmembers key
  have hsplit := @List.length_eq_length_filter_add _ entries.keys fun key => key ∈ excluded
  have houtside : (entries.toList.filter fun entry => entry.1 ∉ excluded).length =
      (entries.keys.filter fun key => !decide (key ∈ excluded)).length := by
    rw [← hkeys, List.filter_map, List.length_map]
    simp only [Function.comp_def, decide_not]
  have hsize : entries.keys.length = entries.size := Std.ExtTreeMap.length_keys
  omega

end LogosRln.OrderedMap
