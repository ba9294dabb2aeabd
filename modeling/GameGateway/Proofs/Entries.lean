import GameGateway.Table
import Mathlib.Data.Finset.Card
import Mathlib.Data.Finset.Dedup
import Mathlib.Data.Finset.Lattice.Lemmas

/-!
# Entries of tables and logs

The number of entries of a table is the number of its keys, as a finite set.  Each
operation changes that number as it changes the set of keys.

A log has its newest entry first.  Whether something was noted can be asked of the log
without that entry, if the entry is about something else.
-/

namespace GameGateway

theorem mem_cons_iff_of_other {α : Type} {p : α → Prop} {told newest : α} {past : List α}
    (hother : ¬ p newest) (htold : p told) : told ∈ newest :: past ↔ told ∈ past := by
  have hne : told ≠ newest := fun hsame => hother (hsame ▸ htold)
  exact List.mem_cons.trans (or_iff_right hne)

namespace Table

variable {κ α : Type} [DecidableEq κ]

/-- The keys of a table, as a finite set. -/
def keySet (t : Table κ α) : Finset κ := t.keys.toFinset

theorem mem_keySet {t : Table κ α} {key : κ} :
    key ∈ t.keySet ↔ ∃ value, t.get? key = some value := by
  rw [keySet, List.mem_toFinset, mem_keys_iff, Option.isSome_iff_exists]

theorem card_keySet (t : Table κ α) : t.keySet.card = t.size := by
  have hnodup : t.keys.Nodup := t.nodup_keys
  rw [keySet, List.toFinset_card_of_nodup hnodup, keys, List.length_map, size]

theorem keySet_erase (t : Table κ α) (key : κ) : (t.erase key).keySet = t.keySet.erase key := by
  ext k
  by_cases h : k = key <;> simp [mem_keySet, h]

theorem keySet_insert (t : Table κ α) (key : κ) (value : α) :
    (t.insert key value).keySet = Insert.insert key t.keySet := by
  ext k
  by_cases h : k = key <;> simp [mem_keySet, h]

theorem size_erase {t : Table κ α} {key : κ} {value : α} (h : t.get? key = some value) :
    (t.erase key).size = t.size - 1 := by
  rw [← card_keySet, keySet_erase, Finset.card_erase_of_mem (mem_keySet.mpr ⟨value, h⟩),
    card_keySet]

omit [DecidableEq κ] in
theorem size_eq_zero_iff {t : Table κ α} : t.size = 0 ↔ t.entries = [] := by
  rw [size, List.length_eq_zero_iff]

end Table

end GameGateway
