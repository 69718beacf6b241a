import Mathlib.Algebra.BigOperators.Group.List.Lemmas
import Mathlib.Algebra.GroupWithZero.Nat
import Mathlib.Data.List.Induction
import BooleanSearch.Table

/-!
This module contains tables of counts that are kept one label at a time. What is counted under a label
is how often it came, and all counts together are the number of labels.
-/

namespace BooleanSearch.Table

def tally (labels : List Text) : Table Nat := labels.foldl increment ∅

def total (counts : Table Nat) : Nat := (counts.toList.map Prod.snd).sum

theorem tally_concat (labels : List Text) (label : Text) :
    tally (labels ++ [label]) = (tally labels).increment label := by
  unfold tally
  rw [List.foldl_append]
  rfl

theorem count_tally (labels : List Text) (label : Text) :
    (tally labels).count label = labels.count label := by
  induction labels using List.reverseRecOn with
  | nil => exact count_empty label
  | append_singleton labels last ih =>
    rw [tally_concat, count_increment, ih, List.count_append, List.count_singleton]
    simp

theorem mem_tally {labels : List Text} {label : Text} : label ∈ tally labels ↔ label ∈ labels := by
  induction labels using List.reverseRecOn with
  | nil => simp [tally]
  | append_singleton labels last ih =>
    rw [tally_concat, increment, Std.TreeMap.mem_insert, ih, Std.compare_eq_iff_eq]
    simp [or_comm, eq_comm]

theorem total_eq_sum_keys (counts : Table Nat) : counts.total = (counts.keys.map counts.count).sum := by
  unfold total
  rw [← Std.TreeMap.map_fst_toList_eq_keys, List.map_map]
  congr 1
  apply List.map_congr_left
  rintro ⟨label, n⟩ hmem
  rw [Std.TreeMap.mem_toList_iff_getElem?_eq_some] at hmem
  simp [count, Std.TreeMap.getD_eq_getD_getElem?, hmem]

theorem total_tally (labels : List Text) : (tally labels).total = labels.length := by
  have hkeys : (tally labels).keys.Perm labels.dedup := by
    rw [List.perm_ext_iff_of_nodup Std.TreeMap.nodup_keys labels.nodup_dedup]
    intro label
    rw [Std.TreeMap.mem_keys, mem_tally, List.mem_dedup]
  rw [total_eq_sum_keys, (hkeys.map _).sum_eq, ← List.sum_map_count_dedup_eq_length labels]
  congr 1
  apply List.map_congr_left
  intro label _
  rw [count_tally]
  exact List.countP_congr (by simp)

end BooleanSearch.Table
