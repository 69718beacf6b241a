import Mathlib.Data.List.Basic
import Mathlib.Data.List.Induction
import BooleanSearch.Text.Basic

/-!
This module contains the theorems on the distinct texts of a list. Which texts remain when a function
is applied to all of them does not depend on whether repetitions were left out before.
-/

namespace BooleanSearch.Text

theorem distinct_concat (texts : List Text) (text : Text) :
    distinct (texts ++ [text]) = addDistinct (distinct texts) text := by
  unfold distinct
  rw [List.foldl_append]
  rfl

theorem idxOf_addDistinct {texts : List Text} {text other : Text} (h : other ∈ texts) :
    (addDistinct texts text).idxOf other = texts.idxOf other := by
  unfold addDistinct
  split
  next => rfl
  next => exact List.idxOf_append_of_mem h

theorem idxOf_addDistinct_self {texts : List Text} {text : Text} (h : text ∉ texts) :
    (addDistinct texts text).idxOf text = texts.length := by
  rw [addDistinct, if_neg h, List.idxOf_append_of_notMem h, List.idxOf_cons_self, Nat.add_zero]

theorem length_addDistinct {texts : List Text} {text : Text} (h : text ∉ texts) :
    (addDistinct texts text).length = texts.length + 1 := by
  rw [addDistinct, if_neg h, List.length_append, List.length_singleton]

theorem mem_addDistinct_iff {texts : List Text} {text other : Text} :
    other ∈ addDistinct texts text ↔ other ∈ texts ∨ other = text := by
  unfold addDistinct
  split <;> grind

theorem mem_distinct {texts : List Text} {text : Text} : text ∈ distinct texts ↔ text ∈ texts := by
  induction texts using List.reverseRecOn with
  | nil => exact Iff.rfl
  | append_singleton texts last ih =>
    rw [distinct_concat, mem_addDistinct_iff, ih, List.mem_append, List.mem_singleton]

theorem nodup_distinct (texts : List Text) : (distinct texts).Nodup := by
  induction texts using List.reverseRecOn with
  | nil => exact List.nodup_nil
  | append_singleton texts last ih =>
    rw [distinct_concat, addDistinct]
    split
    next => exact ih
    next hnew =>
      refine List.nodup_append.mpr ⟨ih, List.pairwise_singleton _ last, ?_⟩
      rintro text hmem other hother rfl
      exact hnew (List.mem_singleton.mp hother ▸ hmem)

theorem distinct_map_distinct (f : Text → Text) (texts : List Text) :
    distinct ((distinct texts).map f) = distinct (texts.map f) := by
  induction texts using List.reverseRecOn with
  | nil => rfl
  | append_singleton texts last ih =>
    rw [List.map_append, List.map_singleton, distinct_concat, distinct_concat, ← ih]
    by_cases hmem : last ∈ distinct texts
    · have himage : f last ∈ distinct ((distinct texts).map f) :=
        mem_distinct.mpr (List.mem_map_of_mem hmem)
      rw [addDistinct, if_pos hmem, addDistinct, if_pos himage]
    · have hnew : addDistinct (distinct texts) last = distinct texts ++ [last] := if_neg hmem
      rw [hnew, List.map_append, List.map_singleton, distinct_concat]

theorem eraseDups_map_idxOf (texts : List Text) :
    (texts.map fun text => (distinct texts).idxOf text + 1).eraseDups =
      List.range' 1 (distinct texts).length := by
  induction texts using List.reverseRecOn with
  | nil => rfl
  | append_singleton texts last ih =>
    have hkept : (texts.map fun text => (addDistinct (distinct texts) last).idxOf text + 1) =
        texts.map fun text => (distinct texts).idxOf text + 1 := by
      apply List.map_congr_left
      intro text hmem
      rw [idxOf_addDistinct (mem_distinct.mpr hmem)]
    rw [distinct_concat, List.map_append, List.map_singleton, hkept, List.eraseDups_append, ih,
      List.cons_removeAll]
    -- A text that is new brings a new rank, the next one; any other brings none.
    by_cases hmem : last ∈ distinct texts
    · have hrank : (texts.map fun text => (distinct texts).idxOf text + 1).contains
          ((distinct texts).idxOf last + 1) = true := by
        rw [List.contains_iff_mem]
        exact List.mem_map_of_mem (f := fun text => (distinct texts).idxOf text + 1)
          (mem_distinct.mp hmem)
      rw [addDistinct, if_pos hmem, hrank]
      simp
    · have hrank : (texts.map fun text => (distinct texts).idxOf text + 1).contains
          ((distinct texts).length + 1) = false := by
        rw [← Bool.not_eq_true, List.contains_iff_mem, List.mem_map]
        rintro ⟨text, hmem, hidx⟩
        have hlt := List.idxOf_lt_length_of_mem (mem_distinct.mpr hmem)
        omega
      rw [idxOf_addDistinct_self hmem, length_addDistinct hmem, if_pos hrank, List.range'_1_concat,
        Nat.add_comm 1]
      rfl

end BooleanSearch.Text
