import Std.Data.TreeMap
import BooleanSearch.Text.Basic

/-!
This module contains tables that are looked up by texts. The keys of a table are in the order of their
characters, which is also the order of their UTF-8 forms.
-/

namespace BooleanSearch

abbrev Table (α : Type) := Std.TreeMap Text α compare

namespace Table

def count (counts : Table Nat) (label : Text) : Nat := counts.getD label 0

def increment (counts : Table Nat) (label : Text) : Table Nat :=
  counts.insert label (count counts label + 1)

theorem count_empty (label : Text) : count ∅ label = 0 := by
  simp [count]

theorem count_increment (counts : Table Nat) (label other : Text) :
    count (increment counts label) other =
      count counts other + if label = other then 1 else 0 := by
  simp only [increment, count, Std.TreeMap.getD_insert]
  by_cases h : label = other
  · subst h
    simp
  · simp [h]

end Table

end BooleanSearch
