import Mathlib.Data.List.Basic
import BooleanSearch.Simulated.Files

/-!
This module contains what can be relied on when a path is spelled in several ways: the spellings never
bring different contents. A spelling may be refused all the same, such as that of a file with a separator
behind it.
-/

namespace BooleanSearch

/--
The files as they are at one moment.
-/
abbrev Files := Text → Except IoFailure Bytes

def Files.Consistent (files : Files) : Prop :=
  ∀ path other content content', Path.components path = Path.components other →
    files path = .ok content → files other = .ok content' → content = content'

namespace Path

variable {name : Text} {names : List Text}

theorem getLast?_filter_of_getLast? {p : Text → Bool} (h : names.getLast? = some name)
    (hname : p name = true) : (names.filter p).getLast? = some name := by
  obtain ⟨front, rfl⟩ := List.getLast?_eq_some_iff.mp h
  rw [List.filter_append, List.filter_cons_of_pos hname, List.filter_nil, List.getLast?_concat]

theorem getLast?_components {path : Text}
    (h : (Text.splitOn (· == '/') path).getLast? = some name) (hname : staysHere name = false) :
    (components path).getLast? = some name := by
  unfold components
  split
  next hnil =>
    rw [hnil] at h
    cases h
  next hempty =>
    rw [hempty] at h
    cases h
    cases hname
  next first rest _ hsplit =>
    rw [hsplit] at h
    cases rest with
    | nil => exact h
    | cons next rest =>
      rw [List.getLast?_cons_cons] at h
      have hlast := getLast?_filter_of_getLast? (p := fun name => !staysHere name) h
        (by rw [hname]; rfl)
      rw [List.getLast?_cons, hlast]
      rfl

end Path

namespace Directory

variable {directory : Directory} {node : Node}

theorem getLast?_of_walk {names : List Text} (h : directory.walk names = .ok node) :
    ∃ name, names.getLast? = some name ∧ Path.staysHere name = false ∧
      directory.node? name = some node := by
  induction names with
  | nil => cases h
  | cons name rest ih =>
    rw [walk] at h
    split at h
    next =>
      obtain ⟨last, hlast, hmoves, hnode⟩ := ih h
      refine ⟨last, ?_, hmoves, hnode⟩
      rw [List.getLast?_cons, hlast]
      rfl
    next hmoves =>
      rw [Bool.not_eq_true] at hmoves
      split at h
      next => cases h
      next found hfound =>
        split at h
        next hrest =>
          cases h
          rw [List.isEmpty_iff] at hrest
          subst hrest
          exact ⟨name, rfl, hmoves, hfound⟩
        next => cases h

theorem exists_node_of_read {path : Text} {content : Bytes}
    (h : directory.read path = .ok content) :
    ∃ name node, (Path.components path).getLast? = some name ∧
      directory.node? name = some node ∧ content = node.content := by
  unfold read at h
  split at h
  next => cases h
  next =>
    cases hwalk : directory.walk (Text.splitOn (· == '/') path) with
    | error failure =>
      rw [hwalk] at h
      cases h
    | ok node =>
      rw [hwalk] at h
      obtain ⟨name, hlast, hmoves, hnode⟩ := getLast?_of_walk hwalk
      exact ⟨name, node, Path.getLast?_components hlast hmoves, hnode, (Except.ok.inj h).symm⟩

theorem consistent_read (directory : Directory) : Files.Consistent directory.read := by
  intro path other content content' hcomponents hpath hother
  obtain ⟨name, node, hname, hnode, rfl⟩ := exists_node_of_read hpath
  obtain ⟨name', node', hname', hnode', rfl⟩ := exists_node_of_read hother
  rw [hcomponents, hname', Option.some.injEq] at hname
  rw [hname, hnode, Option.some.injEq] at hnode'
  rw [hnode']

end Directory

end BooleanSearch
