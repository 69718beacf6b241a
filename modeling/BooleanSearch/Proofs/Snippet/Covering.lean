import Mathlib.Data.List.Pairwise
import Mathlib.Data.List.Perm.Subperm
import BooleanSearch.Snippet.Window

/-!
This module contains the theorem that the shortest window of a scanned text shows every normal
form that was found: an occurrence of each rank lies between its ends.
-/

namespace BooleanSearch

namespace Window

def Shows (window : Window) (occurrences : List Occurrence) (rank : Nat) : Prop :=
  ∃ occurrence ∈ occurrences, occurrence.rank = rank ∧
    window.start ≤ occurrence.position ∧ occurrence.position ≤ window.stop

theorem sweep_cons (ranks : Nat) (occurrence : Occurrence) (rest : List Occurrence) :
    sweep ranks (occurrence :: rest) =
      (meet occurrence (sweep ranks rest).1,
        match (meet occurrence (sweep ranks rest).1)[ranks - 1]? with
        | some last => ⟨occurrence.position, last.position⟩ :: (sweep ranks rest).2
        | none => (sweep ranks rest).2) := by
  cases h : (meet occurrence (sweep ranks rest).1)[ranks - 1]? <;> simp [sweep, h]

theorem sublist_sweep (ranks : Nat) (occurrences : List Occurrence) :
    (sweep ranks occurrences).1.Sublist occurrences := by
  induction occurrences with
  | nil => exact List.Sublist.refl _
  | cons occurrence rest ih =>
    rw [sweep_cons]
    exact (List.filter_sublist.trans ih).cons_cons occurrence

theorem nodup_sweep (ranks : Nat) (occurrences : List Occurrence) :
    ((sweep ranks occurrences).1.map Occurrence.rank).Nodup := by
  induction occurrences with
  | nil => exact List.nodup_nil
  | cons occurrence rest ih =>
    rw [sweep_cons]
    simp only [meet, List.map_cons, List.nodup_cons]
    constructor
    · simp
    · exact (List.filter_sublist.map Occurrence.rank).nodup ih

theorem exists_of_mem_sweep {ranks : Nat} {occurrences : List Occurrence} {window : Window}
    (h : window ∈ (sweep ranks occurrences).2) :
    ∃ first behind last, (first :: behind) <:+ occurrences ∧
      (sweep ranks (first :: behind)).1[ranks - 1]? = some last ∧
      window = ⟨first.position, last.position⟩ := by
  induction occurrences with
  | nil => cases h
  | cons occurrence rest ih =>
    have hrest (h : window ∈ (sweep ranks rest).2) :
        ∃ first behind last, (first :: behind) <:+ (occurrence :: rest) ∧
          (sweep ranks (first :: behind)).1[ranks - 1]? = some last ∧
          window = ⟨first.position, last.position⟩ := by
      obtain ⟨first, behind, last, hsuffix, hlast, hwindow⟩ := ih h
      exact ⟨first, behind, last, hsuffix.trans (List.suffix_cons occurrence rest), hlast, hwindow⟩
    rw [sweep_cons] at h
    dsimp only at h
    split at h
    next last hlast =>
      rw [List.mem_cons] at h
      cases h with
      | inl hwindow =>
        refine ⟨occurrence, rest, last, List.suffix_rfl, ?_, hwindow⟩
        rw [sweep_cons]
        exact hlast
      | inr h => exact hrest h
    next => exact hrest h

variable {ranks rank : Nat} {occurrences : List Occurrence} {window : Window}

theorem mem_of_getElem?_last {met : List Occurrence} {last : Occurrence}
    (hnodup : (met.map Occurrence.rank).Nodup)
    (hranks : ∀ occurrence ∈ met, occurrence.rank ∈ List.range' 1 ranks)
    (hlast : met[ranks - 1]? = some last) (hrank : rank ∈ List.range' 1 ranks) :
    met.length = ranks ∧ rank ∈ met.map Occurrence.rank := by
  have hsubset : met.map Occurrence.rank ⊆ List.range' 1 ranks := by
    simpa [List.subset_def] using hranks
  have hsubperm := hnodup.subperm hsubset
  have hle := hsubperm.length_le
  have hlt := (List.getElem?_eq_some_iff.mp hlast).choose
  have hpos := List.length_pos_of_mem hrank
  simp only [List.length_map, List.length_range'] at hle hpos
  have hperm := hsubperm.perm_of_length_le (by simp; omega)
  exact ⟨by omega, hperm.mem_iff.mpr hrank⟩

theorem shows_of_mem_sweep (hsorted : occurrences.Pairwise (·.position ≤ ·.position))
    (hranks : ∀ occurrence ∈ occurrences, occurrence.rank ∈ List.range' 1 ranks)
    (hrank : rank ∈ List.range' 1 ranks) (h : window ∈ (sweep ranks occurrences).2) :
    window.Shows occurrences rank := by
  obtain ⟨first, behind, last, hsuffix, hlast, rfl⟩ := exists_of_mem_sweep h
  have hmet := sublist_sweep ranks (first :: behind)
  have hnodup := nodup_sweep ranks (first :: behind)
  generalize (sweep ranks (first :: behind)).1 = met at hlast hmet hnodup
  have hsublist := hmet.trans hsuffix.sublist
  obtain ⟨hlength, hmem⟩ := mem_of_getElem?_last hnodup
    (fun occurrence hmem => hranks occurrence (hsublist.subset hmem)) hlast hrank
  obtain ⟨occurrence, hmem, hoccurrence⟩ := List.mem_map.mp hmem
  refine ⟨occurrence, hsublist.subset hmem, hoccurrence, ?_, ?_⟩
  · have hsorted := hsorted.sublist hsuffix.sublist
    cases List.mem_cons.mp (hmet.subset hmem) with
    | inl h => exact Nat.le_of_eq (congrArg Occurrence.position h.symm)
    | inr h => exact List.rel_of_pairwise_cons hsorted h
  · have hsorted := hsorted.sublist hsublist
    obtain ⟨hlt, rfl⟩ := List.getElem?_eq_some_iff.mp hlast
    have hlast : met[ranks - 1] = met.getLast (List.ne_nil_of_mem hmem) := by
      simp [List.getLast_eq_getElem, hlength]
    rw [hlast]
    exact hsorted.rel_getLast_of_rel_getLast_getLast hmem (Nat.le_refl _)

theorem shows_of_shortest? (hsorted : occurrences.Pairwise (·.position ≤ ·.position))
    (hranks : ∀ occurrence ∈ occurrences, occurrence.rank ∈ List.range' 1 ranks)
    (hrank : rank ∈ List.range' 1 ranks) (h : shortest? occurrences ranks = some window) :
    window.Shows occurrences rank := by
  unfold shortest? at h
  split at h
  next => cases h
  next => exact shows_of_mem_sweep hsorted hranks hrank (List.minOn?_mem h)

end Window

end BooleanSearch
