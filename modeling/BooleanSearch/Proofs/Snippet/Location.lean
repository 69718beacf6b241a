import BooleanSearch.Proofs.Snippet.Scanning
import BooleanSearch.Proofs.Snippet.Shortest

/-!
This module contains where the shortest window of a scanned text is: there is one as soon as a word is
found, and it stops at a word that was asked for.
-/

namespace BooleanSearch

namespace ScannedText

variable {terms : List Text} {normalize : Normalizer} {text : Text} {window : Window}

theorem rank_bounds (terms : List Text) (normalize : Normalizer) (text : Text) :
    ∀ occurrence ∈ (ofText terms normalize text).occurrences,
      1 ≤ occurrence.rank ∧ occurrence.rank ≤ (ofText terms normalize text).distinct := by
  intro occurrence hmem
  have hrank := List.mem_range'_1.mp (rank_mem_range' hmem)
  omega

theorem exists_window (hhit : ∃ word ∈ text.tokens, word.isWord ∧ normalize word ∈ terms) :
    ∃ window, Window.shortest? (ofText terms normalize text).occurrences
      (ofText terms normalize text).distinct = some window := by
  rw [← Option.ne_none_iff_exists', Ne, Window.shortest?_eq_none_iff
    (rank_bounds terms normalize text) ((pairwise_occurrences terms normalize text).imp Nat.le_of_lt)]
  rintro (hzero | ⟨rank, hpos, hle, habsent⟩)
  · obtain ⟨word, hmem, hword, hform⟩ := hhit
    obtain ⟨rank, hrank, -⟩ := exists_rank hmem hword hform
    rw [hzero] at hrank
    cases hrank
  · obtain ⟨occurrence, hmem, hrank⟩ := exists_mem_occurrences hpos hle
    exact habsent occurrence hmem hrank

theorem stop_of_shortest? (h : Window.shortest? (ofText terms normalize text).occurrences
      (ofText terms normalize text).distinct = some window) :
    window.start ≤ window.stop ∧
      ∃ token, text.tokens[window.stop]? = some token ∧ normalize token ∈ terms := by
  have hsorted := (pairwise_occurrences terms normalize text).imp Nat.le_of_lt
  have hmem := Window.mem_sweep_of_shortest? h
  refine ⟨Window.start_le_stop_of_mem_sweep hsorted hmem, ?_⟩
  obtain ⟨last, hlast, hstop⟩ := Window.exists_last_of_mem_sweep hmem
  obtain ⟨form, hhit, -⟩ := exists_of_mem_occurrences hlast
  obtain ⟨token, htoken, -, rfl, hform⟩ := mem_hits.mp hhit
  rw [← hstop]
  exact ⟨token, htoken, hform⟩

end ScannedText

end BooleanSearch
