import Mathlib.Data.Finset.Card
import Mathlib.Data.List.Basic
import BooleanSearch.Proofs.Text.Distinct
import BooleanSearch.Snippet.ScannedText

/-!
This module contains what a scan finds: the words of the text whose normal forms are asked for, in
the order of the text, with one rank for each normal form.
-/

namespace BooleanSearch

namespace ScannedText

variable {terms tokens : List Text} {normalize : Normalizer} {text form : Text}

theorem mem_hits {position : Nat} :
    (position, form) ∈ hits terms normalize tokens ↔
      ∃ token, tokens[position]? = some token ∧ token.isWord ∧ normalize token = form ∧
        form ∈ terms := by
  simp only [hits, List.mem_filterMap, Prod.exists, List.mem_zipIdx_iff_getElem?]
  grind

theorem pairwise_hits (terms tokens : List Text) (normalize : Normalizer) :
    (hits terms normalize tokens).Pairwise (·.1 < ·.1) := by
  have hzip : tokens.zipIdx.Pairwise (·.2 < ·.2) := by
    rw [← List.pairwise_map, List.zipIdx_map_snd]
    exact List.pairwise_lt_range'
  unfold hits
  rw [List.pairwise_filterMap]
  refine hzip.imp fun {first second} hlt => ?_
  grind

theorem pairwise_occurrences (terms : List Text) (normalize : Normalizer) (text : Text) :
    (ofText terms normalize text).occurrences.Pairwise (·.position < ·.position) := by
  simp only [ofText, List.pairwise_map]
  exact pairwise_hits terms text.tokens normalize

def forms (terms : List Text) (normalize : Normalizer) (tokens : List Text) : List Text :=
  Text.distinct ((hits terms normalize tokens).map Prod.snd)

theorem mem_forms_of_mem_hits {position : Nat}
    (h : (position, form) ∈ hits terms normalize tokens) : form ∈ forms terms normalize tokens :=
  Text.mem_distinct.mpr (List.mem_map_of_mem h)

theorem mem_forms_iff {form : Text} : form ∈ forms terms normalize tokens ↔
    form ∈ terms ∧ ∃ word ∈ tokens, word.isWord = true ∧ normalize word = form := by
  rw [forms, Text.mem_distinct, List.mem_map]
  constructor
  · rintro ⟨⟨position, _⟩, hhit, rfl⟩
    obtain ⟨word, hposition, hword, hform, hmem⟩ := mem_hits.mp hhit
    exact ⟨hmem, word, List.mem_of_getElem? hposition, hword, hform⟩
  · rintro ⟨hmem, word, hfound, hword, hform⟩
    obtain ⟨position, hposition⟩ := List.mem_iff_getElem?.mp hfound
    exact ⟨(position, form), mem_hits.mpr ⟨word, hposition, hword, hform, hmem⟩, rfl⟩

theorem idxOf_mem_range' (h : form ∈ forms terms normalize text.tokens) :
    (forms terms normalize text.tokens).idxOf form + 1 ∈
      List.range' 1 (ofText terms normalize text).distinct := by
  have hlt := List.idxOf_lt_length_of_mem h
  rw [List.mem_range'_1]
  constructor
  · omega
  · exact Nat.lt_one_add_iff.mpr hlt

variable {occurrence : Occurrence}

theorem exists_of_mem_occurrences (h : occurrence ∈ (ofText terms normalize text).occurrences) :
    ∃ form, (occurrence.position, form) ∈ hits terms normalize text.tokens ∧
      occurrence.rank = (forms terms normalize text.tokens).idxOf form + 1 := by
  simp only [ofText, List.mem_map, Prod.exists] at h
  obtain ⟨position, form, hmem, rfl⟩ := h
  exact ⟨form, hmem, rfl⟩

theorem rank_mem_range' (h : occurrence ∈ (ofText terms normalize text).occurrences) :
    occurrence.rank ∈ List.range' 1 (ofText terms normalize text).distinct := by
  obtain ⟨form, hmem, hrank⟩ := exists_of_mem_occurrences h
  rw [hrank]
  exact idxOf_mem_range' (mem_forms_of_mem_hits hmem)

theorem eraseDups_ranks (terms : List Text) (normalize : Normalizer) (text : Text) :
    ((ofText terms normalize text).occurrences.map (·.rank)).eraseDups =
      List.range' 1 (ofText terms normalize text).distinct := by
  have hranks := Text.eraseDups_map_idxOf ((hits terms normalize text.tokens).map Prod.snd)
  rw [List.map_map] at hranks
  rw [ofText, List.map_map]
  exact hranks

theorem exists_mem_occurrences {rank : Nat} (hpos : 1 ≤ rank)
    (hle : rank ≤ (ofText terms normalize text).distinct) :
    ∃ occurrence ∈ (ofText terms normalize text).occurrences, occurrence.rank = rank := by
  have hrank : rank ∈ ((ofText terms normalize text).occurrences.map (·.rank)).eraseDups := by
    rw [eraseDups_ranks, List.mem_range'_1]
    omega
  rw [List.mem_eraseDups] at hrank
  exact List.mem_map.mp hrank

theorem mem_positions_iff {position : Nat} :
    position ∈ (ofText terms normalize text).occurrences.map (·.position) ↔
      ∃ word, text.tokens[position]? = some word ∧ word.isWord = true ∧ normalize word ∈ terms := by
  simp only [ofText, List.map_map, List.mem_map, Prod.exists, Function.comp_apply]
  constructor
  · rintro ⟨position, form, hhit, rfl⟩
    obtain ⟨word, hposition, hword, rfl, hmem⟩ := mem_hits.mp hhit
    exact ⟨word, hposition, hword, hmem⟩
  · rintro ⟨word, hposition, hword, hmem⟩
    exact ⟨position, normalize word, mem_hits.mpr ⟨word, hposition, hword, rfl, hmem⟩, rfl⟩

theorem rank_of_mem_occurrences {word : Text}
    (h : occurrence ∈ (ofText terms normalize text).occurrences)
    (hword : text.tokens[occurrence.position]? = some word) :
    normalize word ∈ forms terms normalize text.tokens ∧
      occurrence.rank = (forms terms normalize text.tokens).idxOf (normalize word) + 1 := by
  obtain ⟨form, hhit, hrank⟩ := exists_of_mem_occurrences h
  obtain ⟨token, htoken, -, rfl, -⟩ := mem_hits.mp hhit
  obtain rfl := Option.some.inj (hword.symm.trans htoken)
  exact ⟨mem_forms_of_mem_hits hhit, hrank⟩

theorem rank_eq_iff {first second : Occurrence} {word other : Text}
    (hfirst : first ∈ (ofText terms normalize text).occurrences)
    (hsecond : second ∈ (ofText terms normalize text).occurrences)
    (hword : text.tokens[first.position]? = some word)
    (hother : text.tokens[second.position]? = some other) :
    first.rank = second.rank ↔ normalize word = normalize other := by
  obtain ⟨hmem, hrank⟩ := rank_of_mem_occurrences hfirst hword
  obtain ⟨-, hrank'⟩ := rank_of_mem_occurrences hsecond hother
  rw [hrank, hrank', Nat.add_right_cancel_iff, List.idxOf_inj hmem]

theorem exists_rank {word : Text} (hmem : word ∈ text.tokens) (hword : word.isWord)
    (hform : normalize word ∈ terms) :
    ∃ rank ∈ List.range' 1 (ofText terms normalize text).distinct,
      ∀ occurrence ∈ (ofText terms normalize text).occurrences, occurrence.rank = rank →
        ∃ token, text.tokens[occurrence.position]? = some token ∧ token.isWord ∧
          normalize token = normalize word := by
  obtain ⟨position, hposition⟩ := List.mem_iff_getElem?.mp hmem
  obtain ⟨first, hfirst, rfl⟩ :=
    List.mem_map.mp (mem_positions_iff.mpr ⟨word, hposition, hword, hform⟩)
  refine ⟨first.rank, rank_mem_range' hfirst, ?_⟩
  intro occurrence hoccurrence hrank
  obtain ⟨token, htoken, hisWord, -⟩ := mem_positions_iff.mp (List.mem_map_of_mem hoccurrence)
  exact ⟨token, htoken, hisWord, (rank_eq_iff hoccurrence hfirst htoken hposition).mp hrank⟩

theorem distinct_eq_card (terms : List Text) (normalize : Normalizer) (text : Text) :
    (ofText terms normalize text).distinct =
      Finset.card {term ∈ terms.toFinset |
        ∃ word ∈ text.tokens, word.isWord = true ∧ normalize word = term} := by
  have hforms : (forms terms normalize text.tokens).toFinset = {term ∈ terms.toFinset |
      ∃ word ∈ text.tokens, word.isWord = true ∧ normalize word = term} := by
    ext form
    rw [List.mem_toFinset, mem_forms_iff, Finset.mem_filter, List.mem_toFinset]
  have hnodup : (forms terms normalize text.tokens).Nodup := Text.nodup_distinct _
  rw [← hforms, List.toFinset_card_of_nodup hnodup]
  rfl

end ScannedText

end BooleanSearch
