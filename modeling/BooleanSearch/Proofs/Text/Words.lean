import BooleanSearch.Text.WhiteSpace

/-!
This module contains the theorem that words put together with blanks between them are split into the
same words again.
-/

namespace BooleanSearch.Text

def Unbroken (isBreak : Char → Bool) (word : Text) : Prop :=
  word ≠ [] ∧ ∀ c ∈ word, isBreak c = false

variable {isBreak : Char → Bool} {word : Text}

namespace Unbroken

theorem singleton {c : Char} (hc : isBreak c = false) : Unbroken isBreak [c] :=
  ⟨List.cons_ne_nil c [], by simpa using hc⟩

theorem cons {c : Char} (hc : isBreak c = false) (h : Unbroken isBreak word) :
    Unbroken isBreak (c :: word) :=
  ⟨List.cons_ne_nil c word, List.forall_mem_cons.mpr ⟨hc, h.2⟩⟩

theorem append {s t : Text} (hs : Unbroken isBreak s) (ht : Unbroken isBreak t) :
    Unbroken isBreak (s ++ t) :=
  ⟨List.append_ne_nil_of_left_ne_nil hs.1 t, List.forall_mem_append.mpr ⟨hs.2, ht.2⟩⟩

end Unbroken

theorem splitOn_eq_splitOnP (isBreak : Char → Bool) (text : Text) :
    splitOn isBreak text = text.splitOnP isBreak := by
  induction text with
  | nil => rfl
  | cons c rest ih =>
    rw [List.splitOnP_cons_eq_if_modifyHead, splitOn, ih]
    split
    · rfl
    · cases hsplit : rest.splitOnP isBreak with
      | nil => exact absurd hsplit (List.splitOnP_ne_nil isBreak rest)
      | cons piece pieces => rfl

theorem not_isBreak_of_mem_splitOn {text piece : Text} {c : Char}
    (hpiece : piece ∈ splitOn isBreak text) (hc : c ∈ piece) : isBreak c = false := by
  induction text generalizing piece with
  | nil =>
    rw [splitOn, List.mem_singleton] at hpiece
    simp [hpiece] at hc
  | cons d rest ih =>
    unfold splitOn at hpiece
    split at hpiece
    next hbreak => grind
    next hbreak => split at hpiece <;> grind

theorem unbroken_of_mem_wordsBetween {text : Text} (h : word ∈ wordsBetween isBreak text) :
    Unbroken isBreak word := by
  unfold wordsBetween at h
  rw [List.mem_filter] at h
  obtain ⟨hpiece, hne⟩ := h
  exact ⟨by simpa using hne, fun c hc => not_isBreak_of_mem_splitOn hpiece hc⟩

theorem wordsBetween_unbroken (h : Unbroken isBreak word) :
    wordsBetween isBreak word = [word] := by
  obtain ⟨hne, hbreak⟩ := h
  unfold wordsBetween
  rw [splitOn_eq_splitOnP, List.splitOnP_eq_singleton hbreak]
  simp [hne]

theorem wordsBetween_append_cons {c : Char} (hc : isBreak c = true) (s t : Text) :
    wordsBetween isBreak (s ++ c :: t) = wordsBetween isBreak s ++ wordsBetween isBreak t := by
  unfold wordsBetween
  simp only [splitOn_eq_splitOnP]
  rw [List.splitOnP_append_cons s t hc, List.filter_append]

theorem wordsBetween_append (h : Unbroken isBreak word) {c : Char} (hc : isBreak c = true)
    (rest : Text) :
    wordsBetween isBreak (word ++ c :: rest) = word :: wordsBetween isBreak rest := by
  rw [wordsBetween_append_cons hc, wordsBetween_unbroken h, List.singleton_append]

theorem wordsBetween_unwords (hblank : isBreak ' ' = true) {words : List Text}
    (h : ∀ word ∈ words, Unbroken isBreak word) : wordsBetween isBreak (unwords words) = words := by
  induction words with
  | nil => rfl
  | cons word words ih =>
    rw [List.forall_mem_cons] at h
    cases words with
    | nil => exact wordsBetween_unbroken h.1
    | cons next words => rw [unwords_cons_cons, wordsBetween_append h.1 hblank, ih h.2]

theorem splitOn_ne_nil (isBreak : Char → Bool) (text : Text) : splitOn isBreak text ≠ [] := by
  rw [splitOn_eq_splitOnP]
  exact List.splitOnP_ne_nil isBreak text

theorem unwords_cons_of_ne_nil {words : List Text} (h : words ≠ []) (word : Text) :
    unwords (word :: words) = word ++ ' ' :: unwords words := by
  cases words with
  | nil => exact absurd rfl h
  | cons next words => exact unwords_cons_cons word next words

theorem mem_unwords {words : List Text} {c : Char} (h : c ∈ unwords words) :
    c = ' ' ∨ ∃ word ∈ words, c ∈ word := by
  induction words with
  | nil => cases h
  | cons word words ih =>
    cases words with
    | nil => exact .inr ⟨word, List.mem_cons_self, h⟩
    | cons next words =>
      rw [unwords_cons_cons, List.mem_append, List.mem_cons] at h
      grind

theorem unwords_splitOn (isBreak : Char → Bool) (text : Text) :
    unwords (splitOn isBreak text) = text.map fun c => if isBreak c then ' ' else c := by
  induction text with
  | nil => rfl
  | cons c rest ih =>
    unfold splitOn
    split
    next hbreak =>
      rw [unwords_cons_of_ne_nil (splitOn_ne_nil isBreak rest), ih]
      simp [hbreak]
    next hbreak =>
      rw [List.map_cons, ← ih]
      split
      next heq => exact absurd heq (splitOn_ne_nil isBreak rest)
      next piece pieces heq => cases pieces <;> simp [heq, hbreak]

theorem unwords_sublist {short long : List Text} (h : short.Sublist long) :
    (unwords short).Sublist (unwords long) := by
  induction h with
  | slnil => exact List.Sublist.refl _
  | @cons short long word hsub ih =>
    cases long with
    | nil =>
      rw [List.sublist_nil.mp hsub]
      exact List.nil_sublist _
    | cons next long =>
      rw [unwords_cons_cons]
      exact (ih.cons ' ').trans (List.sublist_append_right word _)
  | @cons_cons short long word hsub ih =>
    cases short with
    | nil =>
      cases long with
      | nil => exact List.Sublist.refl _
      | cons next long => exact List.sublist_append_left word _
    | cons first short =>
      have hne : long ≠ [] := List.ne_nil_of_mem (hsub.subset List.mem_cons_self)
      rw [unwords_cons_cons, unwords_cons_of_ne_nil hne]
      exact (ih.cons_cons ' ').append_left word

theorem unwords_wordsBetween_sublist (isBreak : Char → Bool) (text : Text) :
    (unwords (wordsBetween isBreak text)).Sublist
      (text.map fun c => if isBreak c then ' ' else c) := by
  rw [← unwords_splitOn]
  exact unwords_sublist List.filter_sublist

end BooleanSearch.Text
