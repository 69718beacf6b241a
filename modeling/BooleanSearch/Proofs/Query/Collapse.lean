import Mathlib.Data.List.Chain
import BooleanSearch.Proofs.Text.Words
import BooleanSearch.Query.Lexer

/-!
This module contains the effect of collapsing a query: blanks are the only white space that is left,
and a text whose words are separated by single blanks and that doubles no operator stays as it is.
-/

namespace BooleanSearch

namespace Text

theorem foldPairs_sublist (c : Char) (text : Text) : (foldPairs c text).Sublist text := by
  fun_induction foldPairs c text with
  | case1 => exact List.Sublist.refl _
  | case2 d => exact List.Sublist.refl _
  | case3 d e rest hpair ih =>
    rw [hpair.1]
    exact (ih.cons e).cons_cons c
  | case4 d e rest hpair ih => exact ih.cons_cons d

def Undoubled (c : Char) (text : Text) : Prop := text.IsChain fun d e => d = c → e ≠ c

namespace Undoubled

variable {c d : Char} {s t : Text}

theorem cons (h : Undoubled c t) (hd : d = c → t.head? ≠ some c) : Undoubled c (d :: t) :=
  List.IsChain.cons h fun _ he heq hec => hd heq (hec ▸ he)

theorem append (hs : Undoubled c s) (ht : Undoubled c t) (hhead : t.head? ≠ some c) :
    Undoubled c (s ++ t) :=
  List.IsChain.append hs ht fun _ _ _ he _ hec => hhead (hec ▸ he)

theorem of_not_mem (h : c ∉ t) : Undoubled c t := by
  induction t with
  | nil => exact List.IsChain.nil
  | cons d t ih =>
    rw [List.mem_cons, not_or] at h
    exact (ih h.2).cons fun heq => absurd heq.symm h.1

theorem unwords {parts : List Text} (hblank : ' ' ≠ c) (h : ∀ part ∈ parts, Undoubled c part) :
    Undoubled c (unwords parts) := by
  induction parts with
  | nil => exact List.IsChain.nil
  | cons part parts ih =>
    rw [List.forall_mem_cons] at h
    cases parts with
    | nil => exact h.1
    | cons next parts =>
      have hrest : Undoubled c (' ' :: Text.unwords (next :: parts)) :=
        (ih h.2).cons fun heq => absurd heq hblank
      exact h.1.append hrest (by simpa using hblank)

end Undoubled

theorem foldPairs_eq_self {c : Char} {text : Text} (h : Undoubled c text) :
    foldPairs c text = text := by
  unfold Undoubled at h
  fun_induction foldPairs c text with
  | case1 => rfl
  | case2 d => rfl
  | case3 d e rest hpair ih =>
    rw [List.isChain_cons_cons] at h
    exact absurd hpair.2 (h.1 hpair.1)
  | case4 d e rest hpair ih =>
    rw [List.isChain_cons_cons] at h
    rw [ih h.2]

inductive Spaced : Text → Prop where
  | word {word} (h : Unbroken isWhiteSpace word) : Spaced word
  | cons {word rest} (h : Unbroken isWhiteSpace word) (hrest : Spaced rest) :
    Spaced (word ++ ' ' :: rest)

namespace Spaced

variable {s t : Text}

theorem append (hs : Spaced s) (ht : Spaced t) : Spaced (s ++ t) := by
  induction hs with
  | word h =>
    cases ht with
    | word h' => exact .word (h.append h')
    | cons h' hrest =>
      rw [← List.append_assoc]
      exact .cons (h.append h') hrest
  | cons h _ ih =>
    rw [List.append_assoc]
    exact .cons h ih

theorem append_blank (hs : Spaced s) (ht : Spaced t) : Spaced (s ++ ' ' :: t) := by
  induction hs with
  | word h => exact .cons h ht
  | cons h _ ih =>
    rw [List.append_assoc]
    exact .cons h ih

theorem unwords {parts : List Text} (hne : parts ≠ []) (h : ∀ part ∈ parts, Spaced part) :
    Spaced (unwords parts) := by
  induction parts with
  | nil => exact absurd rfl hne
  | cons part parts ih =>
    rw [List.forall_mem_cons] at h
    cases parts with
    | nil => exact h.1
    | cons next parts => exact h.1.append_blank (ih (List.cons_ne_nil next parts) h.2)

theorem ne_nil (h : Spaced t) : t ≠ [] := by
  cases h with
  | word h => exact h.1
  | cons h _ => exact List.append_ne_nil_of_left_ne_nil h.1 _

theorem words_ne_nil (h : Spaced t) : words t ≠ [] := by
  cases h with
  | word h => simp [words, wordsBetween_unbroken h]
  | cons h _ => simp [words, wordsBetween_append h (c := ' ') rfl]

theorem unwords_words (h : Spaced t) : Text.unwords (words t) = t := by
  induction h with
  | word h => rw [words, wordsBetween_unbroken h, unwords_singleton]
  | cons h hrest ih =>
    rw [words, wordsBetween_append h (c := ' ') rfl, ← words,
      unwords_cons_of_ne_nil hrest.words_ne_nil, ih]

theorem exists_mem_not_isWhiteSpace (h : Spaced t) : ∃ c ∈ t, isWhiteSpace c = false := by
  cases h with
  | word h =>
    obtain ⟨c, hc⟩ := List.exists_mem_of_ne_nil _ h.1
    exact ⟨c, hc, h.2 c hc⟩
  | cons h _ =>
    obtain ⟨c, hc⟩ := List.exists_mem_of_ne_nil _ h.1
    exact ⟨c, List.mem_append_left _ hc, h.2 c hc⟩

end Spaced

end Text

namespace Lexer

theorem collapse_sublist (query : Text) :
    (collapse query).Sublist (query.map fun c => if Text.isWhiteSpace c then ' ' else c) :=
  calc
    (Text.foldPairs '|' (Text.foldPairs '&' (Text.unwords (Text.words query)))).Sublist
        (Text.foldPairs '&' (Text.unwords (Text.words query))) := Text.foldPairs_sublist _ _
    _ |>.Sublist (Text.unwords (Text.words query)) := Text.foldPairs_sublist _ _
    _ |>.Sublist (query.map fun c => if Text.isWhiteSpace c then ' ' else c) :=
      Text.unwords_wordsBetween_sublist _ _

theorem eq_blank_of_mem_collapse {query : Text} {c : Char} (hc : c ∈ collapse query)
    (hspace : Text.isWhiteSpace c) : c = ' ' := by
  have hmem := (collapse_sublist query).subset hc
  grind

theorem collapse_eq_self {text : Text} (hspaced : Text.Spaced text)
    (hand : Text.Undoubled '&' text) (hor : Text.Undoubled '|' text) : collapse text = text := by
  rw [collapse, hspaced.unwords_words, Text.foldPairs_eq_self hand, Text.foldPairs_eq_self hor]

end Lexer

end BooleanSearch
