import Mathlib.Data.List.SplitBy
import BooleanSearch.Snippet.ScannedText

/-!
This module contains what the tokens of a text are: put together they are the text, and each of them is
a single character or a run of alphanumeric characters that goes on at neither end.
-/

namespace BooleanSearch.Text

@[simp]
theorem flatten_tokens (text : Text) : text.tokens.flatten = text :=
  List.flatten_splitBy _ text

inductive IsToken (before : Text) : (token behind : Text) → Prop where
  | other {c : Char} {behind : Text} (hc : isAlphanumeric c = false) : IsToken before [c] behind
  | word {token behind : Text} (hne : token ≠ []) (htoken : ∀ c ∈ token, isAlphanumeric c = true)
      (hbefore : ∀ c ∈ before.getLast?, isAlphanumeric c = false)
      (hbehind : ∀ c ∈ behind.head?, isAlphanumeric c = false) : IsToken before token behind

theorem forall_isAlphanumeric_of_isChain {c d : Char} {token : Text}
    (h : (c :: d :: token).IsChain fun c d => (isAlphanumeric c && isAlphanumeric d) = true) :
    ∀ e ∈ c :: d :: token, isAlphanumeric e = true := by
  induction token generalizing c d with
  | nil =>
    rw [List.isChain_cons_cons, Bool.and_eq_true] at h
    simpa using h.1
  | cons e token ih =>
    rw [List.isChain_cons_cons, Bool.and_eq_true] at h
    rw [List.forall_mem_cons]
    exact ⟨h.1.1, ih h.2⟩

theorem not_isAlphanumeric_of_tokens {text : Text} {first second : List Text}
    (h : text.tokens = first ++ second) {c d : Char} (hc : c ∈ first.flatten.getLast?)
    (hd : d ∈ second.flatten.head?) : (isAlphanumeric c && isAlphanumeric d) = false := by
  have hchain := List.isChain_getLast_head_splitBy
    (fun c d => isAlphanumeric c && isAlphanumeric d) text
  rw [show text.splitBy _ = first ++ second from h, List.isChain_append] at hchain
  cases second with
  | nil => cases hd
  | cons after second =>
    rcases first.eq_nil_or_concat' with rfl | ⟨first, last, rfl⟩
    · cases hc
    · -- No token is empty, so that the last character of one meets the first one of the other.
      obtain ⟨hlast, hafter, hfalse⟩ := hchain.2.2 last (by simp) after (by simp)
      rw [List.flatten_append, List.flatten_singleton, List.getLast?_append_of_ne_nil _ hlast,
        List.getLast?_eq_some_getLast hlast] at hc
      rw [List.flatten_cons, List.head?_append_of_ne_nil _ hafter,
        List.head?_eq_some_head hafter] at hd
      cases hc
      cases hd
      exact hfalse

theorem isToken_of_tokens {text token : Text} {front behind : List Text}
    (h : text.tokens = front ++ token :: behind) :
    IsToken front.flatten token behind.flatten := by
  have hmem : token ∈ text.tokens := by simp [h]
  have hchain := List.isChain_of_mem_splitBy hmem
  have hword (hne : token ≠ []) (htoken : ∀ c ∈ token, isAlphanumeric c = true) :
      IsToken front.flatten token behind.flatten := by
    apply IsToken.word hne htoken
    · intro c hc
      have hhead : token.head hne ∈ (token :: behind).flatten.head? := by
        rw [List.flatten_cons, List.head?_append_of_ne_nil _ hne, List.head?_eq_some_head hne]
        rfl
      have hfalse := not_isAlphanumeric_of_tokens h hc hhead
      rwa [htoken _ (List.head_mem hne), Bool.and_true] at hfalse
    · intro c hc
      have hlast : token.getLast hne ∈ (front ++ [token]).flatten.getLast? := by
        rw [List.flatten_append, List.flatten_singleton, List.getLast?_append_of_ne_nil _ hne,
          List.getLast?_eq_some_getLast hne]
        rfl
      rw [List.append_cons] at h
      have hfalse := not_isAlphanumeric_of_tokens h hlast hc
      rwa [htoken _ (List.getLast_mem hne), Bool.true_and] at hfalse
  cases token with
  | nil => exact absurd hmem (List.nil_notMem_splitBy _ text)
  | cons c token =>
    cases token with
    | nil =>
      by_cases hc : isAlphanumeric c = true
      · exact hword (List.cons_ne_nil c []) (by simpa using hc)
      · exact .other (Bool.not_eq_true _ ▸ hc)
    | cons d token =>
      exact hword (List.cons_ne_nil _ _) (forall_isAlphanumeric_of_isChain hchain)

theorem isChain_tokens (text : Text) :
    text.tokens.IsChain fun first second => ¬ (first.isWord = true ∧ second.isWord = true) := by
  rw [List.isChain_iff_forall_rel_of_append_cons_cons]
  rintro first second front behind htokens ⟨hfirst, hsecond⟩
  obtain ⟨d, hd, halnum⟩ := (Option.any_eq_true _ _).mp hsecond
  cases isToken_of_tokens htokens with
  | other hc =>
    rw [isWord, List.head?_cons, Option.any_some, hc] at hfirst
    cases hfirst
  | word hne htoken hbefore hbehind =>
    have hhead : d ∈ (second :: behind).flatten.head? := by
      rw [List.flatten_cons, List.head?_append, hd]
      rfl
    rw [hbehind d hhead] at halnum
    cases halnum

theorem tokens_append_word {front word : Text} (hne : word ≠ [])
    (hword : ∀ c ∈ word, isAlphanumeric c = true)
    (hfront : ∀ c ∈ front.getLast?, isAlphanumeric c = false) :
    (front ++ word).tokens = front.tokens ++ [word] := by
  have hchain : word.IsChain fun c d => (isAlphanumeric c && isAlphanumeric d) = true := by
    apply List.Pairwise.isChain
    apply List.pairwise_of_forall_mem_list
    intro c hc d hd
    rw [hword c hc, hword d hd, Bool.and_self]
  unfold tokens
  rw [List.splitBy_append, List.splitBy_of_isChain hne hchain]
  intro c hc d hd
  rw [hfront c hc, Bool.false_and]

theorem tokens_concat_other (text : Text) {c : Char} (hc : isAlphanumeric c = false) :
    (text ++ [c]).tokens = text.tokens ++ [[c]] := by
  unfold tokens
  rw [List.splitBy_append_cons]
  · rfl
  intro d hd
  rw [hc, Bool.and_false]

end BooleanSearch.Text
