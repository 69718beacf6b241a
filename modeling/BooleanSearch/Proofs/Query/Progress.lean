import BooleanSearch.Proofs.Query.Lexing

/-!
This module contains the theorem that a query is read up to its end, whatever is malformed in it on the
way, and what the words and phrases look like that are read. No call for the next token leaves the
lexer where it was unless nothing is left.
-/

namespace BooleanSearch

theorem Partnerless.getElem?_ne_quote {text : Text} (h : Partnerless text) {i j : Nat}
    (hi : text[i]? = some '"') (hj : i + 2 ≤ j) : text[j]? ≠ some '"' := by
  induction text generalizing i j with
  | nil => simp at hi
  | cons c rest ih =>
    obtain ⟨k, rfl⟩ : ∃ k, j = k + 1 := ⟨j - 1, by omega⟩
    rw [List.getElem?_cons_succ]
    cases i with
    | succ i => exact ih h.2 hi (by omega)
    | zero =>
      have hc : c = '"' := by simpa using hi
      intro hquote
      obtain ⟨l, rfl⟩ : ∃ l, k = l + 1 := ⟨k - 1, by omega⟩
      have htail : rest.tail[l]? = some '"' := by rwa [List.getElem?_tail]
      exact h.1 hc (List.mem_of_getElem? htail)

theorem Partnerless.getElem?_append_ne_quote {front word rest : Text} (h : Partnerless word)
    (hrest : '"' ∈ word → '"' ∉ rest) {i j : Nat} (hi : word[i]? = some '"')
    (hj : front.length + i + 2 ≤ j) : (front ++ word ++ rest)[j]? ≠ some '"' := by
  rw [List.append_assoc, List.getElem?_append_right (by omega)]
  by_cases hword : j - front.length < word.length
  · rw [List.getElem?_append_left hword]
    exact h.getElem?_ne_quote hi (by omega)
  · rw [List.getElem?_append_right (by omega)]
    intro hquote
    exact hrest (List.mem_of_getElem? hi) (List.mem_of_getElem? hquote)

namespace Lexer

variable {lexer behind : Lexer}

theorem next_keeps (htidy : lexer.Tidy) :
    lexer.next.2.rest <:+ lexer.rest ∧ lexer.next.2.Tidy := by
  have hblanks : lexer.rest.dropWhile (· == ' ') <:+ lexer.rest := List.dropWhile_suffix _
  have hrun := lexer.next_run
  generalize hnext : lexer.next = result at hrun ⊢
  cases hrun with
  | atEnd => exact ⟨List.nil_suffix, ⟨nofun, nofun⟩⟩
  | malformed hdrop hflag hcut =>
    rw [hdrop] at hblanks
    have hsuffix := (suffix_of_cutPhrase hcut).trans hblanks
    exact ⟨hsuffix, ⟨fun c hc => htidy.blanks c (hsuffix.subset hc), nofun⟩⟩
  | symbol | phrase | word =>
    have hyields := next_yields htidy hnext
    exact ⟨hyields.suffix, hyields.tidy htidy⟩

theorem exists_taken (htidy : lexer.Tidy) (h : lexer.next.1 ≠ .ok none) :
    ∃ taken, taken ≠ [] ∧ lexer.rest = taken ++ lexer.next.2.rest := by
  obtain ⟨taken, htaken⟩ := (next_keeps htidy).1
  have hlt := length_next_lt h
  refine ⟨taken, ?_, htaken.symm⟩
  rintro rfl
  rw [← htaken, List.nil_append] at hlt
  exact Nat.lt_irrefl _ hlt

theorem next_term_stands {word : Text} (htidy : lexer.Tidy)
    (h : lexer.next = (.ok (some (.term word)), behind)) :
    ∃ blanks, lexer.rest = blanks ++ word ++ behind.rest ∧
      Partnerless word ∧ ('"' ∈ word → '"' ∉ behind.rest) := by
  have hyields := next_yields htidy h
  have hsplit := List.takeWhile_append_dropWhile (p := (· == ' ')) (l := lexer.rest)
  have hrun := lexer.next_run
  rw [h] at hrun
  cases hrun with
  | symbol hdrop hsymbol => cases Token.isLeaf_of_ofChar? hsymbol
  | word hdrop hc hquote hword =>
    have hreads := readWord_reads_of_tidy htidy (hdrop ▸ List.dropWhile_suffix _)
    rw [hword] at hreads
    refine ⟨lexer.rest.takeWhile (· == ' '), ?_, hreads.partnerless, ?_⟩
    · rw [List.append_assoc, ← hreads.text_eq, ← hdrop, hsplit]
    · exact fun hmem => hreads.exhausted (hreads.marks (.inr hmem))

def after : Nat → Lexer → Lexer
  | 0, lexer => lexer
  | calls + 1, lexer => after calls lexer.next.2

theorem after_keeps (htidy : lexer.Tidy) (calls : Nat) :
    (after calls lexer).rest <:+ lexer.rest ∧ (after calls lexer).Tidy := by
  induction calls generalizing lexer with
  | zero => exact ⟨List.suffix_rfl, htidy⟩
  | succ calls ih =>
    obtain ⟨hsuffix, hnext⟩ := next_keeps htidy
    exact ⟨(ih hnext).1.trans hsuffix, (ih hnext).2⟩

theorem next_after_end (h : lexer.next.1 = .ok none) (calls : Nat) :
    (after calls lexer).next.1 = .ok none := by
  induction calls generalizing lexer with
  | zero => exact h
  | succ calls ih =>
    apply ih
    have hrun := lexer.next_run
    generalize lexer.next = result at hrun h
    cases hrun with
    | atEnd => rfl
    | symbol | phrase | malformed | word => cases h

theorem exists_calls (lexer : Lexer) :
    ∃ calls ≤ lexer.rest.length, ∀ n, (after n lexer).next.1 = .ok none ↔ calls ≤ n := by
  by_cases hend : lexer.next.1 = .ok none
  · exact ⟨0, Nat.zero_le _, fun n => iff_of_true (next_after_end hend n) (Nat.zero_le n)⟩
  · have hlt := length_next_lt hend
    obtain ⟨calls, hle, hcalls⟩ := exists_calls lexer.next.2
    refine ⟨calls + 1, by omega, fun n => ?_⟩
    cases n with
    | zero => simp [after, hend]
    | succ n => simp [after, hcalls]
termination_by lexer.rest.length

/--
A query is read to its end, also behind errors: every call for the next token takes at least one
character until none is left. A word has letters only, and a quote in it has no other quote two or
more places behind it in the whole text. A phrase has at least one word.
-/
theorem read_to_end (query : Text) :
    (∃ calls ≤ (collapse query).length,
      ∀ n, (after n (ofText query)).next.1 = .ok none ↔ calls ≤ n) ∧
    ∀ n result behind, (after n (ofText query)).next = (result, behind) →
      (result ≠ .ok none →
        ∃ taken, taken ≠ [] ∧ (after n (ofText query)).rest = taken ++ behind.rest) ∧
      (∀ word, result = .ok (some (.term word)) →
        Text.Unbroken isWordBreak word ∧
        ∃ front, collapse query = front ++ word ++ behind.rest ∧
          ∀ i j, word[i]? = some '"' → front.length + i + 2 ≤ j →
            (collapse query)[j]? ≠ some '"') ∧
      ∀ words distance, result = .ok (some (.phrase words distance)) →
        words ≠ [] ∧ ∀ word ∈ words, Text.Unbroken isWordBreak word := by
  refine ⟨exists_calls (ofText query), fun n result behind hnext => ?_⟩
  obtain ⟨⟨consumed, hconsumed⟩, htidy⟩ := after_keeps (tidy_ofText query) n
  refine ⟨?_, ?_, ?_⟩
  · intro hresult
    have htaken := exists_taken htidy (by rwa [hnext])
    rwa [hnext] at htaken
  · rintro word rfl
    -- The word stands behind all that was read before, and a quote in it has no partner in the rest.
    obtain ⟨blanks, hrest, hlone, hquotes⟩ := next_term_stands htidy hnext
    have hstands : collapse query = consumed ++ blanks ++ word ++ behind.rest :=
      calc
        collapse query = consumed ++ (after n (ofText query)).rest := hconsumed.symm
        _ = consumed ++ blanks ++ word ++ behind.rest := by simp [hrest]
    refine ⟨(next_yields htidy hnext).legible.1, consumed ++ blanks, hstands, ?_⟩
    intro i j hi hj
    rw [hstands]
    exact hlone.getElem?_append_ne_quote hquotes hi hj
  · rintro words distance rfl
    have hlegible := (next_yields htidy hnext).legible
    exact ⟨hlegible.1, hlegible.2.1⟩

end Lexer

namespace LoneQuote

def query : Text := "\"()\" x\"y".toList

theorem word_read_behind_error :
    (Lexer.after 0 (Lexer.ofText query)).next = (.error .emptyPhrase, ⟨" x\"y".toList, false⟩) ∧
      (∃ taken, taken ≠ [] ∧ query = taken ++ " x\"y".toList) ∧
      (Lexer.after 1 (Lexer.ofText query)).next =
        (.ok (some (.term "x\"y".toList)), ⟨[], true⟩) ∧
      ∃ front, query = front ++ "x\"y".toList ++ [] ∧
        ∀ j, front.length + 3 ≤ j → query[j]? ≠ some '"' := by
  obtain ⟨-, hread⟩ := Lexer.read_to_end query
  have hfirst : (Lexer.after 0 (Lexer.ofText query)).next =
      (.error .emptyPhrase, ⟨" x\"y".toList, false⟩) := by
    decide +kernel
  have hsecond : (Lexer.after 1 (Lexer.ofText query)).next =
      (.ok (some (.term "x\"y".toList)), ⟨[], true⟩) := by
    decide +kernel
  obtain ⟨htaken, -⟩ := hread 0 _ _ hfirst
  obtain ⟨-, hword, -⟩ := hread 1 _ _ hsecond
  obtain ⟨-, front, hfront, hquote⟩ := hword _ rfl
  exact ⟨hfirst, htaken nofun, hsecond, front, hfront, fun j hj => hquote 1 j rfl hj⟩

end LoneQuote

end BooleanSearch
