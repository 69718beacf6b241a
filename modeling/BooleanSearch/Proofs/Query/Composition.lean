import BooleanSearch.Proofs.Query.Grammar
import BooleanSearch.Proofs.Query.Spelling

/-!
This module contains the theorem that two queries without quotes, written one behind the other, are read
one after the other: neither the collapsing of blanks and operators nor the words reach across the
border. Only a conjunction is implied there if one operand meets another.
-/

namespace BooleanSearch

namespace Text

theorem unwords_append {front back : List Text} (hfront : front ≠ []) (hback : back ≠ []) :
    unwords (front ++ back) = unwords front ++ ' ' :: unwords back := by
  induction front with
  | nil => exact absurd rfl hfront
  | cons word front ih =>
    cases front with
    | nil => exact unwords_cons_of_ne_nil hback word
    | cons next front =>
      have hrest := ih (List.cons_ne_nil next front)
      rw [List.cons_append] at hrest
      rw [List.cons_append, List.cons_append, unwords_cons_cons, hrest, unwords_cons_cons,
        List.append_assoc, List.cons_append]

theorem foldPairs_cons_of_ne {c d : Char} (h : d ≠ c) (text : Text) :
    foldPairs c (d :: text) = d :: foldPairs c text := by
  cases text with
  | nil => rfl
  | cons e rest => simp [foldPairs, h]

theorem foldPairs_append_cons {c d : Char} (h : d ≠ c) (s t : Text) :
    foldPairs c (s ++ d :: t) = foldPairs c s ++ d :: foldPairs c t := by
  fun_induction foldPairs c s with
  | case1 => exact foldPairs_cons_of_ne h t
  | case2 e =>
    have hpair : ¬ (e = c ∧ d = c) := fun hpair => h hpair.2
    rw [List.singleton_append, foldPairs, if_neg hpair, foldPairs_cons_of_ne h,
      List.singleton_append]
  | case3 e f rest hpair ih =>
    rw [List.cons_append, List.cons_append, foldPairs, if_pos hpair, ih, List.cons_append]
  | case4 e f rest hpair ih =>
    rw [List.cons_append] at ih
    rw [List.cons_append, List.cons_append, foldPairs, if_neg hpair, ih, List.cons_append]

theorem words_append_blank (s t : Text) : words (s ++ ' ' :: t) = words s ++ words t :=
  wordsBetween_append_cons rfl s t

end Text

namespace Lexer

theorem collapse_of_words_eq_nil {query : Text} (h : Text.words query = []) :
    collapse query = [] := by
  rw [collapse, h]
  rfl

theorem collapse_congr {query other : Text} (h : Text.words query = Text.words other) :
    collapse query = collapse other := by
  rw [collapse, collapse, h]

theorem collapse_append_blank {s t : Text} (hs : Text.words s ≠ []) (ht : Text.words t ≠ []) :
    collapse (s ++ ' ' :: t) = collapse s ++ ' ' :: collapse t := by
  unfold collapse
  rw [Text.words_append_blank, Text.unwords_append hs ht, Text.foldPairs_append_cons (by decide),
    Text.foldPairs_append_cons (by decide)]

theorem not_mem_quote_collapse {query : Text} (h : '"' ∉ query) : '"' ∉ collapse query := by
  intro hmem
  obtain ⟨c, hc, hquote⟩ := List.mem_map.mp ((collapse_sublist query).subset hmem)
  split at hquote
  next => cases hquote
  next =>
    rw [hquote] at hc
    exact h hc

theorem readWord_cons_of_ne_quote {c : Char} {rest : Text} (hc : ¬ (c = ' ' ∨ isReserved c))
    (hquote : c ≠ '"') (quotesExhausted : Bool) :
    readWord quotesExhausted (c :: rest) =
      (c :: (readWord quotesExhausted rest).1, (readWord quotesExhausted rest).2) := by
  rw [readWord_cons hc (fun hc => absurd hc hquote), exhausted_or_quote fun hlone => hquote hlone.1]

theorem readWord_append_blank {text : Text} (h : '"' ∉ text) (quotesExhausted : Bool)
    (behind : Text) :
    (readWord quotesExhausted text).2.quotesExhausted = quotesExhausted ∧
      readWord quotesExhausted (text ++ ' ' :: behind) =
        ((readWord quotesExhausted text).1,
          ⟨(readWord quotesExhausted text).2.rest ++ ' ' :: behind, quotesExhausted⟩) := by
  induction text with
  | nil => simp [readWord]
  | cons c rest ih =>
    rw [List.mem_cons, not_or] at h
    by_cases hbreak : c = ' ' ∨ isReserved c
    · simp [readWord, hbreak]
    · obtain ⟨hflag, hrest⟩ := ih h.2
      rw [List.cons_append, readWord_cons_of_ne_quote hbreak (Ne.symm h.1),
        readWord_cons_of_ne_quote hbreak (Ne.symm h.1), hrest]
      exact ⟨hflag, rfl⟩

section

variable {lexer behind : Lexer} {token : Token}

theorem dropWhile_append_blank_of_nil {text : Text} (h : text.dropWhile (· == ' ') = [])
    (rest : Text) : (text ++ ' ' :: rest).dropWhile (· == ' ') = rest.dropWhile (· == ' ') := by
  rw [List.dropWhile_append, h]
  rfl

theorem dropWhile_append_blank_of_cons {text after : Text} {c : Char}
    (h : text.dropWhile (· == ' ') = c :: after) (rest : Text) :
    (text ++ ' ' :: rest).dropWhile (· == ' ') = c :: (after ++ ' ' :: rest) := by
  rw [List.dropWhile_append, h]
  rfl

theorem next_append_of_end (hnext : lexer.next = (.ok none, behind)) (rest : Text) :
    next ⟨lexer.rest ++ ' ' :: rest, lexer.quotesExhausted⟩ =
      next ⟨rest, lexer.quotesExhausted⟩ := by
  have hrun := lexer.next_run
  rw [hnext] at hrun
  cases hrun with
  | atEnd hdrop =>
    unfold next
    rw [dropWhile_append_blank_of_nil hdrop]

theorem next_append_of_token (hquote : '"' ∉ lexer.rest)
    (hnext : lexer.next = (.ok (some token), behind)) (rest : Text) :
    '"' ∉ behind.rest ∧ behind.quotesExhausted = lexer.quotesExhausted ∧
      next ⟨lexer.rest ++ ' ' :: rest, lexer.quotesExhausted⟩ =
        (.ok (some token), ⟨behind.rest ++ ' ' :: rest, behind.quotesExhausted⟩) := by
  have hsuffix : lexer.rest.dropWhile (· == ' ') <:+ lexer.rest := List.dropWhile_suffix _
  have hrun := lexer.next_run
  rw [hnext] at hrun
  cases hrun with
  | @symbol c after _ hdrop hsymbol =>
    rw [hdrop] at hsuffix
    exact ⟨fun hmem => hquote (hsuffix.subset (List.mem_cons_of_mem c hmem)), rfl,
      next_of_symbol (dropWhile_append_blank_of_cons hdrop rest) hsymbol⟩
  | phrase hdrop =>
    rw [hdrop] at hsuffix
    exact absurd (hsuffix.subset List.mem_cons_self) hquote
  | @word c after word _ hdrop hc hopens hword =>
    rw [hdrop] at hsuffix
    have hfree : '"' ∉ c :: after := fun hmem => hquote (hsuffix.subset hmem)
    have hne : c ≠ '"' := fun heq => hfree (heq ▸ List.mem_cons_self)
    obtain ⟨hflag, happend⟩ := readWord_append_blank hfree lexer.quotesExhausted rest
    rw [hword] at hflag happend
    have hreads : ReadsWord lexer.quotesExhausted (c :: after) _ _ :=
      readWord_reads fun _ hmem => hfree (List.mem_of_mem_tail hmem)
    rw [hword] at hreads
    refine ⟨fun hmem => hfree ?_, hflag, ?_⟩
    · rw [hreads.text_eq]
      exact List.mem_append_right word hmem
    · rw [next_of_letter (dropWhile_append_blank_of_cons hdrop rest) hc (fun heq => absurd heq hne),
        ← List.cons_append, happend, hflag]

theorem next_ne_error (hquote : '"' ∉ lexer.rest) {malformation : Malformation} :
    lexer.next ≠ (.error malformation, behind) := by
  intro hnext
  have hsuffix : lexer.rest.dropWhile (· == ' ') <:+ lexer.rest := List.dropWhile_suffix _
  have hrun := lexer.next_run
  rw [hnext] at hrun
  cases hrun with
  | malformed hdrop =>
    rw [hdrop] at hsuffix
    exact hquote (hsuffix.subset List.mem_cons_self)

theorem tokens_eq_of_next (hnext : lexer.next = (.ok (some token), behind)) :
    lexer.tokens = behind.tokens.map (token :: ·) := by
  conv_lhs => unfold tokens
  rw [hnext]
  dsimp only
  cases behind.tokens <;> rfl

theorem tokens_nil (quotesExhausted : Bool) : tokens ⟨[], quotesExhausted⟩ = .ok [] := by
  unfold tokens
  rfl

theorem exists_tokens_append (hquote : '"' ∉ lexer.rest) :
    ∃ left, lexer.tokens = .ok left ∧ ∀ rest,
      tokens ⟨lexer.rest ++ ' ' :: rest, lexer.quotesExhausted⟩ =
        (tokens ⟨rest, lexer.quotesExhausted⟩).map (left ++ ·) := by
  fun_induction Lexer.tokens lexer with
  | case1 lexer malformation behind hnext => exact absurd hnext (next_ne_error hquote)
  | case2 lexer behind hnext =>
    refine ⟨[], rfl, fun rest => ?_⟩
    rw [tokens_congr (next_append_of_end hnext rest)]
    cases tokens ⟨rest, lexer.quotesExhausted⟩ <;> rfl
  | case3 lexer token behind hnext tokens htokens ih =>
    obtain ⟨hbehind, hflag, -⟩ := next_append_of_token hquote hnext []
    obtain ⟨left, hleft, happend⟩ := ih hbehind
    rw [htokens, Except.ok.injEq] at hleft
    subst hleft
    refine ⟨token :: tokens, rfl, fun rest => ?_⟩
    obtain ⟨-, -, hfirst⟩ := next_append_of_token hquote hnext rest
    rw [tokens_eq_of_next hfirst, happend, hflag]
    cases Lexer.tokens ⟨rest, lexer.quotesExhausted⟩ <;> rfl
  | case4 lexer token behind hnext malformation hbehind ih =>
    obtain ⟨left, hleft, -⟩ := ih (next_append_of_token hquote hnext []).1
    rw [hbehind] at hleft
    cases hleft

end

theorem exists_tokens_ofText_append {s : Text} (hs : '"' ∉ s) :
    ∃ left, (ofText s).tokens = .ok left ∧ ∀ t,
      (ofText (s ++ ' ' :: t)).tokens = (ofText t).tokens.map (left ++ ·) := by
  have hquote : '"' ∉ (ofText s).rest := not_mem_quote_collapse hs
  obtain ⟨left, hleft, happend⟩ := exists_tokens_append hquote
  refine ⟨left, hleft, fun t => ?_⟩
  have hwords := Text.words_append_blank s t
  by_cases hempty : Text.words s = []
  · have hnone : (ofText s).tokens = .ok [] := by
      rw [ofText, collapse_of_words_eq_nil hempty, tokens_nil]
    rw [hempty, List.nil_append] at hwords
    rw [hnone, Except.ok.injEq] at hleft
    subst hleft
    rw [ofText, collapse_congr hwords, ← ofText]
    cases (ofText t).tokens <;> rfl
  · by_cases hblank : Text.words t = []
    · have hnone : (ofText t).tokens = .ok [] := by
        rw [ofText, collapse_of_words_eq_nil hblank, tokens_nil]
      rw [hblank, List.append_nil] at hwords
      rw [hnone, ofText, collapse_congr hwords, ← ofText, hleft]
      exact congrArg Except.ok (List.append_nil left).symm
    · rw [ofText, collapse_append_blank hempty hblank]
      exact happend (collapse t)

theorem tokens_ofText_and : (ofText ['&']).tokens = .ok [.and] := by
  have hnext : (ofText ['&']).next = (.ok (some .and), ⟨[], false⟩) := by decide
  rw [tokens_eq_of_next hnext, tokens_nil]
  rfl

theorem phrase_not_mem_of_tokens {query : Text} {tokens : List Token} (hquote : '"' ∉ query)
    (h : (ofText query).tokens = .ok tokens) (words : List Text) (distance : Option UInt32) :
    .phrase words distance ∉ tokens := by
  intro hmem
  have htext : '"' ∈ (Token.phrase words distance).text := by cases distance <;> simp [Token.text]
  exact not_mem_quote_collapse hquote ((tokens_lexed (tidy_ofText query) h).2 _ hmem htext)

end Lexer

def EndsOperand (tokens : List Token) : Prop :=
  (∃ word, tokens.getLast? = some (.term word)) ∨ tokens.getLast? = some .rightParen

def BeginsOperand (tokens : List Token) : Prop :=
  (∃ word, tokens.head? = some (.term word)) ∨ tokens.head? = some .not ∨
    tokens.head? = some .leftParen

section

variable {tokens : List Token}

theorem endsClosed_eq_true_iff (h : ∀ words distance, Token.phrase words distance ∉ tokens) :
    endsClosed false tokens = true ↔ EndsOperand tokens := by
  unfold endsClosed EndsOperand
  cases hlast : tokens.getLast? with
  | none => simp
  | some token =>
    cases token with
    | phrase words distance => exact absurd (List.mem_of_getLast? hlast) (h words distance)
    | term | and | or | not | leftParen | rightParen => simp [Token.closesOperand]

theorem opensOperand_head?_iff (h : ∀ words distance, Token.phrase words distance ∉ tokens) :
    tokens.head?.any Token.opensOperand = true ↔ BeginsOperand tokens := by
  unfold BeginsOperand
  cases hhead : tokens.head? with
  | none => simp
  | some token =>
    cases token with
    | phrase words distance => exact absurd (List.mem_of_head? hhead) (h words distance)
    | term | and | or | not | leftParen | rightParen => simp [Token.opensOperand]

theorem conjoin_eq_append (closed : Bool) (tokens : List Token) :
    conjoin closed tokens =
      (if closed && tokens.head?.any Token.opensOperand then [.and] else []) ++
        conjoin false tokens := by
  cases tokens with
  | nil => simp [conjoin]
  | cons token rest => by_cases h : closed && token.opensOperand <;> simp [conjoin, h]

theorem getLast?_conjoin (closed : Bool) (tokens : List Token) :
    (conjoin closed tokens).getLast? = tokens.getLast? := by
  induction tokens generalizing closed with
  | nil => rfl
  | cons token rest ih =>
    unfold conjoin
    split
    · rw [List.getLast?_cons_cons, List.getLast?_cons, ih, List.getLast?_cons]
    · rw [List.getLast?_cons, ih, List.getLast?_cons]

theorem withImpliedAnd_append_and (left right : List Token) :
    withImpliedAnd (left ++ .and :: right) = withImpliedAnd left ++ .and :: withImpliedAnd right := by
  simp only [withImpliedAnd_eq_conjoin, conjoin_append]
  simp [conjoin, Token.opensOperand, Token.closesOperand]

theorem withImpliedAnd_append {left right : List Token}
    (hleft : ∀ words distance, Token.phrase words distance ∉ left)
    (hright : ∀ words distance, Token.phrase words distance ∉ right) :
    (EndsOperand left ∧ BeginsOperand right →
      withImpliedAnd (left ++ right) = withImpliedAnd left ++ .and :: withImpliedAnd right) ∧
    (¬ (EndsOperand left ∧ BeginsOperand right) →
      withImpliedAnd (left ++ right) = withImpliedAnd left ++ withImpliedAnd right) := by
  rw [← endsClosed_eq_true_iff hleft, ← opensOperand_head?_iff hright]
  simp only [withImpliedAnd_eq_conjoin, conjoin_append]
  rw [conjoin_eq_append (endsClosed false left) right]
  constructor
  · rintro ⟨hends, hbegins⟩
    simp [hends, hbegins]
  · intro hnot
    rw [if_neg (by simpa using hnot), List.nil_append]

theorem head?_conjoin_false (tokens : List Token) :
    (conjoin false tokens).head? = tokens.head? := by
  cases tokens <;> rfl

theorem endsOperand_withImpliedAnd : EndsOperand (withImpliedAnd tokens) ↔ EndsOperand tokens := by
  unfold EndsOperand
  rw [withImpliedAnd_eq_conjoin, getLast?_conjoin]

theorem beginsOperand_withImpliedAnd :
    BeginsOperand (withImpliedAnd tokens) ↔ BeginsOperand tokens := by
  unfold BeginsOperand
  rw [withImpliedAnd_eq_conjoin, head?_conjoin_false]

end

/--
A query without quotes that stands in front of another one is read on its own. With `&` between the two,
this is all that is added; with a blank only, a conjunction is added exactly if one operand meets another,
so that `&` can be left out between operands.
-/
theorem tokenize_append {s t : Text} (hs : '"' ∉ s) (ht : '"' ∉ t) :
    ∃ left right, tokenize s = .ok left ∧ tokenize t = .ok right ∧
      tokenize (s ++ ' ' :: '&' :: ' ' :: t) = .ok (left ++ .and :: right) ∧
      (EndsOperand left ∧ BeginsOperand right →
        tokenize (s ++ ' ' :: t) = tokenize (s ++ ' ' :: '&' :: ' ' :: t)) ∧
      (¬ (EndsOperand left ∧ BeginsOperand right) →
        tokenize (s ++ ' ' :: t) = .ok (left ++ right)) := by
  obtain ⟨left, hleft, happend⟩ := Lexer.exists_tokens_ofText_append hs
  obtain ⟨right, hright, -⟩ := Lexer.exists_tokens_ofText_append ht
  obtain ⟨sign, hsign, hbehind⟩ := Lexer.exists_tokens_ofText_append (s := ['&']) (by decide)
  -- A phrase would keep the two queries from being read apart, so that quotes are excluded.
  obtain ⟨himplied, hapart⟩ := withImpliedAnd_append (Lexer.phrase_not_mem_of_tokens hs hleft)
    (Lexer.phrase_not_mem_of_tokens ht hright)
  rw [Lexer.tokens_ofText_and, Except.ok.injEq] at hsign
  have hsigned : tokenize (s ++ ' ' :: '&' :: ' ' :: t) =
      .ok (withImpliedAnd left ++ .and :: withImpliedAnd right) := by
    have hsecond := hbehind t
    rw [hright, ← hsign, List.singleton_append] at hsecond
    rw [tokenize, happend, hsecond, ← withImpliedAnd_append_and]
    rfl
  have hblank : tokenize (s ++ ' ' :: t) = .ok (withImpliedAnd (left ++ right)) := by
    rw [tokenize, happend, hright]
    rfl
  refine ⟨withImpliedAnd left, withImpliedAnd right, ?_, ?_, hsigned, ?_, ?_⟩
  · rw [tokenize, hleft]
    rfl
  · rw [tokenize, hright]
    rfl
  · rw [endsOperand_withImpliedAnd, beginsOperand_withImpliedAnd, hblank, hsigned]
    exact fun hmeet => congrArg Except.ok (himplied hmeet)
  · rw [endsOperand_withImpliedAnd, beginsOperand_withImpliedAnd, hblank]
    exact fun hmeet => congrArg Except.ok (hapart hmeet)

namespace GluedOperators

def front : Text := "(a&&&b)|!c\u00a0".toList

def back : Text := "\u2003!d||(e)&&".toList

def frontTokens : List Token :=
  [.leftParen, .term ['a'], .and, .and, .term ['b'], .rightParen, .or, .not, .term ['c']]

def backTokens : List Token :=
  [.not, .term ['d'], .or, .leftParen, .term ['e'], .rightParen, .and]

theorem read_one_behind_the_other :
    '"' ∉ front ∧ '"' ∉ back ∧
      tokenize (front ++ ' ' :: '&' :: ' ' :: back) = .ok (frontTokens ++ .and :: backTokens) ∧
      tokenize (front ++ ' ' :: back) = tokenize (front ++ ' ' :: '&' :: ' ' :: back) ∧
      tokenize (back ++ ' ' :: front) = .ok (backTokens ++ frontTokens) := by
  have hfront : '"' ∉ front := by decide
  have hback : '"' ∉ back := by decide
  have hfrontTokens : tokenize front = .ok frontTokens := by decide +kernel
  have hbackTokens : tokenize back = .ok backTokens := by decide +kernel
  obtain ⟨left, right, hleft, hright, hand, hmeet, -⟩ := tokenize_append hfront hback
  obtain ⟨left', right', hleft', hright', -, -, hapart⟩ := tokenize_append hback hfront
  rw [hfrontTokens, Except.ok.injEq] at hleft hright'
  rw [hbackTokens, Except.ok.injEq] at hright hleft'
  subst hleft hright hleft' hright'
  refine ⟨hfront, hback, hand, hmeet ⟨.inl ⟨['c'], rfl⟩, .inr (.inl rfl)⟩, hapart ?_⟩
  rintro ⟨⟨word, hword⟩ | hparen, -⟩
  · cases hword
  · cases hparen

end GluedOperators

end BooleanSearch
