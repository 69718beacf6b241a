import BooleanSearch.Proofs.Query.Lexing

/-!
This module contains the theorem that tokens are read back from a text that spells them, if the
quotes in them are those that the lexer itself leaves in its tokens.
-/

namespace BooleanSearch

namespace Token

variable {token : Token}

theorem eq_blank_or_of_mem_text {c : Char} (h : token.Legible) (hleaf : token.isLeaf = true)
    (hc : c ∈ token.text) : c = ' ' ∨ isWordBreak c = false := by
  cases token with
  | term word => exact .inr (h.1.2 c hc)
  | phrase words distance =>
    have hquote : isWordBreak '"' = false := by decide
    have hslash : isWordBreak '/' = false := by decide
    have hwords (hc : c ∈ Text.unwords words) : c = ' ' ∨ isWordBreak c = false := by
      cases Text.mem_unwords hc with
      | inl hblank => exact .inl hblank
      | inr hword =>
        obtain ⟨word, hword, hc⟩ := hword
        exact .inr ((h.2.1 word hword).2 c hc)
    have hdigits (n : Nat) (hc : c ∈ Text.decimal n) : isWordBreak c = false :=
      isWordBreak_of_isDigit (Text.isDigit_of_mem_decimal hc)
    cases distance <;> grind [Token.text]
  | and | or | not | leftParen | rightParen => cases hleaf

theorem not_mem_text_of_isReserved {c : Char} (h : token.Legible) (hleaf : token.isLeaf = true)
    (hc : isReserved c = true) : c ∉ token.text := by
  intro hmem
  cases eq_blank_or_of_mem_text h hleaf hmem with
  | inl hblank =>
    rw [hblank] at hc
    exact absurd hc (by decide)
  | inr hbreak => simp [isWordBreak, hc] at hbreak

theorem undoubled_text {c : Char} (h : token.Legible) (hc : isReserved c = true) :
    Text.Undoubled c token.text := by
  cases hleaf : token.isLeaf with
  | true => exact .of_not_mem (not_mem_text_of_isReserved h hleaf hc)
  | false =>
    cases token with
    | term | phrase => cases hleaf
    | and | or | not | leftParen | rightParen => exact List.isChain_singleton _

theorem spaced_text (h : token.Legible) : Text.Spaced token.text := by
  cases token with
  | term word => exact .word h.1.isWhiteSpace
  | phrase words distance =>
    obtain ⟨hne, hwords, -⟩ := h
    have hopen : Text.Spaced ['"'] := .word (.singleton rfl)
    have hbody := Text.Spaced.unwords hne fun word hword => .word (hwords word hword).isWhiteSpace
    cases distance with
    | none => exact hopen.append (hbody.append hopen)
    | some distance =>
      have hdigits : Text.Unbroken isWordBreak (Text.decimal distance.toNat) :=
        ⟨Text.decimal_ne_nil _, fun c hc => isWordBreak_of_isDigit (Text.isDigit_of_mem_decimal hc)⟩
      have hmark : Text.Spaced ('"' :: '/' :: Text.decimal distance.toNat) :=
        .word (.cons rfl (.cons rfl hdigits.isWhiteSpace))
      exact hopen.append (hbody.append hmark)
  | and | or | not | leftParen | rightParen => exact .word (.singleton rfl)

end Token

/--
A text that spells tokens, with any blanks between them. No operand is followed by another one.
-/
inductive Spells : List Token → Text → Prop where
  | nil : Spells [] []
  | blank {tokens text} (h : Spells tokens text) : Spells tokens (' ' :: text)
  | cons {token tokens text} (h : Spells tokens text)
    (hnext : token.isLeaf = true → ∀ next ∈ tokens.head?, next.isLeaf = false) :
    Spells (token :: tokens) (token.text ++ text)

def Stops (text : Text) : Prop := ∀ c ∈ (text.dropWhile (· == ' ')).head?, isReserved c = true

theorem exists_ofChar?_of_not_isLeaf {token : Token} (h : token.isLeaf = false) :
    ∃ c, token.text = [c] ∧ Token.ofChar? c = some token := by
  cases token with
  | term | phrase => cases h
  | and => exact ⟨'&', rfl, rfl⟩
  | or => exact ⟨'|', rfl, rfl⟩
  | not => exact ⟨'!', rfl, rfl⟩
  | leftParen => exact ⟨'(', rfl, rfl⟩
  | rightParen => exact ⟨')', rfl, rfl⟩

theorem dropWhile_blank_of_ne {c : Char} (h : c ≠ ' ') (rest : Text) :
    (c :: rest).dropWhile (· == ' ') = c :: rest :=
  List.dropWhile_cons_of_neg (by simpa using h)

theorem ne_blank_of_isReserved {c : Char} (h : isReserved c = true) : c ≠ ' ' := by
  rintro rfl
  exact absurd h (by decide)

theorem Spells.stops {tokens : List Token} {text : Text} (h : Spells tokens text)
    (hnext : ∀ next ∈ tokens.head?, next.isLeaf = false) : Stops text := by
  induction h with
  | nil => nofun
  | blank _ ih => exact ih hnext
  | @cons token tokens text h _ ih =>
    obtain ⟨c, hc, hsymbol⟩ := exists_ofChar?_of_not_isLeaf (hnext token rfl)
    have hreserved : isReserved c = true := by simp [isReserved, hsymbol]
    rw [hc, Stops, List.singleton_append, dropWhile_blank_of_ne (ne_blank_of_isReserved hreserved)]
    simpa using hreserved

namespace Lexer

variable {word text : Text}

theorem readWord_of_stops (h : Stops text) (quotesExhausted : Bool) :
    readWord quotesExhausted text = ([], ⟨text, quotesExhausted⟩) := by
  cases text with
  | nil => rfl
  | cons c rest =>
    have hbreak : c = ' ' ∨ isReserved c = true := by
      by_cases hblank : c = ' '
      · exact .inl hblank
      · exact .inr (h c (by simp [hblank]))
    simp only [readWord]
    rw [if_pos hbreak]

theorem letter_of_unbroken {c : Char} (h : isWordBreak c = false) : ¬ (c = ' ' ∨ isReserved c) := by
  rw [isWordBreak, Bool.or_eq_false_iff] at h
  rintro (rfl | hreserved)
  · revert h
    decide
  · simp [h.2] at hreserved

theorem cutPhrase_append_eq_none {c : Char} (hlone : Partnerless (c :: word))
    (hquote : '"' ∈ c :: word → '"' ∉ text) (hc : c = '"') : cutPhrase (word ++ text) = none := by
  rw [cutPhrase_eq_none_iff]
  have hword := hlone.1 hc
  have htext := hquote (hc ▸ List.mem_cons_self)
  cases word with
  | nil => exact fun hmem => htext (List.mem_of_mem_tail hmem)
  | cons d word => simp_all

theorem readWord_append (hletters : ∀ c ∈ word, isWordBreak c = false) (hlone : Partnerless word)
    (hstop : Stops text) (hquote : '"' ∈ word → '"' ∉ text) (quotesExhausted : Bool) :
    readWord quotesExhausted (word ++ text) =
      (word, ⟨text, quotesExhausted || word.contains '"'⟩) := by
  induction word generalizing quotesExhausted with
  | nil => simp [readWord_of_stops hstop]
  | cons c word ih =>
    rw [List.forall_mem_cons] at hletters
    rw [List.cons_append, readWord_cons (letter_of_unbroken hletters.1)
      (fun hc _ => cutPhrase_append_eq_none hlone hquote hc),
      ih hletters.2 hlone.2 (fun hmem => hquote (List.mem_cons_of_mem c hmem))]
    rw [List.contains_cons, Bool.or_assoc, BEq.comm (a := c)]

theorem next_symbol {token : Token} (h : token.isLeaf = false) (quotesExhausted : Bool) :
    next ⟨token.text ++ text, quotesExhausted⟩ = (.ok (some token), ⟨text, quotesExhausted⟩) := by
  obtain ⟨c, hc, hsymbol⟩ := exists_ofChar?_of_not_isLeaf h
  refine next_of_symbol ?_ hsymbol
  rw [hc]
  exact dropWhile_blank_of_ne (ne_blank_of_isReserved (by simp [isReserved, hsymbol])) text

theorem next_term (hlegible : (Token.term word).Legible) (hstop : Stops text)
    (hquote : '"' ∈ word → '"' ∉ text) (quotesExhausted : Bool) :
    next ⟨word ++ text, quotesExhausted⟩ =
      (.ok (some (.term word)), ⟨text, quotesExhausted || word.contains '"'⟩) := by
  obtain ⟨⟨hne, hletters⟩, hlone⟩ := hlegible
  have hword := readWord_append hletters hlone hstop hquote quotesExhausted
  cases word with
  | nil => exact absurd rfl hne
  | cons c word =>
    have hletter := letter_of_unbroken (hletters c List.mem_cons_self)
    have hdrop := dropWhile_blank_of_ne (not_or.mp hletter).1 (word ++ text)
    rw [List.cons_append] at hword ⊢
    rw [next_of_letter hdrop hletter (fun hc _ => cutPhrase_append_eq_none hlone hquote hc), hword]

theorem readDistance_of_stops (h : Stops text) : readDistance text = .ok (none, text) := by
  unfold readDistance
  split
  next behind hdrop =>
    have hslash : isReserved '/' = true := h '/' (by rw [hdrop]; rfl)
    exact absurd hslash (by decide)
  next => rfl

theorem isDigit_of_stops {c : Char} {rest : Text} (h : Stops (c :: rest)) : c.isDigit = false := by
  by_contra hdigit
  have hbreak := isWordBreak_of_isDigit (by simpa using hdigit)
  have hblank : c ≠ ' ' := by
    rintro rfl
    exact absurd hbreak (by decide)
  have hreserved : isReserved c = true := h c (by simp [hblank])
  simp [isWordBreak, hreserved] at hbreak

theorem readDistance_decimal (h : Stops text) (distance : UInt32) :
    readDistance ('/' :: (Text.decimal distance.toNat ++ text)) = .ok (some distance, text) := by
  have hdigits : ∀ c ∈ Text.decimal distance.toNat, c.isDigit = true :=
    fun c hc => Text.isDigit_of_mem_decimal hc
  have htext : text.takeWhile Char.isDigit = [] ∧ text.dropWhile Char.isDigit = text := by
    cases text with
    | nil => exact ⟨rfl, rfl⟩
    | cons c rest => simp [isDigit_of_stops h]
  unfold readDistance
  rw [dropWhile_blank_of_ne (by decide)]
  simp only [List.takeWhile_append_of_pos hdigits, List.dropWhile_append_of_pos hdigits, htext,
    List.append_nil]
  rw [if_neg (by simpa using Text.decimal_ne_nil distance.toNat),
    Text.unsigned?_decimal distance.toNat_lt]
  simp

theorem phraseWords_unwords {words : List Text}
    (h : ∀ word ∈ words, Text.Unbroken isWordBreak word) :
    phraseWords (Text.unwords words) = words := by
  rw [phraseWords_eq_wordsBetween]
  exact Text.wordsBetween_unwords (by decide) h

theorem readPhrase_unwords {words : List Text} {distance : Option UInt32} {behind : Text}
    (hlegible : (Token.phrase words distance).Legible)
    (hdistance : readDistance behind = .ok (distance, text)) :
    readPhrase (Text.unwords words) behind = (.ok (.phrase words distance), text) := by
  obtain ⟨hne, hwords, -⟩ := hlegible
  unfold readPhrase
  rw [phraseWords_unwords hwords, hdistance]
  cases words with
  | nil => exact absurd rfl hne
  | cons word words => rfl

theorem exists_phrase_text (words : List Text) (distance : Option UInt32) (hstop : Stops text) :
    ∃ behind, (Token.phrase words distance).text ++ text =
        '"' :: (Text.unwords words ++ '"' :: behind) ∧
      readDistance behind = .ok (distance, text) := by
  cases distance with
  | none => exact ⟨text, by simp [Token.text], readDistance_of_stops hstop⟩
  | some distance => exact ⟨_, by simp [Token.text], readDistance_decimal hstop distance⟩

theorem next_phrase {words : List Text} {distance : Option UInt32}
    (hlegible : (Token.phrase words distance).Legible) (hstop : Stops text) :
    next ⟨(Token.phrase words distance).text ++ text, false⟩ =
      (.ok (some (.phrase words distance)), ⟨text, false⟩) := by
  obtain ⟨behind, htext, hdistance⟩ := exists_phrase_text words distance hstop
  have hcut : cutPhrase (Text.unwords words ++ '"' :: behind) =
      some (Text.unwords words, behind) := by
    refine cutPhrase_eq_some_iff.mpr ⟨rfl, ?_, hlegible.2.2⟩
    obtain ⟨hne, hwords, -⟩ := hlegible
    exact (Text.Spaced.unwords hne fun word hword => .word (hwords word hword).isWhiteSpace).ne_nil
  rw [htext, next_of_phrase (dropWhile_blank_of_ne (by decide) _) rfl hcut,
    readPhrase_unwords hlegible hdistance]
  rfl

theorem next_append {token : Token} {quotesExhausted : Bool} (hlegible : token.Legible)
    (hstop : token.isLeaf = true → Stops text) (hflag : quotesExhausted = true → '"' ∉ token.text)
    (hquote : token.exhaustsQuotes = true → '"' ∉ text) :
    next ⟨token.text ++ text, quotesExhausted⟩ =
      (.ok (some token), ⟨text, quotesExhausted || token.exhaustsQuotes⟩) := by
  cases token with
  | term word =>
    exact next_term hlegible (hstop rfl) (fun hmem => hquote (by simpa [Token.exhaustsQuotes])) _
  | phrase words distance =>
    have hflag : quotesExhausted = false := by
      cases distance <;> simpa [Token.text] using hflag
    rw [hflag]
    exact next_phrase hlegible (hstop rfl)
  | and | or | not | leftParen | rightParen =>
    rw [next_symbol rfl]
    simp [Token.exhaustsQuotes]

theorem tokens_congr {lexer other : Lexer} (h : lexer.next = other.next) :
    lexer.tokens = other.tokens := by
  unfold tokens
  rw [h]

theorem tokens_of_next {lexer behind : Lexer} {token : Token} {tokens : List Token}
    (hnext : lexer.next = (.ok (some token), behind)) (h : behind.tokens = .ok tokens) :
    lexer.tokens = .ok (token :: tokens) := by
  unfold Lexer.tokens
  rw [hnext]
  simp only [h]

end Lexer

namespace Spells

variable {tokens : List Token} {text : Text}

theorem symbol {token : Token} {c : Char} (h : Spells tokens text)
    (hsymbol : Token.ofChar? c = some token) : Spells (token :: tokens) (c :: text) := by
  have hspells : Spells (token :: tokens) (token.text ++ text) :=
    .cons h (by simp [Token.isLeaf_of_ofChar? hsymbol])
  rwa [Token.text_of_ofChar? hsymbol] at hspells

theorem not_mem_quote (h : Spells tokens text) (hquote : ∀ token ∈ tokens, '"' ∉ token.text) :
    '"' ∉ text := by
  induction h with
  | nil => exact List.not_mem_nil
  | blank _ ih =>
    rw [List.mem_cons, not_or]
    exact ⟨by decide, ih hquote⟩
  | cons _ _ ih =>
    rw [List.forall_mem_cons] at hquote
    rw [List.mem_append, not_or]
    exact ⟨hquote.1, ih hquote.2⟩

theorem tokens_eq (h : Spells tokens text) (hlexed : Lexer.Lexed tokens) {quotesExhausted : Bool}
    (hflag : quotesExhausted = true → ∀ token ∈ tokens, '"' ∉ token.text) :
    Lexer.tokens ⟨text, quotesExhausted⟩ = .ok tokens := by
  induction h generalizing quotesExhausted with
  | nil =>
    unfold Lexer.tokens
    rfl
  | @blank tokens text h ih =>
    rw [← ih hlexed hflag]
    exact Lexer.tokens_congr rfl
  | @cons token tokens text h hnext ih =>
    obtain ⟨hlegible, hquotes⟩ := hlexed
    rw [List.forall_mem_cons] at hlegible
    rw [List.pairwise_cons] at hquotes
    have hmarks (hmarks : token.exhaustsQuotes = true) : ∀ later ∈ tokens, '"' ∉ later.text :=
      fun later hmem => hquotes.1 later hmem hmarks
    refine Lexer.tokens_of_next (Lexer.next_append hlegible.1 (fun hleaf => h.stops (hnext hleaf))
      (fun hexhausted => hflag hexhausted token List.mem_cons_self)
      (fun hexhausts => h.not_mem_quote (hmarks hexhausts))) ?_
    apply ih ⟨hlegible.2, hquotes.2⟩
    intro hexhausted later hmem
    rw [Bool.or_eq_true] at hexhausted
    cases hexhausted with
    | inl hexhausted => exact hflag hexhausted later (List.mem_cons_of_mem token hmem)
    | inr hexhausts => exact hmarks hexhausts later hmem

end Spells

end BooleanSearch
