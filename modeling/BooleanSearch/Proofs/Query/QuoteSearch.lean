import Mathlib.Logic.Relation
import BooleanSearch.Proofs.Query.Progress

/-!
This module contains the theorem that the flag of the lexer only saves time. The lexer that searches for
the closing partner of every quote is written out, and both yield the same. What carries this is a
property of the flag that each single move of the lexer keeps, also the moves inside of a word.
-/

namespace BooleanSearch.Lexer

namespace Searching

/--
The characters that continue a word and what is left behind them, if every quote is searched for its
partner.
-/
def readWord : Text → Text × Text
  | [] => ([], [])
  | c :: rest =>
    if c = ' ' ∨ isReserved c then
      ([], c :: rest)
    else if c = '"' ∧ (cutPhrase rest).isSome then
      ([], c :: rest)
    else
      let (word, behind) := readWord rest
      (c :: word, behind)

def next (text : Text) : Except Malformation (Option Token) × Text :=
  match text.dropWhile (· == ' ') with
  | [] => (.ok none, [])
  | c :: rest =>
    match Token.ofChar? c with
    | some token => (.ok (some token), rest)
    | none =>
      match if c = '"' then cutPhrase rest else none with
      | some (body, behind) =>
        let (token, rest) := readPhrase body behind
        (token.map some, rest)
      | none =>
        let (word, behind) := readWord rest
        (.ok (some (.term (c :: word))), behind)

def after : Nat → Text → Text
  | 0, text => text
  | calls + 1, text => after calls (next text).2

end Searching

inductive Place where
  | betweenTokens
  | inWord
  | behindPhrase
deriving DecidableEq

structure Stage where
  place : Place
  lexer : Lexer

def EndsWord (quotesExhausted : Bool) : Text → Prop
  | [] => True
  | c :: rest =>
    (c = ' ' ∨ isReserved c) ∨ c = '"' ∧ quotesExhausted = false ∧ (cutPhrase rest).isSome

/--
What the lexer does at a time. It moves over a character or a phrase, gives up the quotes where it stands,
or goes over to the next token.
-/
inductive Move : Stage → Stage → Prop where
  | blank {rest : Text} {flag : Bool} :
    Move ⟨.betweenTokens, ⟨' ' :: rest, flag⟩⟩ ⟨.betweenTokens, ⟨rest, flag⟩⟩
  | symbol {c : Char} {token : Token} {rest : Text} {flag : Bool}
    (hsymbol : Token.ofChar? c = some token) :
    Move ⟨.betweenTokens, ⟨c :: rest, flag⟩⟩ ⟨.betweenTokens, ⟨rest, flag⟩⟩
  | phrase {rest body behind : Text} (hcut : cutPhrase rest = some (body, behind))
    (hwords : phraseWords body ≠ []) :
    Move ⟨.betweenTokens, ⟨'"' :: rest, false⟩⟩ ⟨.behindPhrase, ⟨behind, false⟩⟩
  | emptyPhrase {rest body behind : Text} (hcut : cutPhrase rest = some (body, behind))
    (hwords : phraseWords body = []) :
    Move ⟨.betweenTokens, ⟨'"' :: rest, false⟩⟩ ⟨.betweenTokens, ⟨behind, false⟩⟩
  | distance {text rest : Text} {distance : Option UInt32} {flag : Bool}
    (hdistance : readDistance text = .ok (distance, rest)) :
    Move ⟨.behindPhrase, ⟨text, flag⟩⟩ ⟨.betweenTokens, ⟨rest, flag⟩⟩
  | outOfRange {text : Text} {malformation : Malformation} {flag : Bool}
    (hdistance : readDistance text = .error malformation) :
    Move ⟨.behindPhrase, ⟨text, flag⟩⟩ ⟨.betweenTokens, ⟨text, flag⟩⟩
  | giveUp {place : Place} {rest : Text} (hplace : place ≠ .behindPhrase)
    (hcut : cutPhrase rest = none) :
    Move ⟨place, ⟨'"' :: rest, false⟩⟩ ⟨place, ⟨'"' :: rest, true⟩⟩
  | letter {place : Place} {c : Char} {rest : Text} {flag : Bool} (hplace : place ≠ .behindPhrase)
    (hc : ¬ (c = ' ' ∨ isReserved c)) (hquote : c = '"' → flag = true) :
    Move ⟨place, ⟨c :: rest, flag⟩⟩ ⟨.inWord, ⟨rest, flag⟩⟩
  | wordEnd {text : Text} {flag : Bool} (hend : EndsWord flag text) :
    Move ⟨.inWord, ⟨text, flag⟩⟩ ⟨.betweenTokens, ⟨text, flag⟩⟩

abbrev Moves : Stage → Stage → Prop := Relation.ReflTransGen Move

def Reached (query : Text) (stage : Stage) : Prop := Moves ⟨.betweenTokens, ofText query⟩ stage

/--
Where the flag is set, no quote is left two or more places further on, so that a search would be in vain.
-/
def Truthful (lexer : Lexer) : Prop := lexer.quotesExhausted = true → '"' ∉ lexer.rest.drop 2

variable {lexer : Lexer} {stage stage' : Stage} {place : Place} {quotesExhausted : Bool}
  {text rest body behind : Text} {c : Char}

theorem Truthful.of_suffix (h : Truthful ⟨text, quotesExhausted⟩) (hsuffix : rest <:+ text) :
    Truthful ⟨rest, quotesExhausted⟩ := by
  obtain ⟨front, rfl⟩ := hsuffix
  intro hflag hmem
  have hdrop : rest.drop 2 = ((front ++ rest).drop 2).drop front.length := by
    rw [List.drop_drop, Nat.add_comm, List.drop_length_add_append]
  rw [hdrop] at hmem
  exact h hflag (List.mem_of_mem_drop hmem)

theorem truthful_iff_cutPhrase : Truthful ⟨'"' :: rest, true⟩ ↔ cutPhrase rest = none := by
  rw [cutPhrase_eq_none_iff, ← List.drop_one]
  exact ⟨fun h => h rfl, fun h _ => h⟩

namespace Move

theorem suffix (hmove : Move stage stage') : stage'.lexer.rest <:+ stage.lexer.rest := by
  cases hmove with
  | blank | symbol | letter => exact List.suffix_cons _ _
  | phrase hcut | emptyPhrase hcut => exact suffix_of_cutPhrase hcut
  | distance hdistance => exact suffix_of_readDistance hdistance
  | outOfRange | giveUp | wordEnd => exact List.suffix_rfl

theorem truthful (hmove : Move stage stage') (h : stage.lexer.Truthful) :
    stage'.lexer.Truthful := by
  have hsuffix := hmove.suffix
  cases hmove with
  | giveUp hplace hcut =>
    -- The one move that sets the flag comes right behind the search that found nothing.
    exact truthful_iff_cutPhrase.mpr hcut
  | phrase | emptyPhrase => exact nofun
  | blank | symbol | distance | outOfRange | letter | wordEnd => exact h.of_suffix hsuffix

end Move

theorem Moves.keeps (hmoves : Moves stage stage') (h : stage.lexer.Truthful) :
    stage'.lexer.rest <:+ stage.lexer.rest ∧ stage'.lexer.Truthful := by
  induction hmoves with
  | refl => exact ⟨List.suffix_rfl, h⟩
  | tail _ hmove ih => exact ⟨hmove.suffix.trans ih.1, hmove.truthful ih.2⟩

/-! A call for the next token is made of moves. -/

theorem moves_blanks (text : Text) (quotesExhausted : Bool) :
    Moves ⟨.betweenTokens, ⟨text, quotesExhausted⟩⟩
      ⟨.betweenTokens, ⟨text.dropWhile (· == ' '), quotesExhausted⟩⟩ := by
  induction text with
  | nil => exact .refl
  | cons c rest ih =>
    by_cases hc : c = ' '
    · subst hc
      exact ih.head .blank
    · rw [List.dropWhile_cons_of_neg (by simpa using hc)]

theorem moves_letter (hplace : place ≠ .behindPhrase) (hc : ¬ (c = ' ' ∨ isReserved c))
    (hquote : c = '"' → quotesExhausted = false → cutPhrase rest = none) :
    Moves ⟨place, ⟨c :: rest, quotesExhausted⟩⟩
      ⟨.inWord, ⟨rest, quotesExhausted || c == '"'⟩⟩ := by
  -- Over a quote without a partner it takes two moves, of which the first sets the flag.
  by_cases hlone : c = '"' ∧ quotesExhausted = false
  · obtain ⟨rfl, rfl⟩ := hlone
    have hletter : Move ⟨place, ⟨'"' :: rest, true⟩⟩ ⟨.inWord, ⟨rest, true⟩⟩ :=
      .letter hplace hc fun _ => rfl
    exact .head (.giveUp hplace (hquote rfl rfl)) (.single hletter)
  · rw [exhausted_or_quote hlone]
    exact .single (.letter hplace hc fun heq => by simpa [heq] using hlone)

theorem moves_word (quotesExhausted : Bool) (text : Text) :
    Moves ⟨.inWord, ⟨text, quotesExhausted⟩⟩
      ⟨.betweenTokens, (readWord quotesExhausted text).2⟩ := by
  fun_induction readWord quotesExhausted text with
  | case1 quotesExhausted => exact .single (.wordEnd trivial)
  | case2 quotesExhausted c rest hbreak => exact .single (.wordEnd (.inl hbreak))
  | case3 quotesExhausted c rest hletter hquote hpartner =>
    exact .single (.wordEnd (.inr ⟨hquote.1, hquote.2, hpartner⟩))
  | case4 quotesExhausted c rest hletter hquote hpartner word lexer heq ih =>
    obtain ⟨rfl, rfl⟩ := hquote
    have hcut : cutPhrase rest = none := by simpa using hpartner
    have hmoves : Moves ⟨.inWord, ⟨'"' :: rest, false⟩⟩ ⟨.inWord, ⟨rest, true⟩⟩ :=
      moves_letter (by decide) hletter fun _ _ => hcut
    rw [heq] at ih
    exact hmoves.trans ih
  | case5 quotesExhausted c rest hletter hquote word lexer heq ih =>
    rw [heq] at ih
    refine .head (.letter (by decide) hletter fun hc => ?_) ih
    simpa [hc] using hquote

theorem moves_phrase (hflag : quotesExhausted = false)
    (hcut : cutPhrase rest = some (body, behind)) :
    Moves ⟨.betweenTokens, ⟨'"' :: rest, quotesExhausted⟩⟩
      ⟨.betweenTokens, ⟨(readPhrase body behind).2, false⟩⟩ := by
  subst hflag
  unfold readPhrase
  split
  next hwords => exact .single (.emptyPhrase hcut hwords)
  next hwords =>
    have hphrase := Relation.ReflTransGen.single (Move.phrase hcut hwords)
    split
    next distance rest hdistance => exact hphrase.tail (.distance hdistance)
    next malformation hdistance => exact hphrase.tail (.outOfRange hdistance)

theorem moves_next (lexer : Lexer) :
    Moves ⟨.betweenTokens, lexer⟩ ⟨.betweenTokens, lexer.next.2⟩ := by
  have hblanks := moves_blanks lexer.rest lexer.quotesExhausted
  obtain ⟨_, hrun⟩ : ∃ result, NextRun lexer result := ⟨_, lexer.next_run⟩
  cases hrun with
  | atEnd hdrop =>
    rw [hdrop] at hblanks
    rw [next_of_nil hdrop]
    exact hblanks
  | symbol hdrop hsymbol =>
    rw [hdrop] at hblanks
    rw [next_of_symbol hdrop hsymbol]
    exact hblanks.tail (.symbol hsymbol)
  | phrase hdrop hflag hcut | malformed hdrop hflag hcut =>
    rw [hdrop] at hblanks
    rw [next_of_phrase hdrop hflag hcut]
    exact hblanks.trans (moves_phrase hflag hcut)
  | word hdrop hc hquote =>
    rw [hdrop] at hblanks
    rw [next_of_letter hdrop hc hquote, readWord_cons hc hquote]
    exact (hblanks.trans (moves_letter (by decide) hc hquote)).trans (moves_word _ _)

theorem reached_after (query : Text) (calls : Nat) :
    Reached query ⟨.betweenTokens, after calls (ofText query)⟩ := by
  have hafter (lexer : Lexer) :
      Moves ⟨.betweenTokens, lexer⟩ ⟨.betweenTokens, after calls lexer⟩ := by
    induction calls generalizing lexer with
    | zero => exact .refl
    | succ calls ih => exact (moves_next lexer).trans (ih lexer.next.2)
  exact hafter (ofText query)

theorem truthful_next (h : lexer.Truthful) : lexer.next.2.Truthful :=
  ((moves_next lexer).keeps h).2

/-! Where the flag is truthful, it makes no difference whether it is asked. -/

theorem Searching.readWord_cons (hc : ¬ (c = ' ' ∨ isReserved c))
    (hquote : c = '"' → cutPhrase rest = none) :
    readWord (c :: rest) = (c :: (readWord rest).1, (readWord rest).2) := by
  have hpartner : ¬ (c = '"' ∧ (cutPhrase rest).isSome) := by
    rintro ⟨heq, hsome⟩
    rw [hquote heq] at hsome
    cases hsome
  simp only [readWord, if_neg hc, if_neg hpartner]

theorem Truthful.cutPhrase_of_quote (h : Truthful ⟨c :: rest, quotesExhausted⟩)
    (hquote : c = '"' → quotesExhausted = false → cutPhrase rest = none) (hc : c = '"') :
    cutPhrase rest = none := by
  subst hc
  cases quotesExhausted with
  | false => exact hquote rfl rfl
  | true => exact truthful_iff_cutPhrase.mp h

theorem readWord_eq_searching (h : Truthful ⟨text, quotesExhausted⟩) :
    (readWord quotesExhausted text).1 = (Searching.readWord text).1 ∧
      (readWord quotesExhausted text).2.rest = (Searching.readWord text).2 := by
  -- The flag spares a search in the last case only, at a quote behind one that has no partner.
  fun_induction readWord quotesExhausted text with
  | case1 quotesExhausted => exact ⟨rfl, rfl⟩
  | case2 quotesExhausted c rest hbreak => simp [Searching.readWord, hbreak]
  | case3 quotesExhausted c rest hletter hquote hpartner =>
    simp [Searching.readWord, hquote.1, hpartner]
  | case4 quotesExhausted c rest hletter hquote hpartner word lexer heq ih =>
    obtain ⟨rfl, rfl⟩ := hquote
    have hcut : cutPhrase rest = none := by simpa using hpartner
    have hrest := (truthful_iff_cutPhrase.mpr hcut).of_suffix (List.suffix_cons _ rest)
    rw [Searching.readWord_cons hletter fun _ => hcut]
    rw [heq] at ih
    exact ⟨congrArg ('"' :: ·) (ih hrest).1, (ih hrest).2⟩
  | case5 quotesExhausted c rest hletter hquote word lexer heq ih =>
    have hrest := h.of_suffix (List.suffix_cons c rest)
    rw [Searching.readWord_cons hletter (h.cutPhrase_of_quote fun hc hflag =>
      absurd ⟨hc, hflag⟩ hquote)]
    rw [heq] at ih
    exact ⟨congrArg (c :: ·) (ih hrest).1, (ih hrest).2⟩

theorem next_eq_searching (h : lexer.Truthful) :
    lexer.next.1 = (Searching.next lexer.rest).1 ∧
      lexer.next.2.rest = (Searching.next lexer.rest).2 := by
  have hblanks : lexer.rest.dropWhile (· == ' ') <:+ lexer.rest := List.dropWhile_suffix _
  obtain ⟨_, hrun⟩ : ∃ result, NextRun lexer result := ⟨_, lexer.next_run⟩
  unfold Searching.next
  cases hrun with
  | atEnd hdrop =>
    rw [next_of_nil hdrop, hdrop]
    exact ⟨rfl, rfl⟩
  | symbol hdrop hsymbol =>
    rw [next_of_symbol hdrop hsymbol, hdrop]
    simp only [hsymbol, and_self]
  | phrase hdrop hflag hcut | malformed hdrop hflag hcut =>
    have hsymbol : Token.ofChar? '"' = none := rfl
    rw [next_of_phrase hdrop hflag hcut, hdrop]
    simp only [hsymbol, ↓reduceIte, hcut, and_self]
  | @word c rest _ _ hdrop hc hquote =>
    rw [hdrop] at hblanks
    have hrest : Truthful ⟨c :: rest, lexer.quotesExhausted⟩ := h.of_suffix hblanks
    have hcut := hrest.cutPhrase_of_quote hquote
    have hword := readWord_eq_searching hrest
    rw [Searching.readWord_cons hc hcut] at hword
    rw [next_of_letter hdrop hc hquote, hdrop]
    simp only [Token.ofChar?_of_letter hc, ite_eq_right_iff.mpr hcut, hword, and_self]

theorem after_eq_searching (h : lexer.Truthful) (calls : Nat) :
    (after calls lexer).rest = Searching.after calls lexer.rest := by
  induction calls generalizing lexer with
  | zero => rfl
  | succ calls ih =>
    unfold after Searching.after
    rw [ih (truthful_next h), (next_eq_searching h).2]

theorem Reached.truthful {query : Text} (h : Reached query stage) :
    stage.lexer.rest <:+ collapse query ∧ stage.lexer.Truthful :=
  h.keeps nofun

/--
Searching for the partner of every quote yields the same tokens and errors and leaves the same, call for
call. Wherever the lexer is in its reading, between two tokens or inside of one, a flag that is set says
that no quote stands two or more places further on.
-/
theorem flag_only_saves_searches (query : Text) :
    (∀ calls, Reached query ⟨.betweenTokens, after calls (ofText query)⟩ ∧
      (after calls (ofText query)).rest = Searching.after calls (collapse query) ∧
      (after calls (ofText query)).next.1 =
        (Searching.next (Searching.after calls (collapse query))).1) ∧
    ∀ stage, Reached query stage → ∃ read, collapse query = read ++ stage.lexer.rest ∧
      (stage.lexer.quotesExhausted = true →
        ∀ position, read.length + 2 ≤ position → (collapse query)[position]? ≠ some '"') := by
  have htruthful : (ofText query).Truthful := nofun
  constructor
  · intro calls
    have hreached := reached_after query calls
    have hrest : (after calls (ofText query)).rest = Searching.after calls (collapse query) :=
      after_eq_searching htruthful calls
    refine ⟨hreached, hrest, ?_⟩
    rw [← hrest]
    exact (next_eq_searching hreached.truthful.2).1
  · intro stage hreached
    obtain ⟨⟨read, hread⟩, htrue⟩ := hreached.truthful
    refine ⟨read, hread.symm, fun hflag position hposition hquote => htrue hflag ?_⟩
    rw [← hread, List.getElem?_append_right (by omega)] at hquote
    apply List.mem_of_getElem? (i := position - read.length - 2)
    rw [List.getElem?_drop]
    convert hquote using 2
    omega

end BooleanSearch.Lexer

namespace BooleanSearch.AdjacentQuotes

open Lexer

def query : Text := "\"()\" x\"\" y".toList

def givenUp : Stage := ⟨.inWord, ⟨"\"\" y".toList, true⟩⟩

theorem reached_givenUp : Reached query givenUp := by
  have hafter : after 1 (ofText query) = ⟨" x\"\" y".toList, false⟩ := by decide +kernel
  have hstart := reached_after query 1
  rw [hafter] at hstart
  have hletter : Move ⟨.betweenTokens, ⟨"x\"\" y".toList, false⟩⟩
      ⟨.inWord, ⟨"\"\" y".toList, false⟩⟩ :=
    .letter (by decide) (by decide) nofun
  exact ((hstart.tail .blank).tail hletter).tail (.giveUp (by decide) (by decide))

theorem no_quote_behind_second :
    Reached query givenUp ∧ query[6]? = some '"' ∧ query[7]? = some '"' ∧
      (∀ position, 8 ≤ position → query[position]? ≠ some '"') ∧
      (after 1 (ofText query)).next.1 = .ok (some (.term "x\"\"".toList)) ∧
      (Searching.next (Searching.after 1 query)).1 = .ok (some (.term "x\"\"".toList)) := by
  have hcollapse : collapse query = query := by decide +kernel
  obtain ⟨hcalls, hstages⟩ := flag_only_saves_searches query
  rw [hcollapse] at hcalls hstages
  have hfirst : (after 1 (ofText query)).next.1 = .ok (some (.term "x\"\"".toList)) := by
    decide +kernel
  obtain ⟨read, hread, hquote⟩ := hstages givenUp reached_givenUp
  have hlength : read.length = 6 := by
    have hlengths := congrArg List.length hread
    rw [List.length_append] at hlengths
    have hquery : query.length = 10 := rfl
    have hrest : givenUp.lexer.rest.length = 4 := rfl
    omega
  refine ⟨reached_givenUp, rfl, rfl, fun position hposition => ?_, hfirst, ?_⟩
  · exact hquote rfl position (by omega)
  · rw [← (hcalls 1).2.2, hfirst]

end BooleanSearch.AdjacentQuotes
