import BooleanSearch.Text.WhiteSpace
import BooleanSearch.Query.Malformation

/-!
This module contains the lexer of boolean queries. It works on collapsed text, where single blanks
separate the words and no operator is doubled, and yields one token after the other. A conjunction
that is only implied by two operands standing next to each other is added when a whole query is
split into tokens.
-/

namespace BooleanSearch

/--
What is left to be read of a query.
-/
structure Lexer where
  rest : Text
  /--
  Set once a quote has no closing partner. No later quote can have one either, so that none is
  searched for any more.
  -/
  quotesExhausted : Bool
deriving DecidableEq, Repr

namespace Lexer

def collapse (query : Text) : Text :=
  Text.foldPairs '|' (Text.foldPairs '&' (Text.unwords (Text.words query)))

def ofText (query : Text) : Lexer := ⟨collapse query, false⟩

def isAtEnd (lexer : Lexer) : Bool := lexer.rest.isEmpty

def cutAtQuote : Text → Option (Text × Text)
  | [] => none
  | c :: rest =>
    if c = '"' then
      some ([], rest)
    else
      match cutAtQuote rest with
      | some (before, behind) => some (c :: before, behind)
      | none => none

/--
Given what stands behind an opening quote, the body of the phrase and what stands behind its closing
quote. The body holds at least one character, so the character behind the opening quote never closes
the phrase.
-/
def cutPhrase : Text → Option (Text × Text)
  | [] => none
  | first :: rest =>
    match cutAtQuote rest with
    | some (body, behind) => some (first :: body, behind)
    | none => none

/--
The distance that may follow a phrase, `/` and digits, and what is left behind it. Without digits
there is no distance, and nothing is consumed.
-/
def readDistance (text : Text) : Except Malformation (Option UInt32 × Text) :=
  match text.dropWhile (· == ' ') with
  | '/' :: behind =>
    let digits := behind.takeWhile Char.isDigit
    if digits.isEmpty then
      .ok (none, text)
    else
      match Text.unsigned? UInt32.size digits with
      | some distance => .ok (some (UInt32.ofNat distance), behind.dropWhile Char.isDigit)
      | none => .error (.distanceOutOfRange digits)
  | _ => .ok (none, text)

/--
The words of the body of a phrase. Reserved characters only separate words there.
-/
def phraseWords (body : Text) : List Text :=
  Text.words (body.map fun c => if isReserved c then ' ' else c)

/--
Read the phrase with the given body and its distance. On failure everything up to the closing quote
has been consumed.
-/
def readPhrase (body behind : Text) : Except Malformation Token × Text :=
  match phraseWords body with
  | [] => (.error .emptyPhrase, behind)
  | words =>
    match readDistance behind with
    | .ok (distance, rest) => (.ok (.phrase words distance), rest)
    | .error malformation => (.error malformation, behind)

/--
The characters that continue a word, and the state of the lexer behind them. A quote ends the word
if it has a closing partner and is part of it if not.
-/
def readWord (quotesExhausted : Bool) : Text → Text × Lexer
  | [] => ([], ⟨[], quotesExhausted⟩)
  | c :: rest =>
    if c = ' ' ∨ isReserved c then
      ([], ⟨c :: rest, quotesExhausted⟩)
    else if c = '"' ∧ quotesExhausted = false then
      if (cutPhrase rest).isSome then
        ([], ⟨c :: rest, quotesExhausted⟩)
      else
        let (word, lexer) := readWord true rest
        (c :: word, lexer)
    else
      let (word, lexer) := readWord quotesExhausted rest
      (c :: word, lexer)

/--
Read the next token, without implied conjunctions. At the end there is none. The lexer can go on
behind an error.
-/
def next (lexer : Lexer) : Except Malformation (Option Token) × Lexer :=
  match lexer.rest.dropWhile (· == ' ') with
  | [] => (.ok none, ⟨[], lexer.quotesExhausted⟩)
  | c :: rest =>
    match Token.ofChar? c with
    | some token => (.ok (some token), ⟨rest, lexer.quotesExhausted⟩)
    | none =>
      if c = '"' ∧ lexer.quotesExhausted = false then
        match cutPhrase rest with
        | some (body, behind) =>
          let (token, rest) := readPhrase body behind
          (token.map some, ⟨rest, lexer.quotesExhausted⟩)
        | none =>
          let (word, lexer) := readWord true rest
          (.ok (some (.term (c :: word))), lexer)
      else
        let (word, lexer) := readWord lexer.quotesExhausted rest
        (.ok (some (.term (c :: word))), lexer)

theorem length_dropWhile_le {p : Char → Bool} (text : Text) :
    (text.dropWhile p).length ≤ text.length :=
  (List.dropWhile_sublist p).length_le

theorem length_of_cutAtQuote {text before behind : Text}
    (h : cutAtQuote text = some (before, behind)) : behind.length < text.length := by
  induction text generalizing before with
  | nil => simp [cutAtQuote] at h
  | cons c rest ih =>
    unfold cutAtQuote at h
    split at h
    · simp at h
      simp [h.2]
    · split at h <;> simp at h
      next heq =>
        obtain ⟨rfl, rfl⟩ := h
        have := ih heq
        simp only [List.length_cons]
        omega

theorem length_of_cutPhrase {text body behind : Text}
    (h : cutPhrase text = some (body, behind)) : behind.length < text.length := by
  cases text with
  | nil => simp [cutPhrase] at h
  | cons first rest =>
    simp only [cutPhrase] at h
    split at h <;> simp at h
    next heq =>
      obtain ⟨rfl, rfl⟩ := h
      have := length_of_cutAtQuote heq
      simp only [List.length_cons]
      omega

theorem length_of_readDistance {text rest : Text} {distance : Option UInt32}
    (h : readDistance text = .ok (distance, rest)) : rest.length ≤ text.length := by
  unfold readDistance at h
  split at h
  next behind heq =>
    have hle : (text.dropWhile (· == ' ')).length ≤ text.length := length_dropWhile_le text
    rw [heq] at hle
    have hdigits : (behind.dropWhile Char.isDigit).length ≤ behind.length :=
      length_dropWhile_le behind
    simp only [List.length_cons] at hle
    simp only at h
    split at h
    · simp at h
      simp [← h.2]
    · split at h <;> simp at h
      rw [← h.2]
      omega
  · simp at h
    simp [← h.2]

theorem length_readPhrase_le (body behind : Text) :
    (readPhrase body behind).2.length ≤ behind.length := by
  unfold readPhrase
  split
  · simp
  · split
    next heq => exact length_of_readDistance heq
    · simp

theorem length_readWord_le (quotesExhausted : Bool) (text : Text) :
    (readWord quotesExhausted text).2.rest.length ≤ text.length := by
  induction text generalizing quotesExhausted with
  | nil => simp [readWord]
  | cons c rest ih =>
    have htrue := ih true
    have hflag := ih quotesExhausted
    unfold readWord
    split
    · simp
    · split
      · split
        · simp
        · simp only [List.length_cons]
          omega
      · simp only [List.length_cons]
        omega

theorem length_next_lt {lexer : Lexer} (h : lexer.next.1 ≠ .ok none) :
    lexer.next.2.rest.length < lexer.rest.length := by
  have hle : (lexer.rest.dropWhile (· == ' ')).length ≤ lexer.rest.length :=
    length_dropWhile_le lexer.rest
  unfold next at h ⊢
  split
  next heq =>
    rw [heq] at h
    simp at h
  next c rest heq =>
    rw [heq] at hle
    simp only [List.length_cons] at hle
    split
    · simp only
      omega
    · split
      · split
        next body behind hcut =>
          have hbehind := length_of_cutPhrase hcut
          have hphrase := length_readPhrase_le body behind
          simp only
          omega
        · have hword := length_readWord_le true rest
          simp only
          omega
      · have hword := length_readWord_le lexer.quotesExhausted rest
        simp only
        omega

def tokens (lexer : Lexer) : Except Malformation (List Token) :=
  match _h : lexer.next with
  | (.error malformation, _) => .error malformation
  | (.ok none, _) => .ok []
  | (.ok (some token), behind) =>
    match tokens behind with
    | .ok rest => .ok (token :: rest)
    | .error malformation => .error malformation
termination_by lexer.rest.length
decreasing_by
  have := @length_next_lt lexer (by simp [_h])
  simpa [_h] using this

def trace (lexer : Lexer) : List (Except Malformation Token × Lexer) :=
  match _h : lexer.next with
  | (.ok none, _) => []
  | (.ok (some token), behind) => (.ok token, behind) :: trace behind
  | (.error malformation, behind) => (.error malformation, behind) :: trace behind
termination_by lexer.rest.length
decreasing_by
  all_goals
    have := @length_next_lt lexer (by simp [_h])
    simpa [_h] using this

end Lexer

def withImpliedAnd : List Token → List Token
  | [] => []
  | [token] => [token]
  | token :: next :: rest =>
    if token.closesOperand && next.opensOperand then
      token :: .and :: withImpliedAnd (next :: rest)
    else
      token :: withImpliedAnd (next :: rest)

def tokenize (query : Text) : Except Malformation (List Token) :=
  (Lexer.ofText query).tokens.map withImpliedAnd

end BooleanSearch
