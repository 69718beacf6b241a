import BooleanSearch.Proofs.Query.Collapse

/-!
This module contains the shape of the tokens that the lexer yields, and of the quotes in them. A
quote is part of a word only if it has no closing partner, and from then on there are no quotes but,
at most, the one right behind it.
-/

namespace BooleanSearch

def isWordBreak (c : Char) : Bool := Text.isWhiteSpace c || isReserved c

theorem eq_of_isReserved {c : Char} (h : isReserved c = true) :
    c = '&' ∨ c = '|' ∨ c = '!' ∨ c = '(' ∨ c = ')' := by
  unfold isReserved Token.ofChar? at h
  split at h <;> simp_all

theorem isWordBreak_of_isDigit {c : Char} (h : c.isDigit = true) : isWordBreak c = false := by
  have hreserved : isReserved c = false := by
    by_contra hreserved
    rcases eq_of_isReserved (by simpa using hreserved) with rfl | rfl | rfl | rfl | rfl <;> cases h
  simp only [Char.isDigit, Bool.and_eq_true, decide_eq_true_eq] at h
  have hlower : 48 ≤ c.toNat := h.1
  have hupper : c.toNat ≤ 57 := h.2
  have hspace : Text.isWhiteSpace c = false := by
    simp [Text.isWhiteSpace]
    omega
  rw [isWordBreak, hspace, hreserved, Bool.or_false]

theorem Text.Unbroken.isWhiteSpace {word : Text} (h : Unbroken isWordBreak word) :
    Unbroken isWhiteSpace word :=
  ⟨h.1, fun c hc => (Bool.or_eq_false_iff.mp (h.2 c hc)).1⟩

/--
No quote is followed by another one that stands two or more positions further on.
-/
def Partnerless : Text → Prop
  | [] => True
  | c :: rest => (c = '"' → '"' ∉ rest.tail) ∧ Partnerless rest

namespace Token

def Legible : Token → Prop
  | term word => Text.Unbroken isWordBreak word ∧ Partnerless word
  | phrase words _ =>
    words ≠ [] ∧ (∀ word ∈ words, Text.Unbroken isWordBreak word) ∧
      '"' ∉ (Text.unwords words).tail
  | _ => True

def exhaustsQuotes : Token → Bool
  | term word => word.contains '"'
  | _ => false

variable {token : Token}

theorem ofChar?_of_letter {c : Char} (hc : ¬ (c = ' ' ∨ isReserved c)) : ofChar? c = none := by
  simp only [isReserved, not_or, Bool.not_eq_true, Option.isSome_eq_false_iff] at hc
  simpa using hc.2

theorem isLeaf_of_ofChar? {c : Char} (h : ofChar? c = some token) : token.isLeaf = false := by
  unfold ofChar? at h
  split at h <;> cases h <;> rfl

theorem legible_of_not_isLeaf (h : token.isLeaf = false) : token.Legible := by
  cases token with
  | term | phrase => cases h
  | and | or | not | leftParen | rightParen => trivial

theorem isLeaf_of_exhaustsQuotes (h : token.exhaustsQuotes = true) : token.isLeaf = true := by
  cases token with
  | term => rfl
  | phrase | and | or | not | leftParen | rightParen => cases h

theorem not_mem_quote_of_not_isLeaf (h : token.isLeaf = false) : '"' ∉ token.text := by
  cases token with
  | term | phrase => cases h
  | and | or | not | leftParen | rightParen => decide

end Token

namespace Lexer

theorem cutAtQuote_eq_none_iff {text : Text} : cutAtQuote text = none ↔ '"' ∉ text := by
  induction text with
  | nil => simp [cutAtQuote]
  | cons c rest ih =>
    unfold cutAtQuote
    split
    next hquote => simp [hquote]
    next hquote => split <;> grind

theorem cutAtQuote_eq_some_iff {text before behind : Text} :
    cutAtQuote text = some (before, behind) ↔ text = before ++ '"' :: behind ∧ '"' ∉ before := by
  induction text generalizing before with
  | nil => simp [cutAtQuote]
  | cons c rest ih =>
    unfold cutAtQuote
    split
    next hquote =>
      subst hquote
      cases before <;> grind
    next hquote =>
      cases before with
      | nil => split <;> grind
      | cons d before =>
        have hrest := @ih before
        split <;> grind

theorem cutPhrase_eq_none_iff {text : Text} : cutPhrase text = none ↔ '"' ∉ text.tail := by
  cases text with
  | nil => simp [cutPhrase]
  | cons first rest =>
    rw [List.tail_cons, ← cutAtQuote_eq_none_iff]
    simp only [cutPhrase]
    cases cutAtQuote rest <;> simp

theorem cutPhrase_eq_some_iff {text body behind : Text} :
    cutPhrase text = some (body, behind) ↔
      text = body ++ '"' :: behind ∧ body ≠ [] ∧ '"' ∉ body.tail := by
  cases text with
  | nil => simp [cutPhrase]
  | cons first rest =>
    cases body with
    | nil =>
      simp only [cutPhrase]
      split <;> simp
    | cons d body =>
      have hcut := @cutAtQuote_eq_some_iff rest body behind
      simp only [cutPhrase]
      split <;> grind

theorem exhausted_or_quote {quotesExhausted : Bool} {c : Char}
    (h : ¬ (c = '"' ∧ quotesExhausted = false)) :
    (quotesExhausted || c == '"') = quotesExhausted := by
  cases quotesExhausted with
  | true => rfl
  | false => simpa using h

theorem readWord_cons {quotesExhausted : Bool} {c : Char} {rest : Text}
    (hc : ¬ (c = ' ' ∨ isReserved c))
    (hquote : c = '"' → quotesExhausted = false → cutPhrase rest = none) :
    readWord quotesExhausted (c :: rest) =
      (c :: (readWord (quotesExhausted || c == '"') rest).1,
        (readWord (quotesExhausted || c == '"') rest).2) := by
  simp only [readWord]
  rw [if_neg hc]
  by_cases hlone : c = '"' ∧ quotesExhausted = false
  · obtain ⟨rfl, rfl⟩ := hlone
    simp [hquote rfl rfl]
  · rw [if_neg hlone, exhausted_or_quote hlone]

/-! What `next` does, depending on what stands behind the blanks. -/

variable {lexer behind : Lexer} {token : Token} {c : Char} {rest : Text}

theorem next_of_nil (hdrop : lexer.rest.dropWhile (· == ' ') = []) :
    lexer.next = (.ok none, ⟨[], lexer.quotesExhausted⟩) := by
  unfold next
  rw [hdrop]

theorem next_of_symbol (hdrop : lexer.rest.dropWhile (· == ' ') = c :: rest)
    (hsymbol : Token.ofChar? c = some token) :
    lexer.next = (.ok (some token), ⟨rest, lexer.quotesExhausted⟩) := by
  unfold next
  rw [hdrop]
  simp only [hsymbol]

theorem next_of_phrase {body after : Text}
    (hdrop : lexer.rest.dropWhile (· == ' ') = '"' :: rest) (hflag : lexer.quotesExhausted = false)
    (hcut : cutPhrase rest = some (body, after)) :
    lexer.next = ((readPhrase body after).1.map some, ⟨(readPhrase body after).2, false⟩) := by
  have hsymbol : Token.ofChar? '"' = none := rfl
  unfold next
  rw [hdrop]
  simp only [hsymbol, hflag, and_self, if_true, hcut]

theorem next_of_letter (hdrop : lexer.rest.dropWhile (· == ' ') = c :: rest)
    (hc : ¬ (c = ' ' ∨ isReserved c))
    (hquote : c = '"' → lexer.quotesExhausted = false → cutPhrase rest = none) :
    lexer.next = (.ok (some (.term (readWord lexer.quotesExhausted (c :: rest)).1)),
      (readWord lexer.quotesExhausted (c :: rest)).2) := by
  rw [readWord_cons hc hquote]
  unfold next
  rw [hdrop]
  simp only [Token.ofChar?_of_letter hc]
  by_cases hlone : c = '"' ∧ lexer.quotesExhausted = false
  · obtain ⟨rfl, hflag⟩ := hlone
    simp [hflag, hquote rfl hflag]
  · rw [if_neg hlone, exhausted_or_quote hlone]

/--
What comes of a call for the next token: the end, an operator or parenthesis, a phrase or the error in
it, or a word. A quote begins a word only if it has no closing partner.
-/
inductive NextRun (lexer : Lexer) : Except Malformation (Option Token) × Lexer → Prop where
  | atEnd (hdrop : lexer.rest.dropWhile (· == ' ') = []) :
    NextRun lexer (.ok none, ⟨[], lexer.quotesExhausted⟩)
  | symbol {c : Char} {rest : Text} {token : Token}
    (hdrop : lexer.rest.dropWhile (· == ' ') = c :: rest) (hsymbol : Token.ofChar? c = some token) :
    NextRun lexer (.ok (some token), ⟨rest, lexer.quotesExhausted⟩)
  | phrase {rest body behind after : Text} {distance : Option UInt32}
    (hdrop : lexer.rest.dropWhile (· == ' ') = '"' :: rest) (hflag : lexer.quotesExhausted = false)
    (hcut : cutPhrase rest = some (body, behind)) (hwords : phraseWords body ≠ [])
    (hdistance : readDistance behind = .ok (distance, after)) :
    NextRun lexer (.ok (some (.phrase (phraseWords body) distance)), ⟨after, false⟩)
  | malformed {rest body behind : Text} {malformation : Malformation}
    (hdrop : lexer.rest.dropWhile (· == ' ') = '"' :: rest) (hflag : lexer.quotesExhausted = false)
    (hcut : cutPhrase rest = some (body, behind)) :
    NextRun lexer (.error malformation, ⟨behind, false⟩)
  | word {c : Char} {rest word : Text} {behind : Lexer}
    (hdrop : lexer.rest.dropWhile (· == ' ') = c :: rest) (hc : ¬ (c = ' ' ∨ isReserved c))
    (hquote : c = '"' → lexer.quotesExhausted = false → cutPhrase rest = none)
    (hword : readWord lexer.quotesExhausted (c :: rest) = (word, behind)) :
    NextRun lexer (.ok (some (.term word)), behind)

theorem readPhrase_cases (body behind : Text) :
    (∃ malformation, readPhrase body behind = (.error malformation, behind)) ∨
      ∃ distance after, phraseWords body ≠ [] ∧ readDistance behind = .ok (distance, after) ∧
        readPhrase body behind = (.ok (.phrase (phraseWords body) distance), after) := by
  unfold readPhrase
  split
  next => exact .inl ⟨_, rfl⟩
  next hne =>
    split
    next distance after hdistance => exact .inr ⟨distance, after, hne, hdistance, rfl⟩
    next => exact .inl ⟨_, rfl⟩

theorem nextRun_of_phrase {body after : Text}
    (hdrop : lexer.rest.dropWhile (· == ' ') = '"' :: rest) (hflag : lexer.quotesExhausted = false)
    (hcut : cutPhrase rest = some (body, after)) : NextRun lexer lexer.next := by
  rw [next_of_phrase hdrop hflag hcut]
  obtain ⟨malformation, heq⟩ | ⟨distance, rest', hwords, hdistance, heq⟩ :=
    readPhrase_cases body after
  · rw [heq]
    exact .malformed hdrop hflag hcut
  · rw [heq]
    exact .phrase hdrop hflag hcut hwords hdistance

theorem next_run (lexer : Lexer) : NextRun lexer lexer.next := by
  have hhead := List.head?_dropWhile_not (· == ' ') lexer.rest
  cases hdrop : lexer.rest.dropWhile (· == ' ') with
  | nil =>
    rw [next_of_nil hdrop]
    exact .atEnd hdrop
  | cons c rest =>
    rw [hdrop] at hhead
    cases hsymbol : Token.ofChar? c with
    | some symbol =>
      rw [next_of_symbol hdrop hsymbol]
      exact .symbol hdrop hsymbol
    | none =>
      -- A quote with a partner opens a phrase; any other character begins a word.
      by_cases hpartner : c = '"' ∧ lexer.quotesExhausted = false ∧ (cutPhrase rest).isSome
      · obtain ⟨rfl, hflag, hsome⟩ := hpartner
        obtain ⟨⟨body, after⟩, hcut⟩ := Option.isSome_iff_exists.mp hsome
        exact nextRun_of_phrase hdrop hflag hcut
      · have hletter : ¬ (c = ' ' ∨ isReserved c) := by simpa [isReserved, hsymbol] using hhead
        have hquote (hc : c = '"') (hflag : lexer.quotesExhausted = false) :
            cutPhrase rest = none := by
          simpa [hc, hflag] using hpartner
        rw [next_of_letter hdrop hletter hquote]
        exact .word hdrop hletter hquote rfl

structure ReadsWord (quotesExhausted : Bool) (text word : Text) (behind : Lexer) : Prop where
  text_eq : text = word ++ behind.rest
  letters : ∀ c ∈ word, c ≠ ' ' ∧ isReserved c = false
  partnerless : Partnerless word
  /-- The flag is never taken back, and a quote in the word sets it. -/
  marks : quotesExhausted = true ∨ '"' ∈ word → behind.quotesExhausted = true
  exhausted : behind.quotesExhausted = true → '"' ∉ behind.rest

theorem ReadsWord.cons {quotesExhausted flag : Bool} {c : Char} {rest word : Text}
    {behind : Lexer} (h : ReadsWord flag rest word behind) (hc : ¬ (c = ' ' ∨ isReserved c))
    (hflag : quotesExhausted = true ∨ c = '"' → flag = true) (hquote : c = '"' → '"' ∉ rest.tail) :
    ReadsWord quotesExhausted (c :: rest) (c :: word) behind where
  text_eq := by rw [h.text_eq, List.cons_append]
  letters := by
    rw [List.forall_mem_cons]
    exact ⟨by simpa using hc, h.letters⟩
  partnerless := by
    refine ⟨fun heq hmem => hquote heq ?_, h.partnerless⟩
    have hprefix : word <+: rest := ⟨behind.rest, h.text_eq.symm⟩
    exact hprefix.sublist.tail.subset hmem
  marks := by
    have hmarks := h.marks
    grind
  exhausted := h.exhausted

theorem readsWord_nil {quotesExhausted : Bool} {text : Text}
    (hhead : quotesExhausted = true → text.head? ≠ some '"')
    (htail : quotesExhausted = true → '"' ∉ text.tail) :
    ReadsWord quotesExhausted text [] ⟨text, quotesExhausted⟩ := by
  refine ⟨rfl, by simp, trivial, by simp, ?_⟩
  cases text <;> grind

theorem readWord_reads {quotesExhausted : Bool} {text : Text}
    (h : quotesExhausted = true → '"' ∉ text.tail) :
    ReadsWord quotesExhausted text (readWord quotesExhausted text).1
      (readWord quotesExhausted text).2 := by
  fun_induction readWord quotesExhausted text with
  | case1 quotesExhausted => exact readsWord_nil (by simp) h
  | case2 quotesExhausted c rest hbreak =>
    refine readsWord_nil (fun _ => ?_) h
    rintro ⟨⟩
    revert hbreak
    decide
  | case3 quotesExhausted c rest hletter hquote hpartner =>
    exact readsWord_nil (by simp [hquote.2]) h
  | case4 quotesExhausted c rest hletter hquote hpartner word lexer heq ih =>
    have hnone := cutPhrase_eq_none_iff.mp (by simpa using hpartner)
    rw [heq] at ih
    exact (ih fun _ => hnone).cons hletter (fun _ => rfl) (fun _ => hnone)
  | case5 quotesExhausted c rest hletter hquote word lexer heq ih =>
    rw [List.tail_cons] at h
    have htail (hflag : quotesExhausted = true) : '"' ∉ rest.tail :=
      fun hmem => h hflag (List.mem_of_mem_tail hmem)
    have hflag (hor : quotesExhausted = true ∨ c = '"') : quotesExhausted = true := by
      cases hor with
      | inl hflag => exact hflag
      | inr hc => simpa [hc] using hquote
    rw [heq] at ih
    exact (ih htail).cons hletter hflag (fun hc => htail (hflag (.inr hc)))

theorem phraseWords_eq_wordsBetween (body : Text) :
    phraseWords body = Text.wordsBetween isWordBreak body := by
  have hsplit : Text.splitOn Text.isWhiteSpace (body.map fun c => if isReserved c then ' ' else c) =
      Text.splitOn isWordBreak body := by
    induction body with
    | nil => rfl
    | cons c rest ih =>
      have hblank : Text.isWhiteSpace ' ' = true := by decide
      simp only [List.map_cons, Text.splitOn, ih, isWordBreak]
      by_cases hreserved : isReserved c = true <;> simp [hreserved, hblank]
  unfold phraseWords Text.words Text.wordsBetween
  rw [hsplit]

theorem legible_phrase {body : Text} (hne : phraseWords body ≠ []) (hquote : '"' ∉ body.tail)
    (distance : Option UInt32) : (Token.phrase (phraseWords body) distance).Legible := by
  refine ⟨hne, ?_, ?_⟩
  · intro word hword
    rw [phraseWords_eq_wordsBetween] at hword
    exact Text.unbroken_of_mem_wordsBetween hword
  · intro hmem
    rw [phraseWords_eq_wordsBetween] at hmem
    have hmem := (Text.unwords_wordsBetween_sublist isWordBreak body).tail.subset hmem
    rw [← List.map_tail, List.mem_map] at hmem
    grind

/--
What holds between two tokens of a collapsed query.
-/
structure Tidy (lexer : Lexer) : Prop where
  blanks : ∀ c ∈ lexer.rest, Text.isWhiteSpace c → c = ' '
  exhausted : lexer.quotesExhausted = true → '"' ∉ lexer.rest

structure Yields (lexer : Lexer) (token : Token) (behind : Lexer) : Prop where
  legible : token.Legible
  suffix : behind.rest <:+ lexer.rest
  exhausted : behind.quotesExhausted = true → '"' ∉ behind.rest
  marks : token.exhaustsQuotes = true → behind.quotesExhausted = true
  quoted : '"' ∈ token.text → '"' ∈ lexer.rest

theorem Yields.tidy (h : Yields lexer token behind) (htidy : lexer.Tidy) : behind.Tidy where
  blanks c hc := htidy.blanks c (h.suffix.subset hc)
  exhausted := h.exhausted

theorem yields_symbol {c : Char} {rest : Text} (htidy : lexer.Tidy)
    (hsuffix : c :: rest <:+ lexer.rest) (h : Token.ofChar? c = some token) :
    Yields lexer token ⟨rest, lexer.quotesExhausted⟩ where
  legible := Token.legible_of_not_isLeaf (Token.isLeaf_of_ofChar? h)
  suffix := (List.suffix_cons c rest).trans hsuffix
  exhausted hflag hmem := htidy.exhausted hflag (hsuffix.subset (List.mem_cons_of_mem c hmem))
  marks hquote := by
    have hleaf := Token.isLeaf_of_exhaustsQuotes hquote
    simp [Token.isLeaf_of_ofChar? h] at hleaf
  quoted hmem := by
    rw [Token.text_of_ofChar? h, List.mem_singleton] at hmem
    rw [← hmem] at hsuffix
    exact hsuffix.subset List.mem_cons_self

theorem ReadsWord.yields {text word : Text} (h : ReadsWord lexer.quotesExhausted text word behind)
    (htidy : lexer.Tidy) (hsuffix : text <:+ lexer.rest) (hne : word ≠ []) :
    Yields lexer (.term word) behind where
  legible := by
    refine ⟨⟨hne, fun c hc => ?_⟩, h.partnerless⟩
    obtain ⟨hblank, hreserved⟩ := h.letters c hc
    have hmem : c ∈ lexer.rest := by
      apply hsuffix.subset
      rw [h.text_eq]
      exact List.mem_append_left _ hc
    rw [isWordBreak, hreserved, Bool.or_false, ← Bool.not_eq_true]
    exact fun hspace => hblank (htidy.blanks c hmem hspace)
  suffix := by
    refine List.IsSuffix.trans ?_ hsuffix
    rw [h.text_eq]
    exact List.suffix_append word behind.rest
  exhausted := h.exhausted
  marks hquote := h.marks (.inr (by simpa [Token.exhaustsQuotes] using hquote))
  quoted hmem := by
    apply hsuffix.subset
    rw [h.text_eq]
    exact List.mem_append_left _ hmem

theorem suffix_of_readDistance {text rest : Text} {distance : Option UInt32}
    (h : readDistance text = .ok (distance, rest)) : rest <:+ text := by
  unfold readDistance at h
  split at h
  next behind hdrop =>
    have hsuffix : '/' :: behind <:+ text := hdrop ▸ List.dropWhile_suffix _
    dsimp only at h
    split at h
    next =>
      cases h
      exact List.suffix_rfl
    next =>
      split at h
      next =>
        cases h
        exact (List.dropWhile_suffix _).trans ((List.suffix_cons '/' behind).trans hsuffix)
      next => cases h
  next =>
    cases h
    exact List.suffix_rfl

theorem suffix_of_cutPhrase {rest body behind : Text} (h : cutPhrase rest = some (body, behind)) :
    behind <:+ '"' :: rest := by
  rw [(cutPhrase_eq_some_iff.mp h).1]
  exact ⟨'"' :: (body ++ ['"']), by simp⟩

theorem readWord_reads_of_tidy {c : Char} {rest : Text} (htidy : lexer.Tidy)
    (hsuffix : c :: rest <:+ lexer.rest) :
    ReadsWord lexer.quotesExhausted (c :: rest) (readWord lexer.quotesExhausted (c :: rest)).1
      (readWord lexer.quotesExhausted (c :: rest)).2 :=
  readWord_reads fun hflag hmem =>
    htidy.exhausted hflag (hsuffix.subset (List.mem_of_mem_tail hmem))

theorem next_yields (htidy : lexer.Tidy) (h : lexer.next = (.ok (some token), behind)) :
    Yields lexer token behind := by
  have hsuffix : lexer.rest.dropWhile (· == ' ') <:+ lexer.rest := List.dropWhile_suffix _
  have hrun := lexer.next_run
  rw [h] at hrun
  cases hrun with
  | symbol hdrop hsymbol => exact yields_symbol htidy (hdrop ▸ hsuffix) hsymbol
  | phrase hdrop hflag hcut hwords hdistance =>
    rw [hdrop] at hsuffix
    have hquote := (cutPhrase_eq_some_iff.mp hcut).2.2
    have hbehind := (suffix_of_readDistance hdistance).trans (suffix_of_cutPhrase hcut)
    exact {
      legible := legible_phrase hwords hquote _
      suffix := hbehind.trans hsuffix
      exhausted := nofun
      marks := nofun
      quoted := fun _ => hsuffix.subset List.mem_cons_self }
  | word hdrop hc hquote hword =>
    rw [hdrop] at hsuffix
    have hreads := readWord_reads_of_tidy htidy hsuffix
    rw [hword] at hreads
    refine hreads.yields htidy hsuffix ?_
    rw [readWord_cons hc hquote] at hword
    cases hword
    exact List.cons_ne_nil _ _

structure Lexed (tokens : List Token) : Prop where
  legible : ∀ token ∈ tokens, token.Legible
  quotes : tokens.Pairwise fun first later => first.exhaustsQuotes = true → '"' ∉ later.text

theorem lexed_iff_leaves {tokens : List Token} :
    Lexed tokens ↔ Lexed (tokens.filter Token.isLeaf) := by
  constructor
  · rintro ⟨hlegible, hquotes⟩
    exact ⟨fun token hmem => hlegible token (List.mem_of_mem_filter hmem), hquotes.filter _⟩
  · rintro ⟨hlegible, hquotes⟩
    constructor
    · intro token hmem
      cases hleaf : token.isLeaf with
      | true => exact hlegible token (List.mem_filter.mpr ⟨hmem, hleaf⟩)
      | false => exact Token.legible_of_not_isLeaf hleaf
    · rw [List.pairwise_filter] at hquotes
      refine hquotes.imp fun {first later} himp hexhausts => ?_
      cases hleaf : later.isLeaf with
      | true => exact himp (Token.isLeaf_of_exhaustsQuotes hexhausts) hleaf hexhausts
      | false => exact Token.not_mem_quote_of_not_isLeaf hleaf

-- That quotes in tokens are quotes of the text is what the induction carries along.
theorem tokens_lexed (htidy : lexer.Tidy) {tokens : List Token} (h : lexer.tokens = .ok tokens) :
    Lexed tokens ∧ ∀ token ∈ tokens, '"' ∈ token.text → '"' ∈ lexer.rest := by
  fun_induction Lexer.tokens lexer generalizing tokens with
  | case1 lexer malformation behind hnext => cases h
  | case2 lexer behind hnext =>
    cases h
    exact ⟨⟨nofun, List.Pairwise.nil⟩, nofun⟩
  | case3 lexer token behind hnext rest hrest ih =>
    cases h
    have hyields := next_yields htidy hnext
    obtain ⟨hlexed, hquoted⟩ := ih (hyields.tidy htidy) hrest
    have hbehind (later : Token) (hmem : later ∈ rest) (hquote : '"' ∈ later.text) :
        '"' ∈ behind.rest := hquoted later hmem hquote
    refine ⟨⟨?_, ?_⟩, ?_⟩
    · rw [List.forall_mem_cons]
      exact ⟨hyields.legible, hlexed.legible⟩
    · rw [List.pairwise_cons]
      -- The flag is set behind a word with a quote, and what is left then has no quotes.
      refine ⟨fun later hmem hmarks hquote => ?_, hlexed.quotes⟩
      exact hyields.exhausted (hyields.marks hmarks) (hbehind later hmem hquote)
    · rw [List.forall_mem_cons]
      exact ⟨hyields.quoted, fun later hmem hquote =>
        hyields.suffix.subset (hbehind later hmem hquote)⟩
  | case4 lexer token behind hnext malformation hrest ih => cases h

theorem tidy_ofText (query : Text) : (ofText query).Tidy where
  blanks _ hc hspace := eq_blank_of_mem_collapse hc hspace
  exhausted := nofun

end Lexer

end BooleanSearch
