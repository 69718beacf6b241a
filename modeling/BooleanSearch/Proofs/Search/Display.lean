import BooleanSearch.Proofs.Query.InfixForm
import BooleanSearch.Proofs.Query.Rewording
import BooleanSearch.Proofs.Search.Equivalence

/-!
This module contains the theorem that the text in which a query is shown is read as the same tokens
with normalized words. If normalizing these words again changes nothing, the text is resolved as the
query is, unless it is too long to be compiled.
-/

namespace BooleanSearch

/--
Where one operand follows another, there is an operator between them.
-/
def Explicit (tokens : List Token) : Prop :=
  tokens.IsChain fun token next => token.closesOperand = true → next.opensOperand = false

theorem explicit_cons_conjoin (first : Token) (tokens : List Token) :
    Explicit (first :: conjoin first.closesOperand tokens) := by
  induction tokens generalizing first with
  | nil => exact List.isChain_singleton first
  | cons token rest ih =>
    unfold conjoin
    split
    next =>
      have hand : Explicit (.and :: token :: conjoin token.closesOperand rest) :=
        .cons_cons (fun hcloses => absurd hcloses (by decide)) (ih token)
      exact .cons_cons (fun _ => rfl) hand
    next hnot => exact .cons_cons (fun hcloses => by simpa [hcloses] using hnot) (ih token)

theorem explicit_withImpliedAnd (tokens : List Token) : Explicit (withImpliedAnd tokens) := by
  rw [withImpliedAnd_eq_conjoin]
  cases tokens with
  | nil => exact List.IsChain.nil
  | cons token rest => exact explicit_cons_conjoin token rest

theorem mem_of_mem_conjoin {closed : Bool} {tokens : List Token} {token : Token}
    (h : token ∈ conjoin closed tokens) : token = .and ∨ token ∈ tokens := by
  induction tokens generalizing closed with
  | nil => cases h
  | cons first rest ih =>
    unfold conjoin at h
    split at h <;> grind

namespace Token

variable {token : Token}

theorem closesOperand_of_isLeaf (h : token.isLeaf = true) : token.closesOperand = true := by
  cases token with
  | term | phrase => rfl
  | and | or | not | leftParen | rightParen => cases h

theorem isLeaf_of_opensOperand (h : token.opensOperand = false) : token.isLeaf = false := by
  cases token with
  | and | or | rightParen => rfl
  | term | phrase | not | leftParen => cases h

end Token

namespace Explicit

variable {tokens : List Token}

theorem withImpliedAnd_eq (h : Explicit tokens) : withImpliedAnd tokens = tokens := by
  unfold Explicit at h
  fun_induction withImpliedAnd tokens with
  | case1 => rfl
  | case2 token => rfl
  | case3 token next rest hand ih =>
    rw [List.isChain_cons_cons] at h
    simp_all
  | case4 token next rest hand ih =>
    rw [List.isChain_cons_cons] at h
    rw [ih h.2]

theorem map_mapWords (h : Explicit tokens) (f : Text → Text) :
    Explicit (tokens.map (Token.mapWords f)) := by
  unfold Explicit
  rw [List.isChain_map]
  simp only [Token.closesOperand_mapWords, Token.opensOperand_mapWords]
  exact h

theorem spells_unwords (h : Explicit tokens) :
    Spells tokens (Text.unwords (tokens.map Token.text)) := by
  unfold Explicit at h
  induction tokens with
  | nil => exact .nil
  | cons token rest ih =>
    cases rest with
    | nil =>
      have hlast : Spells [token] (token.text ++ []) := .cons .nil (by simp)
      rwa [List.append_nil] at hlast
    | cons next rest =>
      rw [List.isChain_cons_cons] at h
      refine .cons (ih h.2).blank fun hleaf => ?_
      simpa using Token.isLeaf_of_opensOperand (h.1 (Token.closesOperand_of_isLeaf hleaf))

end Explicit

section

variable {tokens : List Token}

theorem spaced_unwords_text (hne : tokens ≠ []) (h : ∀ token ∈ tokens, token.Legible) :
    Text.Spaced (Text.unwords (tokens.map Token.text)) := by
  refine .unwords (by simpa using hne) ?_
  rw [List.forall_mem_map]
  exact fun token hmem => Token.spaced_text (h token hmem)

theorem undoubled_unwords_text {c : Char} (hc : isReserved c = true)
    (h : ∀ token ∈ tokens, token.Legible) :
    Text.Undoubled c (Text.unwords (tokens.map Token.text)) := by
  refine .unwords (ne_blank_of_isReserved hc).symm ?_
  rw [List.forall_mem_map]
  exact fun token hmem => Token.undoubled_text (h token hmem) hc

theorem tokenize_unwords_text (hne : tokens ≠ []) (hexplicit : Explicit tokens)
    (hlexed : Lexer.Lexed tokens) :
    tokenize (Text.unwords (tokens.map Token.text)) = .ok tokens := by
  have hcollapse := Lexer.collapse_eq_self (spaced_unwords_text hne hlexed.legible)
    (undoubled_unwords_text rfl hlexed.legible) (undoubled_unwords_text rfl hlexed.legible)
  unfold tokenize Lexer.ofText
  rw [hcollapse, hexplicit.spells_unwords.tokens_eq hlexed (by simp)]
  exact congrArg Except.ok hexplicit.withImpliedAnd_eq

end

theorem Partnerless.of_not_mem {text : Text} (h : '"' ∉ text) : Partnerless text := by
  induction text with
  | nil => trivial
  | cons c rest ih =>
    rw [List.mem_cons, not_or] at h
    exact ⟨fun hc => absurd hc.symm h.1, ih h.2⟩

/--
A non-empty text without white space, quotes and reserved characters.
-/
def Plain (word : Text) : Prop := Text.Unbroken isWordBreak word ∧ '"' ∉ word

-- The characters of the word are gone through, not all characters there are.
instance (word : Text) : Decidable (Plain word) :=
  have := List.decidableBAll (fun c => isWordBreak c = false) word
  inferInstanceAs (Decidable ((word ≠ [] ∧ ∀ c ∈ word, isWordBreak c = false) ∧ '"' ∉ word))

section

variable {f : Text → Text}

theorem Token.Legible.mapWords {token : Token} (h : token.Legible)
    (hwords : ∀ word ∈ token.words, Plain (f word)) : (token.mapWords f).Legible := by
  cases token with
  | term word =>
    obtain ⟨hunbroken, hquote⟩ := hwords word List.mem_cons_self
    exact ⟨hunbroken, .of_not_mem hquote⟩
  | phrase words distance =>
    refine ⟨by simpa using h.1, ?_, fun hmem => ?_⟩
    · rw [List.forall_mem_map]
      intro word hword
      exact (hwords word hword).1
    · obtain hblank | ⟨image, himage, hquote⟩ := Text.mem_unwords (List.mem_of_mem_tail hmem)
      · exact absurd hblank (by decide)
      · obtain ⟨word, hword, rfl⟩ := List.mem_map.mp himage
        exact (hwords word hword).2 hquote
  | and | or | not | leftParen | rightParen => trivial

theorem Token.exhaustsQuotes_mapWords {token : Token}
    (hwords : ∀ word ∈ token.words, Plain (f word)) :
    (token.mapWords f).exhaustsQuotes = false := by
  cases token with
  | term word => simpa [Token.mapWords, exhaustsQuotes] using (hwords word List.mem_cons_self).2
  | phrase | and | or | not | leftParen | rightParen => rfl

theorem Lexer.lexed_map_mapWords {tokens : List Token} (h : ∀ token ∈ tokens, token.Legible)
    (hwords : ∀ word ∈ tokens.flatMap Token.words, Plain (f word)) :
    Lexed (tokens.map (Token.mapWords f)) := by
  have hplain (token : Token) (htoken : token ∈ tokens) (word : Text) (hword : word ∈ token.words) :
      Plain (f word) :=
    hwords word (List.mem_flatMap_of_mem htoken hword)
  constructor
  · rw [List.forall_mem_map]
    exact fun token htoken => (h token htoken).mapWords (hplain token htoken)
  · rw [List.pairwise_map]
    refine List.pairwise_of_forall_mem_list fun token htoken _ _ hexhausts => ?_
    rw [Token.exhaustsQuotes_mapWords (hplain token htoken)] at hexhausts
    cases hexhausts

end

theorem legible_of_tokenize {query : Text} {tokens : List Token} (h : tokenize query = .ok tokens) :
    ∀ token ∈ tokens, token.Legible := by
  obtain ⟨raw, hraw, rfl⟩ := map_eq_ok_iff.mp h
  have hlegible := (Lexer.tokens_lexed (Lexer.tidy_ofText query) hraw).1.legible
  intro token hmem
  rw [withImpliedAnd_eq_conjoin] at hmem
  cases mem_of_mem_conjoin hmem with
  | inl hand => exact Token.legible_of_not_isLeaf (by rw [hand]; rfl)
  | inr hmem => exact hlegible token hmem

namespace SearchService

/--
The text in which a query is shown is read as the tokens of the query with normalized words, provided
that their normal forms are plain. It is compiled to the same expression with normalized words unless
it is too long, and that expression is resolved as the one of the query is, if normalizing its words
twice is the same as normalizing them once.
-/
theorem shown_query_read_with_normalized_words {config : QueryConfig} {query : Text}
    {compiled : CompiledQuery} (hcompile : compile config query = .ok compiled)
    (normalize : Normalizer) :
    ∃ tokens clear, tokenize query = .ok tokens ∧ clearText normalize compiled = .ok clear ∧
      ((∀ word ∈ tokens.flatMap Token.words, Plain (normalize word)) →
        tokenize clear = .ok (tokens.map (Token.mapWords normalize)) ∧
        compile config clear =
          (if config.maxQueryLength < clear.length then
            .error (.queryTooLong clear.length config.maxQueryLength)
          else
            .ok ⟨clear, compiled.expr.mapWords normalize⟩) ∧
        ((∀ word ∈ tokens.flatMap Token.words, normalize (normalize word) = normalize word) →
          ∀ vocabulary : Vocabulary,
            vocabulary.resolve normalize (compiled.expr.mapWords normalize) =
              vocabulary.resolve normalize compiled.expr)) := by
  obtain ⟨hsource, hcount, tokens, htokens, hexpr⟩ := checks_of_compile hcompile
  have hclear : clearText normalize compiled =
      .ok (Text.unwords ((tokens.map (Token.mapWords normalize)).map Token.text)) := by
    unfold clearText
    rw [hsource, htokens, List.map_map]
    rfl
  refine ⟨tokens, _, htokens, hclear, fun hplain => ?_⟩
  have hne : tokens ≠ [] := by
    rintro rfl
    cases hexpr
  have hexplicit : Explicit tokens := by
    obtain ⟨raw, -, rfl⟩ := map_eq_ok_iff.mp htokens
    exact explicit_withImpliedAnd raw
  have hne' : tokens.map (Token.mapWords normalize) ≠ [] := by simpa using hne
  have hlexed := Lexer.lexed_map_mapWords (legible_of_tokenize htokens) hplain
  have htokenize := tokenize_unwords_text hne' (hexplicit.map_mapWords normalize) hlexed
  refine ⟨htokenize, ?_, fun hidempotent vocabulary => ?_⟩
  · exact compile_of_spaced (spaced_unwords_text hne' hlexed.legible) htokenize
      (Postfix.ofInfix_mapWords normalize hexpr) hcount
  -- Looking up a word that is normalized already normalizes it once more.
  · rw [← Postfix.flatMap_words_of_ofInfix hexpr] at hidempotent
    rw [Vocabulary.resolve_mapWords]
    exact Vocabulary.resolve_congr hidempotent

end SearchService

namespace DroppedQuote

def normalize : Normalizer := fun word => Normalizer.default (word.filter (· != '"'))

def query : Text := "The (\"Big dog\"/2 || \"Cat\") !don\"t".toList

def compiled : CompiledQuery where
  source := query
  expr :=
    { tokens :=
        [.term "The".toList, .phrase ["Big".toList, "dog".toList] (some 2),
          .phrase ["Cat".toList] none, .or, .and, .term "don\"t".toList, .not, .and]
      termCount := 5
      checked := rfl }

def shown : Text := "the & ( \"big dog\"/2 | \"cat\" ) & ! dont".toList

def tokens : List Token :=
  [.term "The".toList, .and, .leftParen, .phrase ["Big".toList, "dog".toList] (some 2), .or,
    .phrase ["Cat".toList] none, .rightParen, .and, .not, .term "don\"t".toList]

def words : List Text := ["the".toList, "big".toList, "dog".toList, "cat".toList, "dont".toList]

theorem shown_query_resolved_alike :
    compile {} query = .ok compiled ∧
      SearchService.clearText normalize compiled = .ok shown ∧
      tokenize shown = .ok (tokens.map (Token.mapWords normalize)) ∧
      compile {} shown = .ok ⟨shown, compiled.expr.mapWords normalize⟩ ∧
      ∀ vocabulary : Vocabulary,
        vocabulary.resolve normalize (compiled.expr.mapWords normalize) =
          vocabulary.resolve normalize compiled.expr := by
  have hcompile : compile {} query = .ok compiled := by
    decide +kernel
  have htokenize : tokenize query = .ok tokens := by
    decide +kernel
  have hshown : SearchService.clearText normalize compiled = .ok shown := by
    apply eq_ok_of_toOption
    decide +kernel
  have hwords : (tokens.flatMap Token.words).map normalize = words := by
    decide +kernel
  have hnormal : words.map normalize = words := by
    decide +kernel
  have hplain : ∀ word ∈ tokens.flatMap Token.words, Plain (normalize word) := by
    rw [← List.forall_mem_map (P := Plain), hwords]
    decide +kernel
  have hidempotent :
      ∀ word ∈ tokens.flatMap Token.words, normalize (normalize word) = normalize word := by
    rw [← hwords, List.map_map] at hnormal
    exact List.map_inj_left.mp hnormal
  obtain ⟨tokens', clear, htokens, hclear, hread⟩ :=
    SearchService.shown_query_read_with_normalized_words hcompile normalize
  rw [htokenize, Except.ok.injEq] at htokens
  rw [hshown, Except.ok.injEq] at hclear
  subst htokens hclear
  obtain ⟨hagain, hcompiled, hresolved⟩ := hread hplain
  rw [if_neg (by decide)] at hcompiled
  exact ⟨hcompile, hshown, hagain, hcompiled, hresolved hidempotent⟩

end DroppedQuote

namespace TightLimit

def config : QueryConfig := { maxQueryLength := 3 }

def compiled : CompiledQuery where
  source := "a b".toList
  expr := { tokens := [.term ['a'], .term ['b'], .and], termCount := 2, checked := rfl }

theorem shown_query_is_too_long :
    compile config "a b".toList = .ok compiled ∧
      (∀ word ∈ compiled.plainTerms, Plain (Normalizer.default word) ∧
        Normalizer.default (Normalizer.default word) = Normalizer.default word) ∧
      (Vocabulary.ofTerms [['a'], ['b']]).resolve Normalizer.default compiled.expr =
        .ok ⟨[.term 0, .term 1, .and]⟩ ∧
      SearchService.clearText Normalizer.default compiled = .ok "a & b".toList ∧
      compile config "a & b".toList = .error (.queryTooLong 5 3) := by
  have hwords : compiled.plainTerms = [['a'], ['b']] := by
    decide +kernel
  have hfirst : Normalizer.default ['a'] = ['a'] := by
    decide +kernel
  have hsecond : Normalizer.default ['b'] = ['b'] := by
    decide +kernel
  refine ⟨by decide +kernel, ?_, ?_, ?_, by decide +kernel⟩
  · rw [hwords, List.forall_mem_cons, List.forall_mem_singleton]
    simp only [hfirst, hsecond]
    decide +kernel
  · apply eq_ok_of_toOption
    decide +kernel
  · apply eq_ok_of_toOption
    decide +kernel

end TightLimit

end BooleanSearch
