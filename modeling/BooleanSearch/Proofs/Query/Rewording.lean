import BooleanSearch.Proofs.Query.Conservation
import BooleanSearch.Proofs.Query.Recognition
import BooleanSearch.Proofs.Vocabulary.Lookup

/-!
This module contains what becomes of an expression when its words are replaced by others: the
conversion to postfix order and the check do not look at words, and resolution looks at their normal
forms only.
-/

namespace BooleanSearch

section

variable (f : Text → Text)

namespace Token

@[simp]
theorem opensOperand_mapWords (token : Token) :
    (token.mapWords f).opensOperand = token.opensOperand := by
  cases token <;> rfl

@[simp]
theorem closesOperand_mapWords (token : Token) :
    (token.mapWords f).closesOperand = token.closesOperand := by
  cases token <;> rfl

@[simp]
theorem wordCount_mapWords (token : Token) : (token.mapWords f).wordCount = token.wordCount := by
  cases token <;> simp [mapWords, wordCount, words]

theorem mapWords_eq_leftParen_iff {token : Token} :
    token.mapWords f = .leftParen ↔ token = .leftParen := by
  cases token <;> simp [mapWords]

end Token

theorem popToParen_mapWords (stack : List Token) :
    popToParen (stack.map (Token.mapWords f)) =
      (popToParen stack).map
        (Prod.map (List.map (Token.mapWords f)) (List.map (Token.mapWords f))) := by
  induction stack with
  | nil => rfl
  | cons token stack ih =>
    cases token with
    | leftParen => rfl
    | term | phrase | and | or | not | rightParen =>
      simp only [List.map_cons, Token.mapWords, popToParen, ih]
      cases popToParen stack <;> rfl

theorem yieldsTo_mapWords (operator top : Token) :
    yieldsTo (operator.mapWords f) (top.mapWords f) = yieldsTo operator top := by
  cases operator <;> cases top <;> rfl

theorem toPostfixWith_mapWords (stack tokens : List Token) :
    toPostfixWith (stack.map (Token.mapWords f)) (tokens.map (Token.mapWords f)) =
      (toPostfixWith stack tokens).map (List.map (Token.mapWords f)) := by
  -- Operators are compared by their strength, so that the same ones leave the stack.
  have hyields (operator : Token) :
      yieldsTo (operator.mapWords f) ∘ Token.mapWords f = yieldsTo operator :=
    funext (yieldsTo_mapWords f operator)
  induction tokens generalizing stack with
  | nil =>
    simp only [List.map_nil, toPostfixWith, List.mem_map, Token.mapWords_eq_leftParen_iff,
      exists_eq_right]
    split <;> rfl
  | cons token rest ih =>
    rw [List.map_cons]
    cases token with
    | term | phrase =>
      rw [toPostfixWith_cons_leaf rfl, toPostfixWith_cons_leaf rfl, ih]
      cases toPostfixWith stack rest <;> rfl
    | and | or | not =>
      rw [toPostfixWith_cons_operator rfl, toPostfixWith_cons_operator rfl, List.takeWhile_map,
        List.dropWhile_map, hyields, ← List.map_cons, ih]
      cases toPostfixWith _ rest <;> simp [Except.map]
    | leftParen => exact ih (.leftParen :: stack)
    | rightParen =>
      simp only [Token.mapWords, toPostfixWith]
      rw [popToParen_mapWords]
      cases popToParen stack with
      | none => rfl
      | some cut =>
        simp only [Option.map_some, Prod.map]
        rw [ih]
        cases toPostfixWith cut.2 rest <;> simp [Except.map]

theorem toPostfix_mapWords (tokens : List Token) :
    toPostfix (tokens.map (Token.mapWords f)) =
      (toPostfix tokens).map (List.map (Token.mapWords f)) :=
  toPostfixWith_mapWords f [] tokens

theorem checkPostfixFrom_mapWords (operands words position : Nat) (tokens : List Token) :
    checkPostfixFrom operands words position (tokens.map (Token.mapWords f)) =
      checkPostfixFrom operands words position tokens := by
  induction tokens generalizing operands words position with
  | nil => rfl
  | cons token rest ih =>
    have hcount := token.wordCount_mapWords f
    cases token with
    | term | phrase =>
      simp only [List.map_cons, Token.mapWords, checkPostfixFrom] at hcount ⊢
      rw [hcount, ih]
    | and | or | not | leftParen | rightParen =>
      simp only [List.map_cons, Token.mapWords, checkPostfixFrom, ih]

namespace Postfix

def mapWords (expr : Postfix) : Postfix where
  tokens := expr.tokens.map (Token.mapWords f)
  termCount := expr.termCount
  checked := (checkPostfixFrom_mapWords f 0 0 0 expr.tokens).trans expr.checked

theorem ofInfix_mapWords {tokens : List Token} {expr : Postfix} (h : ofInfix tokens = .ok expr) :
    ofInfix (tokens.map (Token.mapWords f)) = .ok (expr.mapWords f) := by
  rw [ofInfix_eq_ok_iff] at h ⊢
  rw [toPostfix_mapWords, h]
  rfl

end Postfix

end

theorem Postfix.flatMap_words_of_ofInfix {tokens : List Token} {expr : Postfix}
    (h : ofInfix tokens = .ok expr) :
    expr.tokens.flatMap Token.words = tokens.flatMap Token.words := by
  have hleaves := (converts_of_toPostfix (ofInfix_eq_ok_iff.mp h)).filter_isLeaf
  rw [← Vocabulary.flatMap_words_filter, hleaves, Vocabulary.flatMap_words_filter]

theorem mapM_congr {α β ε : Type} {f g : α → Except ε β} {as : List α}
    (h : ∀ a ∈ as, f a = g a) : as.mapM f = as.mapM g := by
  induction as with
  | nil => rfl
  | cons a as ih =>
    rw [List.forall_mem_cons] at h
    rw [List.mapM_cons, List.mapM_cons, h.1, ih h.2]

namespace Vocabulary

variable {vocabulary : Vocabulary} {normalize other : Normalizer}

theorem lookup_congr {word : Text} (h : normalize word = other word) :
    vocabulary.lookup normalize word = vocabulary.lookup other word := by
  unfold lookup
  rw [h]

theorem resolveToken_congr {token : Token} (h : ∀ word ∈ token.words, normalize word = other word) :
    vocabulary.resolveToken normalize token = vocabulary.resolveToken other token := by
  cases token with
  | term word =>
    simp only [resolveToken]
    rw [lookup_congr (h word List.mem_cons_self)]
  | phrase words distance =>
    simp only [resolveToken]
    have hwords : words.mapM (vocabulary.lookup normalize) = words.mapM (vocabulary.lookup other) :=
      mapM_congr fun word hword => lookup_congr (h word hword)
    rw [hwords]
  | and | or | not | leftParen | rightParen => rfl

theorem resolve_congr {expr : Postfix}
    (h : ∀ word ∈ expr.tokens.flatMap Token.words, normalize word = other word) :
    vocabulary.resolve normalize expr = vocabulary.resolve other expr := by
  unfold resolve
  rw [mapM_congr]
  intro token htoken
  apply resolveToken_congr
  intro word hword
  exact h word (List.mem_flatMap_of_mem htoken hword)

theorem resolveToken_mapWords (f : Text → Text) (token : Token) :
    vocabulary.resolveToken normalize (token.mapWords f) =
      vocabulary.resolveToken (normalize ∘ f) token := by
  cases token with
  | phrase words distance =>
    simp only [Token.mapWords, resolveToken]
    rw [List.mapM_map]
    rfl
  | term | and | or | not | leftParen | rightParen => rfl

theorem resolve_mapWords (f : Text → Text) (expr : Postfix) :
    vocabulary.resolve normalize (expr.mapWords f) = vocabulary.resolve (normalize ∘ f) expr := by
  unfold resolve Postfix.mapWords
  rw [List.mapM_map]
  congr 2
  exact funext (resolveToken_mapWords f)

end Vocabulary

end BooleanSearch
