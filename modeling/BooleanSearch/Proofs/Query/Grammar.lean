import BooleanSearch.Proofs.Query.Expression
import BooleanSearch.Query.Lexer

/-!
This module contains the grammar of boolean queries. A derivation says which tree a sequence of tokens
stands for; an `&` between two operands may be left out. A repetition of the grammar is written as a
recursion on the left, so that chains group to the left.

```
query    := or_expr
or_expr  := and_expr ('|' and_expr)*
and_expr := not_expr ('&'? not_expr)*
not_expr := '!'* primary
primary  := TERM | PHRASE | '(' or_expr ')'
```
-/

namespace BooleanSearch

inductive Nonterminal where
  | orExpr
  | andExpr
  | notExpr
  | primary
deriving DecidableEq, Repr

inductive Derives : Nonterminal → List Token → Expression → Prop where
  | term {word} : Derives .primary [.term word] (.term word)
  | phrase {words distance} : Derives .primary [.phrase words distance] (.phrase words distance)
  | group {tokens tree} (h : Derives .orExpr tokens tree) :
    Derives .primary (.leftParen :: (tokens ++ [.rightParen])) tree
  | ofPrimary {tokens tree} (h : Derives .primary tokens tree) : Derives .notExpr tokens tree
  | not {tokens tree} (h : Derives .notExpr tokens tree) :
    Derives .notExpr (.not :: tokens) (.not tree)
  | ofNot {tokens tree} (h : Derives .notExpr tokens tree) : Derives .andExpr tokens tree
  | and {lhs rhs left right} (hl : Derives .andExpr lhs left) (hr : Derives .notExpr rhs right) :
    Derives .andExpr (lhs ++ .and :: rhs) (.and left right)
  | impliedAnd {lhs rhs left right} (hl : Derives .andExpr lhs left)
    (hr : Derives .notExpr rhs right) : Derives .andExpr (lhs ++ rhs) (.and left right)
  | ofAnd {tokens tree} (h : Derives .andExpr tokens tree) : Derives .orExpr tokens tree
  | or {lhs rhs left right} (hl : Derives .orExpr lhs left) (hr : Derives .andExpr rhs right) :
    Derives .orExpr (lhs ++ .or :: rhs) (.or left right)

namespace Derives

theorem leaves_eq {nonterminal : Nonterminal} {tokens : List Token} {tree : Expression}
    (h : Derives nonterminal tokens tree) : tree.leaves = tokens.filter Token.isLeaf := by
  induction h with
  | term => rfl
  | phrase => rfl
  | group _ ih =>
    rw [ih]
    simp [Token.isLeaf]
  | ofPrimary _ ih => exact ih
  | not _ ih =>
    simp only [Expression.leaves]
    rw [ih]
    simp [Token.isLeaf]
  | ofNot _ ih => exact ih
  | and _ _ lih rih | or _ _ lih rih =>
    simp only [Expression.leaves]
    rw [lih, rih]
    simp [Token.isLeaf]
  | impliedAnd _ _ lih rih =>
    simp only [Expression.leaves]
    rw [lih, rih, List.filter_append]
  | ofAnd _ ih => exact ih

end Derives

def endsClosed (closed : Bool) (tokens : List Token) : Bool :=
  (tokens.getLast?.map Token.closesOperand).getD closed

@[simp]
theorem endsClosed_nil (closed : Bool) : endsClosed closed [] = closed := rfl

@[simp]
theorem endsClosed_cons (closed : Bool) (token : Token) (tokens : List Token) :
    endsClosed closed (token :: tokens) = endsClosed token.closesOperand tokens := by
  unfold endsClosed
  rw [List.getLast?_cons]
  cases tokens.getLast? <;> rfl

@[simp]
theorem endsClosed_append (closed : Bool) (s t : List Token) :
    endsClosed closed (s ++ t) = endsClosed (endsClosed closed s) t := by
  induction s generalizing closed with
  | nil => rfl
  | cons token s ih =>
    simp only [List.cons_append, endsClosed_cons]
    exact ih token.closesOperand

def conjoin (closed : Bool) : List Token → List Token
  | [] => []
  | token :: rest =>
    if closed && token.opensOperand then
      .and :: token :: conjoin token.closesOperand rest
    else
      token :: conjoin token.closesOperand rest

theorem withImpliedAnd_eq_conjoin (tokens : List Token) :
    withImpliedAnd tokens = conjoin false tokens := by
  induction tokens using withImpliedAnd.induct with
  | case1 => rfl
  | case2 token => rfl
  | case3 token next rest h ih | case4 token next rest h ih =>
    unfold withImpliedAnd
    rw [ih]
    simp only [conjoin]
    simp [h]

theorem conjoin_append (closed : Bool) (s t : List Token) :
    conjoin closed (s ++ t) = conjoin closed s ++ conjoin (endsClosed closed s) t := by
  induction s generalizing closed with
  | nil => rfl
  | cons token s ih =>
    simp only [List.cons_append, conjoin, endsClosed_cons]
    rw [ih]
    split <;> simp

namespace Derives

variable {nonterminal : Nonterminal} {tokens : List Token} {tree : Expression}

theorem endsClosed_eq_true (h : Derives nonterminal tokens tree) (closed : Bool) :
    endsClosed closed tokens = true := by
  induction h generalizing closed with
  | term => rfl
  | phrase => rfl
  | group => simp [Token.closesOperand]
  | ofPrimary _ ih | ofNot _ ih | ofAnd _ ih => exact ih closed
  | not _ ih => simp [ih]
  | and _ _ _ rih | or _ _ _ rih => simp [rih]
  | impliedAnd _ _ _ rih => simp [rih]

theorem exists_cons (h : Derives nonterminal tokens tree) :
    ∃ first rest, tokens = first :: rest ∧ first.opensOperand = true := by
  induction h with
  | term => exact ⟨_, _, rfl, rfl⟩
  | phrase => exact ⟨_, _, rfl, rfl⟩
  | group => exact ⟨_, _, rfl, rfl⟩
  | ofPrimary _ ih | ofNot _ ih | ofAnd _ ih => exact ih
  | not => exact ⟨_, _, rfl, rfl⟩
  | and _ _ lih _ | or _ _ lih _ | impliedAnd _ _ lih _ =>
    obtain ⟨first, rest, rfl, hfirst⟩ := lih
    exact ⟨first, _, rfl, hfirst⟩

theorem conjoin_true (h : Derives nonterminal tokens tree) :
    conjoin true tokens = .and :: conjoin false tokens := by
  obtain ⟨first, rest, rfl, hfirst⟩ := h.exists_cons
  simp [conjoin, hfirst]

end Derives

end BooleanSearch
