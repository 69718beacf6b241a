import BooleanSearch.Query.Malformation

/-!
This module contains the conversion of infix expressions to postfix order, the check that a postfix
expression is well formed, and the way back to a fully parenthesised infix form. `!` binds tightest
and is written in front of its operand, `&` binds tighter than `|`, and both group to the left.
-/

namespace BooleanSearch

def popToParen : List Token → Option (List Token × List Token)
  | [] => none
  | .leftParen :: stack => some ([], stack)
  | operator :: stack =>
    match popToParen stack with
    | some (popped, below) => some (operator :: popped, below)
    | none => none

/--
Whether the operator `top` of the stack is complete when `operator` arrives. An operator of the same
strength is, except that `!` never ends an earlier `!`.
-/
def yieldsTo (operator top : Token) : Bool :=
  top != .leftParen &&
    (if operator = .not then
      operator.precedence < top.precedence
    else
      operator.precedence ≤ top.precedence)

/--
Convert the rest of an infix expression, where the operators and open parentheses on the stack wait
for their right operands.
-/
def toPostfixWith : (stack : List Token) → List Token → Except Malformation (List Token)
  | stack, [] => if .leftParen ∈ stack then .error .unmatchedOpen else .ok stack
  | stack, .leftParen :: rest => toPostfixWith (.leftParen :: stack) rest
  | stack, .rightParen :: rest =>
    match popToParen stack with
    | some (popped, below) => (toPostfixWith below rest).map (popped ++ ·)
    | none => .error .unmatchedClose
  | stack, token :: rest =>
    if token.isLeaf then
      (toPostfixWith stack rest).map (token :: ·)
    else
      let popped := stack.takeWhile (yieldsTo token)
      let below := stack.dropWhile (yieldsTo token)
      (toPostfixWith (token :: below) rest).map (popped ++ ·)

theorem toPostfixWith_cons_leaf {token : Token} (h : token.isLeaf = true) (stack rest : List Token) :
    toPostfixWith stack (token :: rest) = (toPostfixWith stack rest).map (token :: ·) := by
  cases token with
  | term | phrase => rfl
  | and | or | not | leftParen | rightParen => cases h

theorem toPostfixWith_cons_operator {token : Token} (h : token.isOperator = true)
    (stack rest : List Token) :
    toPostfixWith stack (token :: rest) =
      (toPostfixWith (token :: stack.dropWhile (yieldsTo token)) rest).map
        (stack.takeWhile (yieldsTo token) ++ ·) := by
  cases token with
  | and | or | not => rfl
  | term | phrase | leftParen | rightParen => cases h

/--
Convert an infix expression to postfix order. This fails only if the parentheses do not balance;
whether every operator has its operands is checked separately.
-/
def toPostfix (infixTokens : List Token) : Except Malformation (List Token) :=
  toPostfixWith [] infixTokens

/--
Check the rest of a postfix expression, where `operands` and `words` count what stands in front of
it and `position` is the position at which it begins.
-/
def checkPostfixFrom : (operands words position : Nat) → List Token → Except Malformation Nat
  | operands, words, _, [] => if operands = 1 then .ok words else .error (.operandCount operands)
  | operands, words, position, token :: rest =>
    match token with
    | .and | .or =>
      if operands < 2 then
        .error (.missingOperand token position)
      else
        checkPostfixFrom (operands - 1) words (position + 1) rest
    | .not =>
      if operands < 1 then
        .error (.missingOperand token position)
      else
        checkPostfixFrom operands words (position + 1) rest
    | .term _ | .phrase _ _ =>
      checkPostfixFrom (operands + 1) (words + token.wordCount) (position + 1) rest
    | .leftParen | .rightParen => .error .parenthesisInPostfix

/--
The number of words of a postfix expression that reduces to exactly one operand.
-/
def checkPostfix (tokens : List Token) : Except Malformation Nat := checkPostfixFrom 0 0 0 tokens

/--
A postfix expression that reduces to exactly one operand.
-/
structure Postfix where
  tokens : List Token
  /-- The number of words; the words of phrases count individually. -/
  termCount : Nat
  checked : checkPostfix tokens = .ok termCount
deriving DecidableEq

namespace Postfix

def ofInfix (infixTokens : List Token) : Except Malformation Postfix :=
  match toPostfix infixTokens with
  | .error malformation => .error malformation
  | .ok tokens =>
    match h : checkPostfix tokens with
    | .error malformation => .error malformation
    | .ok termCount => .ok ⟨tokens, termCount, h⟩

def leaves (expr : Postfix) : List Token := expr.tokens.filter Token.isLeaf

def text (expr : Postfix) : Text := Text.unwords (expr.tokens.map Token.text)

/--
Put the operands on the stack together as the next token demands. An operator without enough operands
leaves nothing on the stack, which does not happen in an expression that was checked.
-/
def reduceInfix (stack : List Text) (token : Token) : List Text :=
  match token, stack with
  | .not, operand :: below => ('!' :: '(' :: (operand ++ [')'])) :: below
  | .not, [] => []
  | .and, right :: left :: below | .or, right :: left :: below =>
    ('(' :: (left ++ ' ' :: (token.text ++ ' ' :: (right ++ [')'])))) :: below
  | .and, _ | .or, _ => []
  | leaf, stack => leaf.text :: stack

def infixText (expr : Postfix) : Text :=
  (expr.tokens.foldl reduceInfix []).head?.getD []

end Postfix

end BooleanSearch
