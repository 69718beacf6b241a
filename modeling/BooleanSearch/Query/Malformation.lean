import BooleanSearch.Query.Token

/-!
This module contains the ways in which the text of a query, or the expression it stands for, can be
malformed.
-/

namespace BooleanSearch

inductive Malformation where
  | emptyPhrase
  | distanceOutOfRange (digits : Text)
  | unmatchedClose
  | unmatchedOpen
  /-- An operator of a postfix expression that has too few operands in front of it. -/
  | missingOperand (operator : Token) (position : Nat)
  | parenthesisInPostfix
  /-- A postfix expression that does not reduce to a single operand. -/
  | operandCount (count : Nat)
  /-- An expression whose length in bytes cannot be sent to the backend. -/
  | requestTooLong (bytes : Nat)
  /-- A defect described in the words of another component. -/
  | other (reason : Text)
deriving DecidableEq, Repr

def Malformation.text : Malformation → Text
  | emptyPhrase => "quoted phrase contains no words".toList
  | distanceOutOfRange digits => "phrase distance out of range: ".toList ++ digits
  | unmatchedClose => "unmatched ')'".toList
  | unmatchedOpen => "unmatched '('".toList
  | missingOperand operator position =>
    "operator '".toList ++ operator.text ++ "' at position ".toList ++ Text.decimal position ++
      " is missing an operand".toList
  | parenthesisInPostfix => "parenthesis in postfix expression".toList
  | operandCount count =>
    "expression reduces to ".toList ++ Text.decimal count ++ " operands".toList
  | requestTooLong bytes =>
    "expression of ".toList ++ Text.decimal bytes ++ " bytes does not fit the wire format".toList
  | other reason => reason

end BooleanSearch
