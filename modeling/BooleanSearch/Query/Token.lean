import BooleanSearch.Text.Decimal

/-!
This module contains the tokens of boolean queries: words and phrases, which are the operands, and
operators and parentheses, which combine them.
-/

namespace BooleanSearch

inductive Token where
  /-- A bare word. -/
  | term (word : Text)
  /-- A quoted phrase, with the largest distance allowed between its words if one is given. -/
  | phrase (words : List Text) (distance : Option UInt32)
  | and
  | or
  | not
  | leftParen
  | rightParen
deriving DecidableEq, Repr

namespace Token

def isLeaf : Token → Bool
  | term _ | phrase _ _ => true
  | _ => false

def isOperator : Token → Bool
  | and | or | not => true
  | _ => false

def precedence : Token → Nat
  | not => 3
  | and => 2
  | or => 1
  | _ => 0

def words : Token → List Text
  | term word => [word]
  | phrase words _ => words
  | _ => []

def wordCount (token : Token) : Nat := token.words.length

def opensOperand : Token → Bool
  | term _ | phrase _ _ | not | leftParen => true
  | _ => false

def closesOperand : Token → Bool
  | term _ | phrase _ _ | rightParen => true
  | _ => false

def ofChar? : Char → Option Token
  | '&' => some and
  | '|' => some or
  | '!' => some not
  | '(' => some leftParen
  | ')' => some rightParen
  | _ => none

/--
A phrase is written in quotes, with a blank between its words and its distance behind a slash.
-/
def text : Token → Text
  | term word => word
  | phrase words none => '"' :: (Text.unwords words ++ ['"'])
  | phrase words (some distance) =>
    '"' :: (Text.unwords words ++ '"' :: '/' :: Text.decimal distance.toNat)
  | and => ['&']
  | or => ['|']
  | not => ['!']
  | leftParen => ['(']
  | rightParen => [')']

def mapWords (f : Text → Text) : Token → Token
  | term word => term (f word)
  | phrase words distance => phrase (words.map f) distance
  | token => token

theorem text_of_ofChar? {c : Char} {token : Token} (h : ofChar? c = some token) :
    token.text = [c] := by
  unfold ofChar? at h
  split at h <;> simp at h <;> subst h <;> rfl

end Token

/--
The characters that operators and parentheses are written with. They are never part of a word.
-/
def isReserved (c : Char) : Bool := (Token.ofChar? c).isSome

end BooleanSearch
