import BooleanSearch.Text.Decimal

/-!
This module contains expressions whose words are replaced by the IDs of the vocabulary, and their
form on the wire, which is also the key under which their results are kept.
-/

namespace BooleanSearch

inductive ResolvedToken where
  /-- A word with the given ID. -/
  | term (id : UInt32)
  | phrase (ids : List UInt32) (distance : Option UInt32)
  | and
  | or
  | not
deriving DecidableEq, Repr

/--
The parts in which a token is written: numbers, operators, and quotes around the numbers of a phrase
and its distance.
-/
def ResolvedToken.parts : ResolvedToken → List Text
  | term id => [Text.decimal id.toNat]
  | phrase ids distance =>
    let words := ids.map fun id => Text.decimal id.toNat
    let last := distance.toList.map fun distance => '/' :: Text.decimal distance.toNat
    ['"'] :: (words ++ (last ++ [['"']]))
  | and => [['&']]
  | or => [['|']]
  | not => [['!']]

/--
An expression in postfix order whose words are resolved.
-/
structure ResolvedExpr where
  tokens : List ResolvedToken
deriving DecidableEq, Repr

def ResolvedExpr.wire (expr : ResolvedExpr) : Text :=
  Text.unwords (expr.tokens.flatMap ResolvedToken.parts)

end BooleanSearch
