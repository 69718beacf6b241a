import BooleanSearch.Query.Postfix
import BooleanSearch.Table
import BooleanSearch.Term.Normalizer
import BooleanSearch.TextFile
import BooleanSearch.Vocabulary.Resolved

/-!
This module contains the vocabulary, which gives each known word its ID, and the resolution of
expressions: every word is normalized and replaced by its ID, and one unknown word makes the whole
expression fail.
-/

namespace BooleanSearch

/--
The known words with their IDs.
-/
structure Vocabulary where
  ids : Table UInt32

namespace Vocabulary

/--
The vocabulary of a list of words, where the ID of a word is its position in the list. A word that is
listed again keeps its first ID.
-/
def ofTerms (terms : List Text) : Vocabulary where
  ids := terms.zipIdx.foldl (fun ids (term, position) =>
    ids.insertIfNew term (UInt32.ofNat position)) ∅

def ofFile (content : Except IoFailure Bytes) : Except SearchError Vocabulary :=
  (textOfFile content).map fun text => ofTerms text.recordLines

def id? (vocabulary : Vocabulary) (term : Text) : Option UInt32 := vocabulary.ids[term]?

def contains (vocabulary : Vocabulary) (term : Text) : Bool := vocabulary.ids.contains term

def size (vocabulary : Vocabulary) : Nat := vocabulary.ids.size

def isEmpty (vocabulary : Vocabulary) : Bool := vocabulary.ids.isEmpty

def lookup (vocabulary : Vocabulary) (normalize : Normalizer) (word : Text) :
    Except SearchError UInt32 :=
  match vocabulary.id? (normalize word) with
  | some id => .ok id
  | none => .error (.unknownTerm (normalize word))

def resolveToken (vocabulary : Vocabulary) (normalize : Normalizer) :
    Token → Except SearchError ResolvedToken
  | .term word => (vocabulary.lookup normalize word).map .term
  | .phrase words distance =>
    (words.mapM (vocabulary.lookup normalize)).map fun ids => .phrase ids distance
  | .and => .ok .and
  | .or => .ok .or
  | .not => .ok .not
  | .leftParen | .rightParen => .error (.malformed .parenthesisInPostfix)

/--
Resolve every word of an expression. The first unknown word decides the error.
-/
def resolve (vocabulary : Vocabulary) (normalize : Normalizer) (expr : Postfix) :
    Except SearchError ResolvedExpr :=
  (expr.tokens.mapM (vocabulary.resolveToken normalize)).map ResolvedExpr.mk

end Vocabulary

end BooleanSearch
