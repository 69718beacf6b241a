import BooleanSearch.Term.Normalizer
import BooleanSearch.Text.Alphanumeric

/-!
This module contains the tokens of a document and the search for the words of a query among them. Every
run of alphanumeric characters is a word, and every other character is a token of its own, so that the
tokens put together are the text.
-/

namespace BooleanSearch

/--
A word of the text that was searched for.
-/
structure Occurrence where
  /-- The number of tokens in front of it. -/
  position : Nat
  /-- Words with the same normal form share a rank; ranks are given from one on. -/
  rank : Nat
deriving DecidableEq, Repr

structure ScannedText where
  tokens : List Text
  occurrences : List Occurrence
  /-- The number of normal forms that occur. -/
  distinct : Nat
deriving DecidableEq, Repr

def Text.tokens (text : Text) : List Text :=
  text.splitBy fun c d => isAlphanumeric c && isAlphanumeric d

def Text.isWord (token : Text) : Bool := token.head?.any isAlphanumeric

namespace ScannedText

def hits (terms : List Text) (normalize : Normalizer) (tokens : List Text) :
    List (Nat × Text) :=
  tokens.zipIdx.filterMap fun (token, position) =>
    if token.isWord then
      let form := normalize token
      if terms.contains form then some (position, form) else none
    else
      none

/--
Search a text for words whose normal forms are among `terms`. The ranks of the normal forms follow
their first appearance.
-/
def ofText (terms : List Text) (normalize : Normalizer) (text : Text) : ScannedText :=
  let tokens := text.tokens
  let found := hits terms normalize tokens
  let forms := Text.distinct (found.map Prod.snd)
  { tokens
    occurrences := found.map fun (position, form) => ⟨position, forms.idxOf form + 1⟩
    distinct := forms.length }

def length (scanned : ScannedText) : Nat := scanned.tokens.flatten.length

end ScannedText

end BooleanSearch
