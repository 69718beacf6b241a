import BooleanSearch.Snippet.Excerpt

/-!
This module contains the snippets that illustrate why a document was found.
-/

namespace BooleanSearch

structure Snippet where
  text : Text
  /-- Whether the head of the document stands in for an excerpt. -/
  fallback : Bool
deriving DecidableEq, Repr

namespace Snippet

def head (config : SnippetConfig) (tokens : List Text) : Text :=
  Text.unwords (tokens.take config.fallbackTokens ++ [Excerpt.ellipsis])

def ofText (config : SnippetConfig) (terms : List Text) (normalize : Normalizer) (text : Text) :
    Snippet :=
  let scanned := ScannedText.ofText terms normalize text
  let excerpt := (Window.shortest? scanned.occurrences scanned.distinct).bind
    (Excerpt.ofScanned? config terms normalize scanned)
  match excerpt with
  | some text => ⟨text, false⟩
  | none => ⟨head config scanned.tokens, true⟩

end Snippet

end BooleanSearch
