import BooleanSearch.Text.Basic

/-!
This module contains the settings of the search front end and their default values.
-/

namespace BooleanSearch

/--
How words are brought to the form under which the vocabulary lists them.
-/
structure NormalizerConfig where
  lowercase : Bool := true
  stripAccents : Bool := true
  stem : Bool := false
  language : Text := "english".toList
deriving DecidableEq, Repr

/--
Limits on the size of queries.
-/
structure QueryConfig where
  /-- Longest query that is accepted, in characters. -/
  maxQueryLength : Nat := 1000
  /-- Largest number of words in a query; the words of phrases count individually. -/
  maxTerms : Nat := 20
deriving DecidableEq, Repr

/--
How the backend is reached.
-/
structure ClientConfig where
  requestPipe : Text := "../pipe_A".toList
  responsePipe : Text := "../pipe_B".toList
  /-- The number of document IDs in a full page of the backend. -/
  pageSize : Nat := 50
  /-- Time allowed for one exchange; zero means no limit. -/
  timeoutMs : Nat := 5000
  /-- How often a request that was not delivered is sent again. -/
  transportRetries : Nat := 1
  /-- The pause before the first repetition; each further one is longer by the same amount. -/
  retryBackoffMs : Nat := 50
deriving DecidableEq, Repr

/--
The size of snippets and how their context grows.
-/
structure SnippetConfig where
  /-- Longest snippet, in characters. -/
  maxLength : Nat := 300
  /-- Tokens of context that are tried first on each side of a hit. -/
  radiusInit : Nat := 1
  /-- By how many tokens the context grows in every round. -/
  radiusStep : Nat := 5
  /-- Length of the head of a document that stands in for a snippet, in tokens. -/
  fallbackTokens : Nat := 50
deriving DecidableEq, Repr

structure EngineConfig where
  /-- The file that holds the vocabulary. -/
  termsPath : Text := []
  /-- The file that holds the metadata of the documents. -/
  metaPath : Text := []
  normalizer : NormalizerConfig := {}
  query : QueryConfig := {}
  client : ClientConfig := {}
  snippet : SnippetConfig := {}
deriving DecidableEq, Repr

namespace EngineConfig

def ofFiles (termsPath metaPath : Text) : EngineConfig := { termsPath, metaPath }

def withPipes (config : EngineConfig) (requestPipe responsePipe : Text) : EngineConfig :=
  { config with client := { config.client with requestPipe, responsePipe } }

def withTimeoutMs (config : EngineConfig) (timeoutMs : Nat) : EngineConfig :=
  { config with client := { config.client with timeoutMs } }

def withStemming (config : EngineConfig) (stem : Bool) : EngineConfig :=
  { config with normalizer := { config.normalizer with stem } }

def withSnippetLength (config : EngineConfig) (maxLength : Nat) : EngineConfig :=
  { config with snippet := { config.snippet with maxLength } }

end EngineConfig

end BooleanSearch
