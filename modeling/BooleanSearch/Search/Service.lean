import BooleanSearch.Documents.Store
import BooleanSearch.Host
import BooleanSearch.Query.Compiler
import BooleanSearch.Retrieval.Client
import BooleanSearch.Search.Page
import BooleanSearch.Snippet.Basic
import BooleanSearch.Vocabulary.Basic

/-!
This module contains the search service, which compiles a query, resolves it against the vocabulary,
fetches one page of document IDs from the backend, and illustrates each document with a snippet.
-/

namespace BooleanSearch

structure SearchService where
  config : EngineConfig
  normalize : Normalizer
  vocabulary : Vocabulary
  store : DocumentStore

/--
What changes while a service is at work.
-/
structure SearchState extends ClientState where
  indexes : OffsetIndexes := ∅

abbrev SearchM (m : Type → Type) := ExceptT SearchError (StateT SearchState m)

namespace SearchM

variable {m : Type → Type} [Monad m]

def liftClient {α : Type} (action : ClientM m α) : SearchM m α :=
  ExceptT.mk do
    let (result, client) ← StateT.lift (action.run.run (← get).toClientState)
    modify fun state => { state with toClientState := client }
    return result

def liftStore {α : Type} (action : ExceptT SearchError (StateT OffsetIndexes m) α) : SearchM m α :=
  ExceptT.mk do
    let (result, indexes) ← StateT.lift (action.run.run (← get).indexes)
    modify fun state => { state with indexes }
    return result

end SearchM

namespace SearchService

def new (stemmers : Stemmers) (config : EngineConfig) (vocabulary : Vocabulary)
    (store : DocumentStore) : Except SearchError SearchService :=
  (Normalizer.ofConfig stemmers config.normalizer).map fun normalize =>
    { config, normalize, vocabulary, store }

/--
The query as it was understood. Words are normalized, and there is one blank between tokens.
-/
def clearText (normalize : Normalizer) (query : CompiledQuery) : Except SearchError Text :=
  match tokenize query.source with
  | .ok tokens => .ok (Text.unwords (tokens.map fun token => (token.mapWords normalize).text))
  | .error malformation => .error (.malformed malformation)

/--
The words that snippets should show: the distinct normal forms of the words of a query.
-/
def queryTerms (normalize : Normalizer) (query : CompiledQuery) : List Text :=
  Text.distinct (query.plainTerms.map normalize)

variable {m : Type → Type} [Monad m]

def ofConfig (stemmers : Stemmers) (readFile : Text → m (Except IoFailure Bytes))
    (config : EngineConfig) : ExceptT SearchError m SearchService := do
  let vocabulary ← Vocabulary.ofFile (← readFile config.termsPath)
  let store ← DocumentStore.ofFile config.metaPath (← readFile config.metaPath)
  new stemmers config vocabulary store

def snippet (service : SearchService) (host : Host m) (terms : List Text) (id : UInt32) :
    SearchM m Snippet := do
  let started ← host.clock
  let text ← SearchM.liftStore (service.store.text host.readFile id)
  let snippet := Snippet.ofText service.config.snippet terms service.normalize text
  let finished ← host.clock
  modify fun state =>
    { state with metrics := state.metrics.recordSnippet (finished - started) snippet.fallback }
  return snippet

/--
What is shown for a document. A document without metadata has its ID for a title, and one that cannot
be read has an empty snippet.
-/
def hit (service : SearchService) (host : Host m) (terms : List Text) (docId : UInt32) :
    StateT SearchState m SearchHit := do
  match service.store.get? docId with
  | none =>
    return { docId, title := '#' :: Text.decimal docId.toNat, link := none, snippet := [] }
  | some record =>
    let snippet :=
      match ← (service.snippet host terms docId).run with
      | .ok snippet => snippet.text
      | .error _ => []
    return { docId, title := record.title, link := record.link, snippet }

def find (service : SearchService) (host : Host m) (query : Text) (page : Nat) :
    SearchM m SearchPage := do
  let compiled ← compile service.config.query query
  let query ← clearText service.normalize compiled
  let resolved ← service.vocabulary.resolve service.normalize compiled.expr
  let ids ← SearchM.liftClient
    (ClientM.fetchPage host.toLink service.config.client resolved page)
  let terms := queryTerms service.normalize compiled
  let hits ← ids.mapM (fun id => ExceptT.lift (service.hit host terms id))
  return { query, page, hits, pages := pageWindow page navigationPages }

/--
Find a page of documents for a query, and count the request, its time or its failure, and the
registered queries.
-/
def search (service : SearchService) (host : Host m) (query : Text) (page : Nat) :
    StateT SearchState m (Except SearchError SearchPage) := do
  let started ← host.clock
  let result ← (service.find host query page).run
  let finished ← host.clock
  modify fun state =>
    let metrics :=
      match result with
      | .ok _ => state.metrics.recordSearch (finished - started)
      | .error e => state.metrics.recordError e.kind
    { state with metrics := metrics.setRegisteredQueries state.session.queryCount }
  return result

end SearchService

end BooleanSearch
