import BooleanSearch.Config
import BooleanSearch.Metrics.Basic
import BooleanSearch.Retrieval.Link
import BooleanSearch.Retrieval.Session
import BooleanSearch.Vocabulary.Resolved
import BooleanSearch.Wire.Response

/-!
This module contains the client of the backend. Every distinct expression is registered once; its
pages are then fetched in order, one request per page, and kept.
-/

namespace BooleanSearch

def ClientConfig.fullPage (config : ClientConfig) : Nat := max config.pageSize 1

/--
What changes while a client is at work.
-/
structure ClientState where
  session : Session := {}
  metrics : Metrics := {}

/--
Work of a client that may fail. What was learnt before a failure is kept.
-/
abbrev ClientM (m : Type → Type) := ExceptT SearchError (StateT ClientState m)

namespace ClientM

variable {m : Type → Type} [Monad m]

def modifySession (f : Session → Session) : ClientM m Unit :=
  modify fun state => { state with session := f state.session }

def modifyMetrics (f : Metrics → Metrics) : ClientM m Unit :=
  modify fun state => { state with metrics := f state.metrics }

/--
Exchange an encoded request for the bytes of a response. A request that was not delivered is sent again
up to `retries` times, and each pause before that is longer than the last one by `backoff`.
-/
def deliver (link : Link m) (kind : Text) (bytes : Bytes) (backoff : Nat) :
    (retries pause : Nat) → ClientM m Bytes
  | retries, pause => do
    modifyMetrics (·.countRequest kind)
    match ← link.exchange bytes with
    | .ok response => return response
    | .error e =>
      match retries with
      | 0 => throw e
      | retries + 1 =>
        if e.isRetriable then
          link.pause pause
          deliver link kind bytes backoff retries (pause + backoff)
        else
          throw e

def send (link : Link m) (config : ClientConfig) (request : Request) : ClientM m Response := do
  let bytes ← request.encode
  let response ← deliver link request.kind bytes config.retryBackoffMs config.transportRetries
    config.retryBackoffMs
  Response.decode response

/--
The handle of a query. A query that has none is registered, and keeps its new handle even if the
backend never learns of it or rejects it.
-/
def handleOf (link : Link m) (config : ClientConfig) (key : Text) : ClientM m UInt32 := do
  match (← get).session.handle? key with
  | some handle => return handle
  | none =>
    let (handle, session) := (← get).session.register key
    modifySession fun _ => session
    match ← send link config (.new key) with
    | .bad => throw (.backendError .rejectedQuery)
    | .ok | .payload _ | .unrecognized _ =>
      modifySession (·.beginResults key)
      return handle

/--
Fetch up to `count` further pages of a query, the first of which has number `page`. A page that is not
full is the last one.
-/
def fetchFurther (link : Link m) (config : ClientConfig) (key : Text) (handle : UInt32) :
    (count page : Nat) → ClientM m Unit
  | 0, _ => return ()
  | count + 1, page => do
    match ← send link config (.existing handle) with
    | .ok | .unrecognized _ => return ()
    | .bad => throw (.backendError (.rejectedPage page handle))
    | .payload ids =>
      if ids.isEmpty then
        return ()
      else
        modifySession (·.appendPage key ids)
        if ids.length < config.fullPage then
          return ()
        else
          fetchFurther link config key handle count (page + 1)

/--
The document IDs on a page of the results of an expression. Pages are counted from zero; those that are
not known yet are fetched up to the one that is asked for.
-/
def fetchPage (link : Link m) (config : ClientConfig) (expr : ResolvedExpr) (page : Nat) :
    ClientM m (List UInt32) := do
  let key := expr.wire
  let handle ← handleOf link config key
  modifySession (·.beginResults key)
  let cached := (← get).session.cached key
  match cached.page? page config.fullPage with
  | some ids =>
    modifyMetrics (·.countCacheHit)
    return ids
  | none =>
    if cached.isExhausted config.fullPage then
      throw (.noResults page)
    else
      let covered := cached.pagesCovered config.fullPage
      fetchFurther link config key handle (page + 1 - covered) covered
      match ((← get).session.cached key).page? page config.fullPage with
      | some ids => return ids
      | none => throw (.noResults page)

end ClientM

end BooleanSearch
