import BooleanSearch.Error
import BooleanSearch.Metrics.Histogram
import BooleanSearch.Table
import BooleanSearch.Wire.Request

/-!
This module contains the counters of the search front end and the events that they count.
-/

namespace BooleanSearch

structure Metrics where
  /-- All search requests, failed ones included. -/
  queries : Nat := 0
  /-- Failed search requests by kind of error. -/
  errors : Table Nat := ∅
  /-- Requests to the backend by kind of request; every attempt to send one counts. -/
  backendRequests : Table Nat := ∅
  /-- Pages served without asking the backend. -/
  cacheHits : Nat := 0
  snippetFallbacks : Nat := 0
  registeredQueries : Int := 0
  searchLatency : Histogram := .ofBounds [0.001, 0.005, 0.01, 0.025, 0.05, 0.1, 0.25, 0.5, 1]
  snippetLatency : Histogram := .ofBounds [0.0001, 0.0005, 0.001, 0.005, 0.01, 0.05, 0.1]

namespace Metrics

def recordSearch (metrics : Metrics) (seconds : Float) : Metrics :=
  { metrics with
    queries := metrics.queries + 1
    searchLatency := metrics.searchLatency.observe seconds }

def recordError (metrics : Metrics) (kind : Text) : Metrics :=
  { metrics with
    queries := metrics.queries + 1
    errors := metrics.errors.increment kind }

/--
The snippet of a document took the given number of seconds; `fallback` tells whether the head of the
document stands in for it.
-/
def recordSnippet (metrics : Metrics) (seconds : Float) (fallback : Bool) : Metrics :=
  { metrics with
    snippetLatency := metrics.snippetLatency.observe seconds
    snippetFallbacks := metrics.snippetFallbacks + fallback.toNat }

/--
Set the number of registered queries. The gauge is a signed number of 64 bits.
-/
def setRegisteredQueries (metrics : Metrics) (count : Nat) : Metrics :=
  { metrics with registeredQueries := Int.bmod count UInt64.size }

def countRequest (metrics : Metrics) (kind : Text) : Metrics :=
  { metrics with backendRequests := metrics.backendRequests.increment kind }

def countCacheHit (metrics : Metrics) : Metrics :=
  { metrics with cacheHits := metrics.cacheHits + 1 }

end Metrics

end BooleanSearch
