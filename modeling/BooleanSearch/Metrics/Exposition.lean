import BooleanSearch.Decimal.Shortest
import BooleanSearch.Metrics.Basic

/-!
This module contains the text in which metrics are published. Every family of samples is headed by a
help line and a type line; families are in the order of their names, and a family without samples is
left out.
-/

namespace BooleanSearch.Exposition

inductive Kind where
  | counter
  | gauge
  | histogram

def Kind.text : Kind → Text
  | counter => "counter".toList
  | gauge => "gauge".toList
  | histogram => "histogram".toList

structure Sample where
  /-- What is appended to the name of the family. -/
  suffix : Text := []
  label : Option (Text × Text) := none
  value : Text

structure Family where
  name : Text
  help : Text
  kind : Kind
  samples : List Sample

def escape (value : Text) : Text :=
  value.flatMap fun c =>
    if c = '\\' then ['\\', '\\'] else if c = '\n' then ['\\', 'n']
    else if c = '"' then ['\\', '"'] else [c]

def Sample.line (family : Text) (sample : Sample) : Text :=
  let label :=
    match sample.label with
    | none => []
    | some (name, value) => '{' :: name ++ ['=', '"'] ++ escape value ++ ['"', '}']
  family ++ sample.suffix ++ label ++ ' ' :: sample.value

def Family.lines (family : Family) : List Text :=
  if family.samples.isEmpty then
    []
  else
    ("# HELP ".toList ++ family.name ++ ' ' :: family.help) ::
    ("# TYPE ".toList ++ family.name ++ ' ' :: family.kind.text) ::
    family.samples.map (Sample.line family.name)

def counter (name help : String) (value : Nat) : Family where
  name := name.toList
  help := help.toList
  kind := .counter
  samples := [{ value := Text.decimal value }]

def counters (name help label : String) (counts : Table Nat) : Family where
  name := name.toList
  help := help.toList
  kind := .counter
  samples := counts.toList.map fun (value, n) =>
    { label := some (label.toList, value), value := Text.decimal n }

def gauge (name help : String) (value : Int) : Family where
  name := name.toList
  help := help.toList
  kind := .gauge
  samples := [{ value := Decimal.ofFloat (Float.ofInt value) }]

def histogram (name help : String) (histogram : Histogram) : Family where
  name := name.toList
  help := help.toList
  kind := .histogram
  samples :=
    let bucket (bound : Text) (n : Nat) : Sample :=
      { suffix := "_bucket".toList, label := some ("le".toList, bound), value := Text.decimal n }
    histogram.buckets.map (fun (bound, n) => bucket (Decimal.ofFloat bound) n) ++
      [bucket "+Inf".toList histogram.count,
        { suffix := "_sum".toList, value := Decimal.ofFloat histogram.sum },
        { suffix := "_count".toList, value := Text.decimal histogram.count }]

end Exposition

open Exposition

namespace Metrics

def families (metrics : Metrics) : List Family :=
  [counters "quarry_backend_requests_total" "Requests sent to the retrieval backend by type" "type"
      metrics.backendRequests,
    counter "quarry_cache_hits_total" "Pages served from the result cache" metrics.cacheHits,
    counter "quarry_queries_total" "Total number of search requests" metrics.queries,
    counters "quarry_query_errors_total" "Failed search requests by kind" "kind" metrics.errors,
    gauge "quarry_registered_queries" "Distinct queries registered with the backend"
      metrics.registeredQueries,
    histogram "quarry_search_latency_seconds" "End-to-end search latency" metrics.searchLatency,
    counter "quarry_snippet_fallbacks_total" "Snippets that fell back to the document head"
      metrics.snippetFallbacks,
    histogram "quarry_snippet_latency_seconds" "Per-document snippet latency"
      metrics.snippetLatency]

def lines (metrics : Metrics) : List Text := metrics.families.flatMap Family.lines

def text (metrics : Metrics) : Text := metrics.lines.flatMap fun line => line ++ ['\n']

end Metrics

end BooleanSearch
