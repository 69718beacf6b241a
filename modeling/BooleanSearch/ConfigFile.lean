import BooleanSearch.Config
import BooleanSearch.Json.Value

/-!
This module contains the reading of configurations from JSON. Nothing has a default there: every field
has to be given, exactly once and with a value of its type.
-/

namespace BooleanSearch

open JsonValue

def NormalizerConfig.ofJson? (json : JsonValue) : Option NormalizerConfig := do
  match ← json.fields? ["lowercase".toList, "strip_accents".toList, "stem".toList,
    "language".toList] with
  | [lowercase, stripAccents, stem, language] =>
    return { lowercase := ← lowercase.bool?, stripAccents := ← stripAccents.bool?,
             stem := ← stem.bool?, language := ← language.text? }
  | _ => none

def QueryConfig.ofJson? (json : JsonValue) : Option QueryConfig := do
  match ← json.fields? ["max_query_length".toList, "max_terms".toList] with
  | [maxQueryLength, maxTerms] =>
    return { maxQueryLength := ← maxQueryLength.unsigned? UInt64.size, maxTerms := ← maxTerms.unsigned? UInt64.size }
  | _ => none

def ClientConfig.ofJson? (json : JsonValue) : Option ClientConfig := do
  match ← json.fields? ["request_pipe".toList, "response_pipe".toList, "page_size".toList,
    "timeout_ms".toList, "transport_retries".toList, "retry_backoff_ms".toList] with
  | [requestPipe, responsePipe, pageSize, timeoutMs, transportRetries, retryBackoffMs] =>
    return { requestPipe := ← requestPipe.text?, responsePipe := ← responsePipe.text?,
             pageSize := ← pageSize.unsigned? UInt64.size, timeoutMs := ← timeoutMs.unsigned? UInt64.size,
             transportRetries := ← transportRetries.unsigned? UInt32.size,
             retryBackoffMs := ← retryBackoffMs.unsigned? UInt64.size }
  | _ => none

def SnippetConfig.ofJson? (json : JsonValue) : Option SnippetConfig := do
  match ← json.fields? ["max_length".toList, "radius_init".toList, "radius_step".toList,
    "fallback_tokens".toList] with
  | [maxLength, radiusInit, radiusStep, fallbackTokens] =>
    return { maxLength := ← maxLength.unsigned? UInt64.size, radiusInit := ← radiusInit.unsigned? UInt64.size,
             radiusStep := ← radiusStep.unsigned? UInt64.size,
             fallbackTokens := ← fallbackTokens.unsigned? UInt64.size }
  | _ => none

def EngineConfig.ofJson? (json : JsonValue) : Option EngineConfig := do
  match ← json.fields? ["terms_path".toList, "meta_path".toList, "normalizer".toList,
    "query".toList, "client".toList, "snippet".toList] with
  | [termsPath, metaPath, normalizer, query, client, snippet] =>
    return { termsPath := ← termsPath.text?, metaPath := ← metaPath.text?,
             normalizer := ← NormalizerConfig.ofJson? normalizer,
             query := ← QueryConfig.ofJson? query, client := ← ClientConfig.ofJson? client,
             snippet := ← SnippetConfig.ofJson? snippet }
  | _ => none

def EngineConfig.ofText? (text : Text) : Option EngineConfig :=
  (JsonValue.ofText? text).bind EngineConfig.ofJson?

end BooleanSearch
