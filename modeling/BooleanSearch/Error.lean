import BooleanSearch.Query.Malformation

/-!
This module contains the errors of the search front end. A constructor says what went wrong; the
texts for the log and for the person who typed the query are functions of it.
-/

namespace BooleanSearch

/--
Failures of the operating system.
-/
inductive IoFailure where
  | notFound
  | notDirectory
  | isDirectory
  | notUtf8
  /-- A file ends before the range that was to be read. -/
  | unexpectedEnd
  | other (reason : Text)
deriving DecidableEq, Repr

def IoFailure.text : IoFailure → Text
  | notFound => "No such file or directory (os error 2)".toList
  | notDirectory => "Not a directory (os error 20)".toList
  | isDirectory => "Is a directory (os error 21)".toList
  | notUtf8 => "stream did not contain valid UTF-8".toList
  | unexpectedEnd => "failed to fill whole buffer".toList
  | other reason => reason

/--
Answers of the backend that report a failure or cannot be read.
-/
inductive BackendFault where
  | rejectedQuery
  | rejectedPage (page : Nat) (handle : UInt32)
  | emptyResponse
  | truncatedHeader
  /-- A payload that announces `expected` document IDs and then has only `bytes` bytes. -/
  | truncatedPayload (expected bytes : Nat)
  | other (reason : Text)
deriving DecidableEq, Repr

def BackendFault.text : BackendFault → Text
  | rejectedQuery => "backend rejected the query".toList
  | rejectedPage page handle =>
    "backend rejected page ".toList ++ Text.decimal page ++ " of query ".toList ++
      Text.decimal handle.toNat
  | emptyResponse => "empty response".toList
  | truncatedHeader => "truncated payload header".toList
  | truncatedPayload expected bytes =>
    "truncated payload: expected ".toList ++ Text.decimal expected ++ " ids, got ".toList ++
      Text.decimal bytes ++ " bytes".toList
  | other reason => reason

/--
Reasons why no answer of the backend can be waited for.
-/
inductive Unavailability where
  | stillPending
  | noResponse (milliseconds : Nat)
  | exchangeTerminated
  | other (reason : Text)
deriving DecidableEq, Repr

def Unavailability.text : Unavailability → Text
  | stillPending => "previous exchange is still pending".toList
  | noResponse milliseconds =>
    "no response within ".toList ++ Text.decimal milliseconds ++ " ms".toList
  | exchangeTerminated => "exchange thread terminated".toList
  | other reason => reason

/--
Defects of the configuration and of the files it names.
-/
inductive ConfigFault where
  | noStemmer (language : Text)
  /-- A line of document metadata, counted from one, with a wrong number of fields. -/
  | fieldCount (path : Text) (line found : Nat)
  | other (reason : Text)
deriving DecidableEq, Repr

def ConfigFault.text : ConfigFault → Text
  | noStemmer language => "no stemmer available for language '".toList ++ language ++ ['\'']
  | fieldCount path line found =>
    path ++ ':' :: Text.decimal line ++ ": expected 4 tab-separated fields, found ".toList ++
      Text.decimal found
  | other reason => reason

inductive SearchError where
  | emptyQuery
  | queryTooLong (length max : Nat)
  | malformed (malformation : Malformation)
  | tooManyTerms (count max : Nat)
  | unknownTerm (term : Text)
  | backendError (fault : BackendFault)
  | backendUnavailable (reason : Unavailability)
  | noResults (page : Nat)
  | documentNotFound (id : UInt32)
  /-- The request never reached the backend: its channel could not be opened or written. -/
  | requestNotDelivered (failure : IoFailure)
  | io (failure : IoFailure)
  | config (fault : ConfigFault)
deriving DecidableEq, Repr

namespace SearchError

/--
A failed request may be sent again only if it never reached the backend. A request that the backend
has read may have registered a query or advanced a cursor, so any later failure is final.
-/
def isRetriable : SearchError → Bool
  | requestNotDelivered _ => true
  | _ => false

/--
The errors that are found before anything is sent to the backend.
-/
def isLocal : SearchError → Bool
  | emptyQuery | queryTooLong _ _ | malformed _ | tooManyTerms _ _ => true
  | _ => false

def kind : SearchError → Text
  | emptyQuery => "empty_query".toList
  | queryTooLong _ _ => "query_too_long".toList
  | malformed _ => "malformed_expression".toList
  | tooManyTerms _ _ => "too_many_terms".toList
  | unknownTerm _ => "unknown_term".toList
  | backendError _ => "backend_error".toList
  | backendUnavailable _ => "backend_unavailable".toList
  | noResults _ => "no_results".toList
  | documentNotFound _ => "document_not_found".toList
  | requestNotDelivered _ => "request_not_delivered".toList
  | io _ => "io".toList
  | config _ => "config".toList

def message : SearchError → Text
  | emptyQuery => "Empty query".toList
  | queryTooLong length max =>
    "Query too long: ".toList ++ Text.decimal length ++ " characters, maximum is ".toList ++
      Text.decimal max
  | malformed malformation => "Malformed expression: ".toList ++ malformation.text
  | tooManyTerms count max =>
    "Too many terms: ".toList ++ Text.decimal count ++ ", maximum is ".toList ++ Text.decimal max
  | unknownTerm term => "Unknown term: ".toList ++ term
  | backendError fault => "Backend error: ".toList ++ fault.text
  | backendUnavailable reason => "Backend unavailable: ".toList ++ reason.text
  | noResults page => "No results for page ".toList ++ Text.decimal page
  | documentNotFound id => "Document not found: ".toList ++ Text.decimal id.toNat
  | requestNotDelivered failure => "Request not delivered: ".toList ++ failure.text
  | io failure => "IO error: ".toList ++ failure.text
  | config fault => "Configuration error: ".toList ++ fault.text

/--
What the person who typed the query is told. It reveals nothing about the inside of the system.
-/
def userMessage : SearchError → Text
  | emptyQuery => "Empty query".toList
  | queryTooLong _ max =>
    "Query exceeds the maximum length of ".toList ++ Text.decimal max ++ " characters".toList
  | malformed _ => "Bad expression".toList
  | tooManyTerms _ max =>
    "Too many words in the query (maximum ".toList ++ Text.decimal max ++ [')']
  | unknownTerm _ | noResults _ => "Nothing found".toList
  | backendError _ | backendUnavailable _ | requestNotDelivered _ | io _ =>
    "Search backend is not available, try again later".toList
  | documentNotFound _ | config _ => "Internal error".toList

end SearchError

end BooleanSearch
