import BooleanSearch.Error
import BooleanSearch.Json.Layout
import BooleanSearch.Search.Page

/-!
This module contains what the program prints for a query: a page of results or an error, as plain text
or as JSON. In plain text pages are counted from one.
-/

namespace BooleanSearch

namespace SearchHit

def plain (hit : SearchHit) : Text :=
  let link :=
    match hit.link with
    | some link => "  <".toList ++ link ++ ['>']
    | none => []
  '\n' :: hit.title ++ link ++ "\n    ".toList ++ hit.snippet ++ ['\n']

def json (hit : SearchHit) : JsonLayout :=
  .object [("doc_id", .number hit.docId.toNat), ("title", .string hit.title),
    ("link", (hit.link.map .string).getD .null), ("snippet", .string hit.snippet)]

end SearchHit

namespace SearchPage

def plain (page : SearchPage) : Text :=
  "Query: ".toList ++ page.query ++ "  (page ".toList ++ Text.decimal (page.page + 1) ++
    ")\n".toList ++ page.hits.flatMap SearchHit.plain ++ "\nPages: ".toList ++
    Text.unwords (page.pages.map fun page => Text.decimal (page + 1)) ++ ['\n']

def json (page : SearchPage) : JsonLayout :=
  .object [("query", .string page.query), ("page", .number page.page),
    ("hits", .array (page.hits.map SearchHit.json)), ("pages", .array (page.pages.map .number))]

end SearchPage

namespace SearchError

def plain (e : SearchError) : Text := e.userMessage ++ ['\n']

def json (e : SearchError) : JsonLayout :=
  .object [("error", .string e.kind), ("message", .string e.userMessage)]

end SearchError

def printed (json : Bool) : Except SearchError SearchPage → Text
  | .ok page => if json then page.json.line else page.plain
  | .error e => if json then e.json.line else e.plain

end BooleanSearch
