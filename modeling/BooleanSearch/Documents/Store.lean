import BooleanSearch.Documents.Corpus
import BooleanSearch.Path
import BooleanSearch.Table
import BooleanSearch.TextFile

/-!
This module contains the store of documents. Metadata says for every document ID in which corpus file
the document is and under which key. A corpus file is searched for documents when it is first needed,
and the places found then are kept; document bodies are read from the file as it is now.
-/

namespace BooleanSearch

/--
Metadata of a document.
-/
structure DocumentRecord where
  /-- The key of the document in its corpus file. -/
  key : Text
  title : Text
  link : Option Text
  /-- The corpus file. -/
  path : Text
deriving DecidableEq, Repr

abbrev OffsetIndex := Table ByteRange

/--
The index of a corpus file. Of several documents with the same key the last one counts.
-/
def OffsetIndex.ofText (text : Text) : OffsetIndex :=
  (Corpus.spans text).foldl (fun index span => index.insert span.key span.body) ∅

/--
The indexes that have been made so far, by the components of the paths of corpus files.
-/
abbrev OffsetIndexes := Std.TreeMap (List Text) OffsetIndex compare

/--
The metadata of all documents. The position of a record is the document ID.
-/
structure DocumentStore where
  records : Array DocumentRecord

namespace DocumentStore

/--
A record has four fields separated by tabs: key, link, title and path. An empty link is none.
-/
def record? (line : Text) : Except Nat DocumentRecord :=
  match Text.splitOn (· == '\t') line with
  | [key, link, title, path] =>
    .ok { key, title, link := if link.isEmpty then none else some link, path }
  | fields => .error fields.length

/--
The records on numbered lines. The first line with a wrong number of fields decides the error.
-/
def readRecords (path : Text) : List (Text × Nat) → Except SearchError (List DocumentRecord)
  | [] => .ok []
  | (line, number) :: lines =>
    match record? line with
    | .error found => .error (.config (.fieldCount path number found))
    | .ok record => (readRecords path lines).map (record :: ·)

def ofRecords (records : List DocumentRecord) : DocumentStore := ⟨records.toArray⟩

def ofFile (path : Text) (content : Except IoFailure Bytes) : Except SearchError DocumentStore := do
  let text ← textOfFile content
  let records ← readRecords path (text.recordLines.zipIdx 1)
  return ofRecords records

def get? (store : DocumentStore) (id : UInt32) : Option DocumentRecord := store.records[id.toNat]?

def size (store : DocumentStore) : Nat := store.records.size

def flatten (body : Bytes) : Text :=
  (Utf8.decodeLossy body).map fun c => if c = '\r' ∨ c = '\n' then ' ' else c

variable {m : Type → Type} [Monad m]

def indexOf (readFile : Text → m (Except IoFailure Bytes)) (path : Text) :
    ExceptT SearchError (StateT OffsetIndexes m) OffsetIndex := do
  match (← get)[Path.components path]? with
  | some index => return index
  | none =>
    let text ← textOfFile (← readFile path)
    let index := OffsetIndex.ofText text
    modify (·.insert (Path.components path) index)
    return index

def text (store : DocumentStore) (readFile : Text → m (Except IoFailure Bytes)) (id : UInt32) :
    ExceptT SearchError (StateT OffsetIndexes m) Text := do
  match store.get? id with
  | none => throw (.documentNotFound id)
  | some record =>
    match (← indexOf readFile record.path)[record.key]? with
    | none => throw (.documentNotFound id)
    | some range =>
      match ← readFile record.path with
      | .error failure => throw (.io failure)
      | .ok file =>
        match range.of? file with
        | none => throw (.io .unexpectedEnd)
        | some body => return flatten body

end DocumentStore

end BooleanSearch
