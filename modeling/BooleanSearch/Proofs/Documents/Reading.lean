import Mathlib.Data.Set.Insert
import BooleanSearch.Documents.Store
import BooleanSearch.Proofs.Documents.Paths
import BooleanSearch.Proofs.Documents.Places
import BooleanSearch.Proofs.Documents.Writing

/-!
This module contains the theorem on the indexes which a store of documents keeps. As long as files stay
as they are once they have been searched, a document is found and read as by a store that has kept
nothing. There is one exception, since an index is shared by all spellings of a path: if the spelling of
a document is refused while the file was searched under another one, then a key that the file does not
have is reported in place of the refusal.
-/

namespace BooleanSearch

namespace OffsetIndex

theorem getElem?_foldl_insert {spans : List Corpus.Span} {key : Text}
    (h : ∀ span ∈ spans, span.key ≠ key) (index : OffsetIndex) :
    (spans.foldl (fun index span => index.insert span.key span.body) index)[key]? =
      index[key]? := by
  induction spans generalizing index with
  | nil => rfl
  | cons span spans ih =>
    rw [List.forall_mem_cons] at h
    rw [List.foldl_cons, ih h.2, Std.TreeMap.getElem?_insert]
    simp [h.1]

theorem getElem?_ofText_eq_none {text key : Text}
    (h : ∀ span ∈ Corpus.spans text, span.key ≠ key) : (ofText text)[key]? = none := by
  rw [ofText, getElem?_foldl_insert h]
  rfl

theorem getElem?_ofText_eq_some {text key : Text} {earlier later : List Corpus.Span}
    {span : Corpus.Span} (hspans : Corpus.spans text = earlier ++ span :: later)
    (hkey : span.key = key) (hlast : ∀ other ∈ later, other.key ≠ key) :
    (ofText text)[key]? = some span.body := by
  rw [ofText, hspans, List.foldl_append, List.foldl_cons, getElem?_foldl_insert hlast, hkey,
    Std.TreeMap.getElem?_insert_self]

theorem exists_last_or_forall_ne (spans : List Corpus.Span) (key : Text) :
    (∀ span ∈ spans, span.key ≠ key) ∨
      ∃ earlier span later, spans = earlier ++ span :: later ∧ span.key = key ∧
        ∀ other ∈ later, other.key ≠ key := by
  induction spans with
  | nil => exact .inl nofun
  | cons span spans ih =>
    rcases ih with hnone | ⟨earlier, last, later, rfl, hkey, hlast⟩
    · by_cases hspan : span.key = key
      · exact .inr ⟨[], span, spans, rfl, hspan, hnone⟩
      · exact .inl (List.forall_mem_cons.mpr ⟨hspan, hnone⟩)
    · exact .inr ⟨span :: earlier, last, later, rfl, hkey, hlast⟩

end OffsetIndex

namespace DocumentStore

variable (store : DocumentStore) (files : Files) (indexes : OffsetIndexes)

def lookup (id : UInt32) : Except SearchError Text × OffsetIndexes :=
  ((store.text (m := Id) files id).run.run indexes).run

def readAt (files : Files) (id : UInt32) (record : DocumentRecord) (index : OffsetIndex) :
    Except SearchError Text :=
  match index[record.key]? with
  | none => .error (.documentNotFound id)
  | some range =>
    match files record.path with
    | .error failure => .error (.io failure)
    | .ok file =>
      match range.of? file with
      | none => .error (.io .unexpectedEnd)
      | some body => .ok (flatten body)

def searchedBy (id : UInt32) : Set Text :=
  {path | ∃ record text, store.get? id = some record ∧ record.path = path ∧
    files path = .ok (Utf8.encode text)}

/--
Which files and which indexes there may be after some look-ups, while the files change. A file that has
been searched stays as it is.
-/
inductive Reaches : (files : Files) → (searched : Set Text) → (indexes : OffsetIndexes) → Prop where
  | start {files : Files} (hfiles : files.Consistent) : Reaches files ∅ ∅
  | change {files files' : Files} {searched : Set Text} {indexes : OffsetIndexes}
      (h : Reaches files searched indexes) (hfiles : files'.Consistent)
      (hkept : ∀ path ∈ searched, files' path = files path) : Reaches files' searched indexes
  | lookup {files : Files} {searched : Set Text} {indexes : OffsetIndexes}
      (h : Reaches files searched indexes) (id : UInt32) :
      Reaches files (searched ∪ store.searchedBy files id) (store.lookup files indexes id).2

/--
What should come of looking up a document in files as they are.
-/
inductive Answers (id : UInt32) : Except SearchError Text → Prop where
  /-- There is no metadata of the document. -/
  | unknown (hrecord : store.get? id = none) : Answers id (.error (.documentNotFound id))
  /-- The corpus file cannot be read. -/
  | unreadable {record : DocumentRecord} {failure : IoFailure}
      (hrecord : store.get? id = some record) (hfile : files record.path = .error failure) :
      Answers id (.error (.io failure))
  /-- The corpus file is not the encoding of a text. -/
  | notText {record : DocumentRecord} {file : Bytes} (hrecord : store.get? id = some record)
      (hfile : files record.path = .ok file) (htext : ∀ text, file ≠ Utf8.encode text) :
      Answers id (.error (.io .notUtf8))
  /-- No document in the corpus file has the key. -/
  | missing {record : DocumentRecord} {text : Text} (hrecord : store.get? id = some record)
      (hfile : files record.path = .ok (Utf8.encode text))
      (hkey : ∀ span ∈ Corpus.spans text, span.key ≠ record.key) :
      Answers id (.error (.documentNotFound id))
  /-- The last document with the key has a body, which is shown without line breaks. -/
  | found {record : DocumentRecord} {text body : Text} {earlier later : List Corpus.Span}
      {span : Corpus.Span} (hrecord : store.get? id = some record)
      (hfile : files record.path = .ok (Utf8.encode text))
      (hspans : Corpus.spans text = earlier ++ span :: later) (hkey : span.key = record.key)
      (hlast : ∀ other ∈ later, other.key ≠ record.key) (hbody : span.body.Holds text body) :
      Answers id (.ok (body.map fun c => if c = '\r' ∨ c = '\n' then ' ' else c))

/--
The path of a document is refused, but its corpus file was searched under another spelling and does not
have the key.
-/
inductive Respelled (searched : Set Text) (id : UInt32) : Prop where
  | intro {record : DocumentRecord} {path text : Text} {failure : IoFailure}
      (hrecord : store.get? id = some record) (hrefused : files record.path = .error failure)
      (hpath : Path.components path = Path.components record.path) (hsearched : path ∈ searched)
      (hfile : files path = .ok (Utf8.encode text))
      (hkey : ∀ span ∈ Corpus.spans text, span.key ≠ record.key)

variable {store files indexes}

theorem lookup_of_unknown {id : UInt32} (h : store.get? id = none) :
    store.lookup files indexes id = (.error (.documentNotFound id), indexes) := by
  unfold lookup DocumentStore.text
  rw [h]
  rfl

theorem run_indexOf (path : Text) :
    ((indexOf (m := Id) files path).run.run indexes).run =
      match indexes[Path.components path]? with
      | some index => (.ok index, indexes)
      | none =>
        match textOfFile (files path) with
        | .error e => (.error e, indexes)
        | .ok text =>
          (.ok (OffsetIndex.ofText text),
            indexes.insert (Path.components path) (OffsetIndex.ofText text)) := by
  have hrun : ((indexOf (m := Id) files path).run.run indexes).run =
      ((match indexes[Path.components path]? with
        | some index => pure index
        | none => do
          let text ← textOfFile (files path)
          let index := OffsetIndex.ofText text
          modify (·.insert (Path.components path) index)
          return index : ExceptT SearchError (StateT OffsetIndexes Id) OffsetIndex).run.run
            indexes).run := rfl
  rw [hrun]
  cases indexes[Path.components path]? with
  | some index => rfl
  | none => cases textOfFile (files path) <;> rfl

theorem lookup_eq (id : UInt32) {record : DocumentRecord} (hrecord : store.get? id = some record) :
    store.lookup files indexes id =
      match ((indexOf (m := Id) files record.path).run.run indexes).run with
      | (.error e, indexes) => (.error e, indexes)
      | (.ok index, indexes) => (readAt files id record index, indexes) := by
  unfold lookup DocumentStore.text
  rw [hrecord]
  simp only [ExceptT.run_bind, StateT.run_bind, Id.run_bind]
  rcases ((indexOf (m := Id) files record.path).run.run indexes).run with ⟨index, indexes⟩
  cases index with
  | error e => rfl
  | ok index =>
    dsimp only [readAt]
    cases index[record.key]? with
    | none => rfl
    | some range =>
      cases files record.path with
      | error failure => rfl
      | ok file =>
        change ((match range.of? file with
          | none => throw (.io .unexpectedEnd)
          | some body => pure (flatten body) :
            ExceptT SearchError (StateT OffsetIndexes Id) Text).run.run indexes).run = _
        dsimp only
        cases range.of? file <;> rfl

theorem readAt_ofText (id : UInt32) {record : DocumentRecord} {text body : Text}
    {earlier later : List Corpus.Span} {span : Corpus.Span}
    (hfile : files record.path = .ok (Utf8.encode text))
    (hspans : Corpus.spans text = earlier ++ span :: later) (hkey : span.key = record.key)
    (hlast : ∀ other ∈ later, other.key ≠ record.key) (hbody : span.body.Holds text body) :
    readAt files id record (OffsetIndex.ofText text) =
      .ok (body.map fun c => if c = '\r' ∨ c = '\n' then ' ' else c) := by
  unfold readAt
  rw [OffsetIndex.getElem?_ofText_eq_some hspans hkey hlast, hfile]
  dsimp only
  rw [hbody.of?_encode]
  dsimp only [flatten]
  rw [Utf8.decodeLossy_encode]

theorem answers_readAt {id : UInt32} {record : DocumentRecord} {text : Text}
    (hrecord : store.get? id = some record) (hfile : files record.path = .ok (Utf8.encode text)) :
    store.Answers files id (readAt files id record (OffsetIndex.ofText text)) := by
  rcases OffsetIndex.exists_last_or_forall_ne (Corpus.spans text) record.key with
    hnone | ⟨earlier, span, later, hspans, hkey, hlast⟩
  · have hmissing : readAt files id record (OffsetIndex.ofText text) =
        .error (.documentNotFound id) := by
      rw [readAt, OffsetIndex.getElem?_ofText_eq_none hnone]
    rw [hmissing]
    exact .missing hrecord hfile hnone
  · obtain ⟨body, hbody⟩ := Corpus.exists_holds_of_mem_spans
      (show span ∈ Corpus.spans text by rw [hspans]; simp)
    rw [readAt_ofText id hfile hspans hkey hlast hbody]
    exact .found hrecord hfile hspans hkey hlast hbody

/--
The indexes that are kept are those of the corpus files which have been searched, as the files are now.
-/
structure Faithful (files : Files) (searched : Set Text) (indexes : OffsetIndexes) : Prop where
  consistent : files.Consistent
  searched_of_kept : ∀ names index, indexes[names]? = some index →
    ∃ path ∈ searched, Path.components path = names
  kept_of_searched : ∀ path ∈ searched, ∃ text, files path = .ok (Utf8.encode text) ∧
    indexes[Path.components path]? = some (OffsetIndex.ofText text)

theorem faithful_empty (hfiles : files.Consistent) : Faithful files ∅ ∅ where
  consistent := hfiles
  searched_of_kept := by
    intro names index h
    cases h
  kept_of_searched := by
    intro path h
    cases h

theorem textOfFile_encode (text : Text) : textOfFile (.ok (Utf8.encode text)) = .ok text := by
  rw [textOfFile, Utf8.decode?_encode]

theorem eq_encode_of_textOfFile {file : Except IoFailure Bytes} {text : Text}
    (h : textOfFile file = .ok text) : file = .ok (Utf8.encode text) := by
  unfold textOfFile at h
  split at h
  next => cases h
  next bytes =>
    split at h
    next hbytes =>
      cases h
      rw [Utf8.decode?_eq_some_iff.mp hbytes]
    next => cases h

theorem encode_injective {text text' : Text} (h : Utf8.encode text = Utf8.encode text') :
    text = text' := by
  have hdecode := Utf8.decode?_encode text
  rw [h, Utf8.decode?_encode, Option.some.injEq] at hdecode
  exact hdecode.symm

def found (files : Files) (id : UInt32) (record : DocumentRecord) : Except SearchError Text :=
  match textOfFile (files record.path) with
  | .error e => .error e
  | .ok text => readAt files id record (OffsetIndex.ofText text)

theorem answers_found {id : UInt32} {record : DocumentRecord}
    (hrecord : store.get? id = some record) : store.Answers files id (found files id record) := by
  unfold found
  cases hfile : files record.path with
  | error failure => exact .unreadable hrecord hfile
  | ok file =>
    cases htext : Utf8.decode? file with
    | none =>
      rw [textOfFile, htext]
      refine .notText hrecord hfile fun text hfile => ?_
      rw [hfile, Utf8.decode?_encode] at htext
      cases htext
    | some text =>
      rw [Utf8.decode?_eq_some_iff.mp htext] at hfile ⊢
      rw [textOfFile_encode]
      exact answers_readAt hrecord hfile

theorem fst_lookup_of_kept (hfiles : files.Consistent) {id : UInt32} {record : DocumentRecord}
    {path text : Text} (hrecord : store.get? id = some record)
    (hpath : Path.components path = Path.components record.path)
    (hfile : files path = .ok (Utf8.encode text))
    (hindex : indexes[Path.components path]? = some (OffsetIndex.ofText text)) :
    (store.lookup files indexes id).1 = found files id record ∨
      (∃ failure, files record.path = .error failure) ∧
        (∀ span ∈ Corpus.spans text, span.key ≠ record.key) ∧
        (store.lookup files indexes id).1 = .error (.documentNotFound id) := by
  rw [lookup_eq id hrecord, run_indexOf, ← hpath, hindex]
  dsimp only
  cases hown : files record.path with
  | ok content =>
    left
    obtain rfl := hfiles path record.path _ content hpath hfile hown
    rw [found, hown, textOfFile_encode]
  | error failure =>
    rcases OffsetIndex.exists_last_or_forall_ne (Corpus.spans text) record.key with
      hnone | ⟨earlier, span, later, hspans, hkey, hlast⟩
    · right
      refine ⟨⟨failure, rfl⟩, hnone, ?_⟩
      rw [readAt, OffsetIndex.getElem?_ofText_eq_none hnone]
    · left
      rw [found, readAt, OffsetIndex.getElem?_ofText_eq_some hspans hkey hlast, hown]
      rfl

theorem fst_lookup_of_not_kept {id : UInt32} {record : DocumentRecord}
    (hrecord : store.get? id = some record)
    (hindex : indexes[Path.components record.path]? = none) :
    (store.lookup files indexes id).1 = found files id record := by
  rw [lookup_eq id hrecord, run_indexOf, hindex, found]
  cases textOfFile (files record.path) <;> rfl

theorem fst_lookup_empty {id : UInt32} {record : DocumentRecord}
    (hrecord : store.get? id = some record) :
    (store.lookup files ∅ id).1 = found files id record :=
  fst_lookup_of_not_kept hrecord Std.TreeMap.getElem?_emptyc

theorem fst_lookup_cases {searched : Set Text} (h : Faithful files searched indexes) {id : UInt32}
    {record : DocumentRecord} (hrecord : store.get? id = some record) :
    (store.lookup files indexes id).1 = found files id record ∨
      store.Respelled files searched id := by
  cases hindex : indexes[Path.components record.path]? with
  | none => exact .inl (fst_lookup_of_not_kept hrecord hindex)
  | some index =>
    obtain ⟨path, hsearched, hpath⟩ := h.searched_of_kept _ index hindex
    obtain ⟨text, hfile, hkept⟩ := h.kept_of_searched path hsearched
    rcases fst_lookup_of_kept h.consistent hrecord hpath hfile hkept with
      hfound | ⟨⟨failure, hrefused⟩, hkey, -⟩
    · exact .inl hfound
    · exact .inr (.intro hrecord hrefused hpath hsearched hfile hkey)

theorem fst_lookup_of_respelled {searched : Set Text} (h : Faithful files searched indexes)
    {id : UInt32} (hrespelled : store.Respelled files searched id) :
    (store.lookup files indexes id).1 = .error (.documentNotFound id) := by
  obtain ⟨hrecord, hrefused, hpath, hsearched, hfile, hkey⟩ := hrespelled
  obtain ⟨text', hfile', hkept⟩ := h.kept_of_searched _ hsearched
  rw [hfile, Except.ok.injEq] at hfile'
  obtain rfl := encode_injective hfile'
  rw [lookup_eq id hrecord, run_indexOf, ← hpath, hkept]
  dsimp only
  rw [readAt, OffsetIndex.getElem?_ofText_eq_none hkey]

theorem Faithful.kept_of_kept {searched : Set Text} (h : Faithful files searched indexes)
    {path text : Text} {index : OffsetIndex} (hindex : indexes[Path.components path]? = some index)
    (hfile : files path = .ok (Utf8.encode text)) :
    indexes[Path.components path]? = some (OffsetIndex.ofText text) := by
  obtain ⟨other, hsearched, hother⟩ := h.searched_of_kept _ index hindex
  obtain ⟨text', hfile', hkept⟩ := h.kept_of_searched other hsearched
  rw [hother] at hkept
  rw [hkept, encode_injective (h.consistent path other _ _ hother.symm hfile hfile')]

theorem Faithful.search {searched : Set Text} (h : Faithful files searched indexes)
    {path text : Text} (hfile : files path = .ok (Utf8.encode text))
    (hkept : indexes[Path.components path]? = some (OffsetIndex.ofText text)) :
    Faithful files (insert path searched) indexes where
  consistent := h.consistent
  searched_of_kept names index hindex := by
    obtain ⟨other, hother, hnames⟩ := h.searched_of_kept names index hindex
    exact ⟨other, .inr hother, hnames⟩
  kept_of_searched := by
    rintro other (rfl | hother)
    · exact ⟨text, hfile, hkept⟩
    · exact h.kept_of_searched other hother

theorem Faithful.searchAnew {searched : Set Text} (h : Faithful files searched indexes)
    {path text : Text} (hfile : files path = .ok (Utf8.encode text))
    (hnone : indexes[Path.components path]? = none) :
    Faithful files (insert path searched)
      (indexes.insert (Path.components path) (OffsetIndex.ofText text)) where
  consistent := h.consistent
  searched_of_kept names index hindex := by
    rw [Std.TreeMap.getElem?_insert] at hindex
    by_cases hnames : Path.components path = names
    · exact ⟨path, .inl rfl, hnames⟩
    · rw [if_neg (by simpa using hnames)] at hindex
      obtain ⟨other, hother, hcomponents⟩ := h.searched_of_kept names index hindex
      exact ⟨other, .inr hother, hcomponents⟩
  kept_of_searched := by
    rintro other (rfl | hother)
    · exact ⟨text, hfile, Std.TreeMap.getElem?_insert_self⟩
    · obtain ⟨text', hfile', hkept⟩ := h.kept_of_searched other hother
      have hne : Path.components path ≠ Path.components other := by
        intro heq
        rw [heq, hkept] at hnone
        cases hnone
      refine ⟨text', hfile', ?_⟩
      rw [Std.TreeMap.getElem?_insert, if_neg (by simpa using hne), hkept]

theorem searchedBy_of_unknown {id : UInt32} (hrecord : store.get? id = none) :
    store.searchedBy files id = ∅ := by
  refine Set.eq_empty_iff_forall_notMem.mpr ?_
  rintro path ⟨record, text, hsome, -⟩
  rw [hrecord] at hsome
  cases hsome

theorem searchedBy_of_text {id : UInt32} {record : DocumentRecord} {text : Text}
    (hrecord : store.get? id = some record) (hfile : files record.path = .ok (Utf8.encode text)) :
    store.searchedBy files id = {record.path} := by
  ext path
  constructor
  · rintro ⟨record', text, hsome, rfl, -⟩
    rw [hrecord, Option.some.injEq] at hsome
    rw [hsome]
    rfl
  · rintro rfl
    exact ⟨record, text, hrecord, rfl, hfile⟩

theorem searchedBy_of_error {id : UInt32} {record : DocumentRecord} {e : SearchError}
    (hrecord : store.get? id = some record) (htext : textOfFile (files record.path) = .error e) :
    store.searchedBy files id = ∅ := by
  refine Set.eq_empty_iff_forall_notMem.mpr ?_
  rintro path ⟨record', text, hsome, rfl, hfile⟩
  rw [hrecord, Option.some.injEq] at hsome
  rw [hsome, hfile, textOfFile_encode] at htext
  cases htext

theorem faithful_lookup {searched : Set Text} (h : Faithful files searched indexes) (id : UInt32) :
    Faithful files (searched ∪ store.searchedBy files id) (store.lookup files indexes id).2 := by
  cases hrecord : store.get? id with
  | none =>
    rw [lookup_of_unknown hrecord, searchedBy_of_unknown hrecord, Set.union_empty]
    exact h
  | some record =>
    rw [lookup_eq id hrecord, run_indexOf]
    cases htext : textOfFile (files record.path) with
    | error e =>
      rw [searchedBy_of_error hrecord htext, Set.union_empty]
      cases indexes[Path.components record.path]? <;> exact h
    | ok text =>
      have hfile := eq_encode_of_textOfFile htext
      rw [searchedBy_of_text hrecord hfile, Set.union_singleton]
      cases hindex : indexes[Path.components record.path]? with
      | some index => exact h.search hfile (h.kept_of_kept hindex hfile)
      | none => exact h.searchAnew hfile hindex

theorem Reaches.faithful {searched : Set Text} (h : store.Reaches files searched indexes) :
    Faithful files searched indexes := by
  induction h with
  | start hfiles => exact faithful_empty hfiles
  | change h hfiles hkept ih =>
    refine ⟨hfiles, ih.searched_of_kept, fun path hpath => ?_⟩
    rw [hkept path hpath]
    exact ih.kept_of_searched path hpath
  | lookup h id ih => exact faithful_lookup ih id

theorem answers_lookup_empty (store : DocumentStore) (files : Files) (id : UInt32) :
    store.Answers files id (store.lookup files ∅ id).1 := by
  cases hrecord : store.get? id with
  | none =>
    rw [lookup_of_unknown hrecord]
    exact .unknown hrecord
  | some record =>
    rw [fst_lookup_empty hrecord]
    exact answers_found hrecord

theorem fst_lookup_eq_of_not_respelled {searched : Set Text}
    (h : Faithful files searched indexes) {id : UInt32}
    (hspelled : ¬ store.Respelled files searched id) :
    (store.lookup files indexes id).1 = (store.lookup files ∅ id).1 := by
  cases hrecord : store.get? id with
  | none => rw [lookup_of_unknown hrecord, lookup_of_unknown hrecord]
  | some record =>
    rw [fst_lookup_empty hrecord]
    exact (fst_lookup_cases h hrecord).resolve_right hspelled

theorem fst_lookup_empty_of_respelled {searched : Set Text} {id : UInt32}
    (h : store.Respelled files searched id) :
    ∃ failure, (store.lookup files ∅ id).1 = .error (.io failure) := by
  obtain ⟨hrecord, hrefused, -⟩ := h
  rw [fst_lookup_empty hrecord, found, hrefused]
  exact ⟨_, rfl⟩

theorem toOption_lookup_of_faithful {searched : Set Text} (h : Faithful files searched indexes)
    (id : UInt32) :
    (store.lookup files indexes id).1.toOption = (store.lookup files ∅ id).1.toOption := by
  by_cases hspelled : store.Respelled files searched id
  · obtain ⟨failure, hanew⟩ := fst_lookup_empty_of_respelled hspelled
    rw [fst_lookup_of_respelled h hspelled, hanew]
    rfl
  · rw [fst_lookup_eq_of_not_respelled h hspelled]

/--
As long as no corpus file is changed once it has been searched, a document is found and read as by a
store that has kept nothing, and as its metadata and the files of the moment say. Only where the path of
a document is refused and its file was searched under another spelling, the document may be reported as
missing instead.
-/
theorem lookup_eq_of_reaches {searched : Set Text} (h : store.Reaches files searched indexes)
    (id : UInt32) :
    (¬ store.Respelled files searched id →
      (store.lookup files indexes id).1 = (store.lookup files ∅ id).1 ∧
        store.Answers files id (store.lookup files indexes id).1) ∧
    (store.Respelled files searched id →
      (store.lookup files indexes id).1 = .error (.documentNotFound id) ∧
        ∃ failure, (store.lookup files ∅ id).1 = .error (.io failure)) := by
  refine ⟨fun hspelled => ?_, fun hrespelled => ?_⟩
  · have heq := fst_lookup_eq_of_not_respelled h.faithful hspelled
    rw [heq]
    exact ⟨rfl, answers_lookup_empty store files id⟩
  · exact ⟨fst_lookup_of_respelled h.faithful hrespelled,
      fst_lookup_empty_of_respelled hrespelled⟩

end DocumentStore

namespace LateFile

def document (body : Text) (h : ¬ Corpus.closeMark <:+: body) : Corpus.Document where
  attributes := [.ofKey '\t' "7".toList (by decide) (by decide)]
  body := body
  attributes_ne_nil := List.cons_ne_nil _ _
  not_infix_body := h

def pieces : List (Corpus.Filler × Corpus.Document) :=
  [(.nothing, document "old".toList (by decide)),
    (.nothing, document ['é', '\r', '\n', '!'] (by decide))]

def corpus : Text := Corpus.write pieces .nothing

def record : DocumentRecord := ⟨"7".toList, [], none, "corpus".toList⟩

def store : DocumentStore := .ofRecords [record]

def absent : Files := fun _ => .error .notFound

def present : Files := fun _ => .ok (Utf8.encode corpus)

theorem lookup_after_search :
    (store.lookup absent ∅ 0).1 = .error (.io .notFound) ∧
      (store.lookup present
        (store.lookup present (store.lookup absent ∅ 0).2 0).2 0).1 = .ok ['é', ' ', ' ', '!'] := by
  have hrecord : store.get? 0 = some record := rfl
  have habsent : (store.lookup absent ∅ 0).1 = .error (.io .notFound) :=
    DocumentStore.fst_lookup_empty hrecord
  have hconsistent : absent.Consistent := by
    intro path other content content' hpath hcontent
    cases hcontent
  have hconsistent' : present.Consistent := by
    intro path other content content' hpath hcontent hcontent'
    exact Except.ok.inj (hcontent.symm.trans hcontent')
  have hsearched : ∀ path ∈ (∅ ∪ store.searchedBy absent 0 : Set Text),
      present path = absent path := by
    rintro path (hpath | ⟨record, text, -, -, hfile⟩)
    · cases hpath
    · cases hfile
  have hreaches :=
    (((DocumentStore.Reaches.start hconsistent).lookup 0).change hconsistent' hsearched).lookup 0
  have hspelled : ¬ store.Respelled present
      (∅ ∪ store.searchedBy absent 0 ∪ store.searchedBy present 0) 0 := by
    rintro ⟨-, hrefused, -⟩
    cases hrefused
  have hspans : Corpus.spans corpus = [⟨"7".toList, 12, 15⟩] ++ ⟨"7".toList, 33, 38⟩ :: [] :=
    Corpus.spansFrom_write pieces _ []
  have hbody : (⟨33, 38⟩ : ByteRange).Holds corpus ['é', '\r', '\n', '!'] :=
    ⟨"<doc\tid=\"7\">old</doc><doc\tid=\"7\">".toList, "</doc>".toList, by decide, by decide⟩
  refine ⟨habsent, ?_⟩
  rw [((DocumentStore.lookup_eq_of_reaches hreaches 0).1 hspelled).1,
    DocumentStore.fst_lookup_empty hrecord, DocumentStore.found]
  unfold present
  rw [DocumentStore.textOfFile_encode]
  exact DocumentStore.readAt_ofText 0 rfl hspans rfl (by simp) hbody

end LateFile

namespace TrailingSeparator

def corpus : Text := "<doc id=\"a\">x</doc>".toList

def directory : Directory := .ofFiles [("corpus.txt".toList, Utf8.encode corpus)]

def whole : DocumentRecord := ⟨"a".toList, [], none, "corpus.txt".toList⟩

/--
The path has a separator behind the name of the file.
-/
def respelled : DocumentRecord := ⟨"b".toList, [], none, "corpus.txt/".toList⟩

def store : DocumentStore := .ofRecords [whole, respelled]

def document : Corpus.Document where
  attributes := [.ofKey ' ' "a".toList rfl (by decide)]
  body := ['x']
  attributes_ne_nil := List.cons_ne_nil _ _
  not_infix_body := fun h => absurd h.length_le (by decide)

theorem spans_corpus : Corpus.spans corpus = [⟨"a".toList, 12, 13⟩] := by
  have hcorpus : corpus = Corpus.write [(.nothing, document)] .nothing := by decide
  rw [hcorpus]
  exact Corpus.spansFrom_write [(.nothing, document)] .nothing []

theorem refused_path_not_reported :
    ∃ searched, store.Reaches directory.read searched (store.lookup directory.read ∅ 0).2 ∧
      (store.lookup directory.read (store.lookup directory.read ∅ 0).2 1).1 =
        .error (.documentNotFound 1) ∧
      (store.lookup directory.read ∅ 1).1 = .error (.io .notDirectory) := by
  have hreaches : store.Reaches directory.read (∅ ∪ store.searchedBy directory.read 0)
      (store.lookup directory.read ∅ 0).2 :=
    (DocumentStore.Reaches.start (Directory.consistent_read directory)).lookup 0
  have hrecord : store.get? 1 = some respelled := rfl
  have hfile : directory.read whole.path = .ok (Utf8.encode corpus) := by decide +kernel
  have hrefused : directory.read respelled.path = .error .notDirectory := by decide +kernel
  have hkey : ∀ span ∈ Corpus.spans corpus, span.key ≠ respelled.key := by
    rw [spans_corpus]
    decide
  have hsearched : whole.path ∈ (∅ ∪ store.searchedBy directory.read 0 : Set Text) :=
    .inr ⟨whole, corpus, rfl, rfl, hfile⟩
  refine ⟨_, hreaches, DocumentStore.fst_lookup_of_respelled hreaches.faithful
    (.intro hrecord hrefused (by decide) hsearched hfile hkey), ?_⟩
  rw [DocumentStore.fst_lookup_empty hrecord, DocumentStore.found, hrefused]
  rfl

end TrailingSeparator

end BooleanSearch
