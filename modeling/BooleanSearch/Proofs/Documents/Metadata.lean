import Mathlib.Data.List.Basic
import Mathlib.Data.List.TakeWhile
import BooleanSearch.Documents.Store
import BooleanSearch.Proofs.Text.Lines
import BooleanSearch.Proofs.Text.Utf8

/-!
This module contains the theorem that the metadata of documents is read as it was written, each record
under the ID of its place, and that metadata is refused exactly if a line does not have four fields.
-/

namespace BooleanSearch

def fieldCount (line : Text) : Nat := line.count '\t' + 1

namespace DocumentRecord

def line (record : DocumentRecord) : Text :=
  record.key ++ '\t' :: (record.link.getD [] ++ '\t' :: (record.title ++ '\t' :: record.path))

/--
The record can be written on a line of its own: no field has a character that ends a field, a link that
is there is not empty, and no carriage return stands at the end of the line.
-/
structure Writable (record : DocumentRecord) : Prop where
  tabs : ∀ field ∈ [record.key, record.link.getD [], record.title, record.path], '\t' ∉ field
  lineFeeds : ∀ field ∈ [record.key, record.link.getD [], record.title, record.path], '\n' ∉ field
  link : record.link ≠ some []
  path : record.path.getLast? ≠ some '\r'

variable {record : DocumentRecord}

theorem line_ne_nil (record : DocumentRecord) : record.line ≠ [] :=
  List.append_ne_nil_of_right_ne_nil _ (List.cons_ne_nil _ _)

theorem Writable.isRecord_line (h : record.Writable) : record.line.IsRecord := by
  obtain ⟨-, hlines, -, hpath⟩ := h
  simp only [List.forall_mem_cons] at hlines
  constructor
  · simp [line, hlines]
  · have hline : record.line =
        (record.key ++ '\t' :: (record.link.getD [] ++ '\t' :: record.title)) ++
          '\t' :: record.path := by
      simp [line]
    rw [hline, List.getLast?_append, List.getLast?_cons, Option.some_or]
    cases hlast : record.path.getLast? with
    | none => simp
    | some c =>
      rw [hlast] at hpath
      exact hpath

end DocumentRecord

namespace DocumentStore

variable {path : Text}

theorem record?_line {record : DocumentRecord} (h : record.Writable) :
    record? record.line = .ok record := by
  obtain ⟨htabs, -, hlink, -⟩ := h
  simp only [List.forall_mem_cons, List.not_mem_nil] at htabs
  obtain ⟨hkey, hlinkText, htitle, hpath, -⟩ := htabs
  unfold record? DocumentRecord.line
  rw [Text.splitOn_append_cons hkey, Text.splitOn_append_cons hlinkText,
    Text.splitOn_append_cons htitle, Text.splitOn_of_not_mem hpath]
  obtain ⟨key, title, link, path⟩ := record
  cases link with
  | none => rfl
  | some link =>
    have hne : link ≠ [] := fun hempty => hlink (congrArg some hempty)
    simp [hne]

theorem record?_eq_error_iff {line : Text} {found : Nat} :
    record? line = .error found ↔ fieldCount line = found ∧ found ≠ 4 := by
  have hlength := Text.length_splitOn '\t' line
  rw [← fieldCount] at hlength
  unfold record?
  split
  next key link title path hfields =>
    rw [hfields] at hlength
    constructor
    · nofun
    · rintro ⟨hfound, hne⟩
      exact absurd (hfound.symm.trans hlength.symm) hne
  next hfields =>
    rw [hlength, Except.error.injEq]
    constructor
    · rintro rfl
      refine ⟨rfl, fun hfour => ?_⟩
      obtain ⟨key, link, title, path, heq⟩ := List.length_eq_four.mp (hlength.trans hfour)
      exact hfields key link title path heq
    · exact fun h => h.1

theorem fieldCount_dropEndWhile (line : Text) :
    fieldCount (Text.dropEndWhile (· == '\r') line) = fieldCount line := by
  unfold fieldCount Text.dropEndWhile
  have hsplit := List.takeWhile_append_dropWhile (p := (· == '\r')) (l := line.reverse)
  have hnone : (line.reverse.takeWhile (· == '\r')).count '\t' = 0 := by
    rw [List.count_eq_zero]
    intro hmem
    exact absurd (List.mem_takeWhile_imp hmem) (by decide)
  rw [List.count_reverse, ← List.count_reverse (l := line), ← hsplit, List.count_append, hnone,
    Nat.zero_add, hsplit]

theorem readRecords_cons_of_ok {line : Text} {lines : List (Text × Nat)} {number : Nat}
    {record : DocumentRecord} (h : record? line = .ok record) :
    readRecords path ((line, number) :: lines) = (readRecords path lines).map (record :: ·) := by
  rw [readRecords, h]

theorem readRecords_eq_error_iff {lines : List Text} {first : Nat} {e : SearchError} :
    readRecords path ((lines.map (Text.dropEndWhile (· == '\r'))).zipIdx first) = .error e ↔
      ∃ before line after, lines = before ++ line :: after ∧
        (∀ other ∈ before, fieldCount other = 4) ∧ fieldCount line ≠ 4 ∧
        e = .config (.fieldCount path (first + before.length) (fieldCount line)) := by
  -- Each line has a number of its own, so the first number changes along the induction.
  induction lines generalizing first with
  | nil => simp [readRecords]
  | cons line lines ih =>
    rw [List.map_cons, List.zipIdx_cons]
    cases hrecord : record? (Text.dropEndWhile (· == '\r') line) with
    | error found =>
      obtain ⟨hfound, hne⟩ := record?_eq_error_iff.mp hrecord
      rw [fieldCount_dropEndWhile] at hfound
      rw [← hfound] at hne
      rw [readRecords, hrecord, Except.error.injEq, hfound.symm]
      constructor
      · rintro rfl
        exact ⟨[], line, lines, rfl, by simp, hne, rfl⟩
      · rintro ⟨before, other, after, heq, hbefore, -, rfl⟩
        cases before with
        | nil =>
          cases heq
          rfl
        | cons front before =>
          cases heq
          exact absurd (hbefore line List.mem_cons_self) hne
    | ok record =>
      have hfour : fieldCount line = 4 := by
        by_contra hne
        rw [← fieldCount_dropEndWhile] at hne
        rw [record?_eq_error_iff.mpr ⟨rfl, hne⟩] at hrecord
        cases hrecord
      have hmap (result : Except SearchError (List DocumentRecord)) :
          result.map (record :: ·) = .error e ↔ result = .error e := by
        cases result <;> simp [Except.map]
      rw [readRecords_cons_of_ok hrecord, hmap, ih]
      constructor
      · rintro ⟨before, other, after, rfl, hbefore, hne, rfl⟩
        refine ⟨line :: before, other, after, rfl, ?_, hne, ?_⟩
        · rw [List.forall_mem_cons]
          exact ⟨hfour, hbefore⟩
        · rw [List.length_cons, Nat.add_assoc, Nat.add_comm 1]
      · rintro ⟨before, other, after, heq, hbefore, hne, rfl⟩
        cases before with
        | nil =>
          cases heq
          exact absurd hfour hne
        | cons front before =>
          cases heq
          rw [List.forall_mem_cons] at hbefore
          refine ⟨before, other, after, rfl, hbefore.2, hne, ?_⟩
          rw [List.length_cons, Nat.add_assoc, Nat.add_comm 1]

theorem exists_misfit_iff {lines : List Text} :
    (∃ before line after, lines = before ++ line :: after ∧
      (∀ other ∈ before, fieldCount other = 4) ∧ fieldCount line ≠ 4) ↔
    ∃ line ∈ lines, fieldCount line ≠ 4 := by
  constructor
  · rintro ⟨before, line, after, rfl, -, hne⟩
    exact ⟨line, by simp, hne⟩
  · rintro ⟨line, hline, hne⟩
    have hfind : (lines.find? (fieldCount · != 4)).isSome := by
      rw [List.find?_isSome]
      exact ⟨line, hline, by simpa using hne⟩
    obtain ⟨first, hfirst⟩ := Option.isSome_iff_exists.mp hfind
    obtain ⟨hmisfit, before, after, rfl, hbefore⟩ := List.find?_eq_some_iff_append.mp hfirst
    exact ⟨before, first, after, rfl, by simpa using hbefore, by simpa using hmisfit⟩

def writeMetadata (records : List (DocumentRecord × LineEnding)) (last : Option DocumentRecord) :
    Text :=
  Text.writeLines (records.map fun (record, ending) => (record.line, ending)) ++
    (last.map DocumentRecord.line).getD []

theorem recordLines_writeMetadata {records : List (DocumentRecord × LineEnding)}
    {last : Option DocumentRecord} (hrecords : ∀ record ∈ records, record.1.Writable)
    (hlast : ∀ record ∈ last, record.Writable) :
    (writeMetadata records last).recordLines =
      (records.map Prod.fst ++ last.toList).map DocumentRecord.line := by
  induction records with
  | nil =>
    cases last with
    | none => rfl
    | some record =>
      exact Text.recordLines_of_not_terminated record.line_ne_nil (hlast record rfl).isRecord_line
  | cons record records ih =>
    rw [List.forall_mem_cons] at hrecords
    have hwrite : writeMetadata (record :: records) last =
        record.1.line ++ record.2.text ++ writeMetadata records last :=
      List.append_assoc _ _ _
    rw [hwrite, Text.recordLines_line hrecords.1.isRecord_line, ih hrecords.2]
    rfl

theorem readRecords_map_line {records : List DocumentRecord}
    (h : ∀ record ∈ records, record.Writable) (first : Nat) :
    readRecords path ((records.map DocumentRecord.line).zipIdx first) = .ok records := by
  induction records generalizing first with
  | nil => rfl
  | cons record records ih =>
    rw [List.forall_mem_cons] at h
    rw [List.map_cons, List.zipIdx_cons, readRecords_cons_of_ok (record?_line h.1), ih h.2]
    rfl

theorem ofFile_encode (path text : Text) :
    ofFile path (.ok (Utf8.encode text)) =
      (readRecords path (text.recordLines.zipIdx 1)).map ofRecords := by
  simp only [ofFile, textOfFile, Utf8.decode?_encode]
  show (readRecords path (text.recordLines.zipIdx 1) >>= fun records => pure (ofRecords records)) = _
  cases readRecords path (text.recordLines.zipIdx 1) <;> rfl

/--
Metadata is read as it was written, with any line endings, and the ID of a record is its place. A text
is refused exactly if a line of it does not have four fields; the error names the first such line,
counted from one, and the number of its fields.
-/
theorem metadata_read_as_written (path : Text) :
    (∀ records last, (∀ record ∈ records, record.1.Writable) → (∀ record ∈ last, record.Writable) →
      ∃ store, ofFile path (.ok (Utf8.encode (writeMetadata records last))) = .ok store ∧
        store.records.toList = records.map Prod.fst ++ last.toList ∧
        ∀ id : UInt32, store.get? id = (records.map Prod.fst ++ last.toList)[id.toNat]?) ∧
    ∀ text : Text, ∃ lines, text.HasLines lines ∧
      ((∃ e, ofFile path (.ok (Utf8.encode text)) = .error e) ↔
        ∃ line ∈ lines, fieldCount line ≠ 4) ∧
      ∀ e, ofFile path (.ok (Utf8.encode text)) = .error e →
        ∃ before line after, lines = before ++ line :: after ∧
          (∀ other ∈ before, fieldCount other = 4) ∧ fieldCount line ≠ 4 ∧
          e = .config (.fieldCount path (before.length + 1) (fieldCount line)) := by
  constructor
  · intro records last hrecords hlast
    have hwritable : ∀ record ∈ records.map Prod.fst ++ last.toList, record.Writable := by
      rw [List.forall_mem_append, List.forall_mem_map]
      exact ⟨hrecords, by simpa using hlast⟩
    refine ⟨ofRecords (records.map Prod.fst ++ last.toList), ?_, rfl, fun id => ?_⟩
    · rw [ofFile_encode, recordLines_writeMetadata hrecords hlast, readRecords_map_line hwritable]
      rfl
    · exact List.getElem?_toArray
  · intro text
    have hresult (e : SearchError) :
        ofFile path (.ok (Utf8.encode text)) = .error e ↔
          ∃ before line after, text.lines = before ++ line :: after ∧
            (∀ other ∈ before, fieldCount other = 4) ∧ fieldCount line ≠ 4 ∧
            e = .config (.fieldCount path (1 + before.length) (fieldCount line)) := by
      rw [← readRecords_eq_error_iff, ofFile_encode, Text.recordLines]
      cases readRecords path ((text.lines.map (Text.dropEndWhile (· == '\r'))).zipIdx 1) <;>
        simp [Except.map]
    refine ⟨text.lines, text.hasLines_lines, ?_, fun e he => ?_⟩
    · rw [← exists_misfit_iff]
      constructor
      · rintro ⟨e, he⟩
        obtain ⟨before, line, after, hlines, hbefore, hne, -⟩ := (hresult e).mp he
        exact ⟨before, line, after, hlines, hbefore, hne⟩
      · rintro ⟨before, line, after, hlines, hbefore, hne⟩
        exact ⟨_, (hresult _).mpr ⟨before, line, after, hlines, hbefore, hne, rfl⟩⟩
    · simpa only [Nat.add_comm 1] using (hresult e).mp he

end DocumentStore

namespace MixedEndings

def first : DocumentRecord := ⟨"a".toList, "Rust".toList, none, "wiki".toList⟩

def second : DocumentRecord := ⟨[], "Cargo\r".toList, some "url".toList, []⟩

def path : Text := "meta".toList

theorem writable_first : first.Writable := ⟨by decide, by decide, by decide, by decide⟩

theorem writable_second : second.Writable := ⟨by decide, by decide, by decide, by decide⟩

theorem blank_line_is_refused :
    (∃ store,
      DocumentStore.ofFile path
        (.ok (Utf8.encode "a\t\tRust\twiki\r\n\turl\tCargo\r\t".toList)) = .ok store ∧
        store.get? 0 = some first ∧ store.get? 1 = some second ∧ store.get? 2 = none) ∧
      ∃ e, DocumentStore.ofFile path
        (.ok (Utf8.encode "a\t\tRust\twiki\r\n\n\turl\tCargo\r\t".toList)) = .error e := by
  obtain ⟨hwritten, hrefused⟩ := DocumentStore.metadata_read_as_written path
  constructor
  · obtain ⟨store, hstore, -, hget⟩ := hwritten [(first, .crlf)] (some second)
      (by simpa using writable_first) (by simpa using writable_second)
    exact ⟨store, hstore, hget 0, hget 1, hget 2⟩
  · obtain ⟨lines, hlines, hiff, -⟩ :=
      hrefused "a\t\tRust\twiki\r\n\n\turl\tCargo\r\t".toList
    refine hiff.mpr ⟨[], ?_, by decide⟩
    rw [← hlines.lines_eq]
    decide

end MixedEndings

end BooleanSearch
