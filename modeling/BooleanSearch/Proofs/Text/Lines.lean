import BooleanSearch.Proofs.Text.Words
import BooleanSearch.TextFile

/-!
This module contains the lines of a text, and the theorem that the records of a file with one record per
line are those that were written, whichever line endings stand between them.
-/

namespace BooleanSearch

inductive LineEnding where
  | lf
  | crlf
deriving DecidableEq, Repr

def LineEnding.text : LineEnding → Text
  | lf => ['\n']
  | crlf => ['\r', '\n']

namespace Text

/--
A text that can be the record of a line: a line feed would end the line before, and carriage returns at
the end are not read.
-/
def IsRecord (record : Text) : Prop := '\n' ∉ record ∧ record.getLast? ≠ some '\r'

instance : DecidablePred IsRecord := fun record =>
  inferInstanceAs (Decidable ('\n' ∉ record ∧ record.getLast? ≠ some '\r'))

def writeLines (records : List (Text × LineEnding)) : Text :=
  records.flatMap fun (record, ending) => record ++ ending.text

theorem dropEndWhile_eq_self {p : Char → Bool} {text : Text}
    (h : ∀ c ∈ text.getLast?, p c = false) : dropEndWhile p text = text := by
  unfold dropEndWhile
  cases hreverse : text.reverse with
  | nil =>
    rw [List.reverse_eq_nil_iff.mp hreverse]
    rfl
  | cons c front =>
    rw [List.getLast?_eq_head?_reverse, hreverse] at h
    rw [List.dropWhile_cons_of_neg (by simp [h c rfl]), ← hreverse, List.reverse_reverse]

theorem IsRecord.dropEndWhile_eq {record : Text} (h : record.IsRecord) :
    dropEndWhile (· == '\r') record = record := by
  apply dropEndWhile_eq_self
  rintro c hc
  apply beq_false_of_ne
  rintro rfl
  exact h.2 hc

theorem dropEndWhile_concat {p : Char → Bool} {c : Char} (hc : p c = true) (text : Text) :
    dropEndWhile p (text ++ [c]) = dropEndWhile p text := by
  unfold dropEndWhile
  rw [List.reverse_concat, List.dropWhile_cons_of_pos hc]

theorem splitOn_of_not_mem {mark : Char} {piece : Text} (h : mark ∉ piece) :
    splitOn (· == mark) piece = [piece] := by
  rw [splitOn_eq_splitOnP, List.splitOnP_eq_singleton]
  rintro c hc
  apply beq_false_of_ne
  rintro rfl
  exact h hc

theorem splitOn_append_cons {mark : Char} {piece : Text} (h : mark ∉ piece) (rest : Text) :
    splitOn (· == mark) (piece ++ mark :: rest) = piece :: splitOn (· == mark) rest := by
  have hpiece := splitOn_of_not_mem h
  simp only [splitOn_eq_splitOnP] at hpiece ⊢
  rw [List.splitOnP_append_cons (p := (· == mark)) piece rest (beq_self_eq_true mark), hpiece,
    List.singleton_append]

theorem length_splitOn (mark : Char) (text : Text) :
    (splitOn (· == mark) text).length = text.count mark + 1 := by
  induction text with
  | nil => rfl
  | cons c rest ih =>
    obtain ⟨piece, pieces, hpieces⟩ := List.exists_cons_of_ne_nil (splitOn_ne_nil (· == mark) rest)
    rw [hpieces, List.length_cons] at ih
    rw [splitOn, hpieces, List.count_cons]
    split <;> simp_all

theorem lines_append_cons {line : Text} (hline : '\n' ∉ line) (rest : Text) :
    lines (line ++ '\n' :: rest) = line :: lines rest := by
  obtain ⟨piece, pieces, hpieces⟩ := List.exists_cons_of_ne_nil (splitOn_ne_nil (· == '\n') rest)
  unfold lines
  dsimp only
  rw [splitOn_append_cons hline, hpieces, List.getLast?_cons_cons, List.dropLast_cons_cons]
  split <;> rfl

theorem lines_of_not_mem {line : Text} (hne : line ≠ []) (hline : '\n' ∉ line) :
    lines line = [line] := by
  unfold lines
  simp [splitOn_of_not_mem hline, hne]

/--
The lines of a text. Each one is ended by a line feed, but for the last one this may be missing unless
it is empty.
-/
inductive HasLines : Text → List Text → Prop where
  | nil : HasLines [] []
  | last {line : Text} (hne : line ≠ []) (hline : '\n' ∉ line) : HasLines line [line]
  | cons {line rest : Text} {lines : List Text} (hline : '\n' ∉ line) (h : HasLines rest lines) :
    HasLines (line ++ '\n' :: rest) (line :: lines)

theorem HasLines.lines_eq {text : Text} {lines : List Text} (h : text.HasLines lines) :
    text.lines = lines := by
  induction h with
  | nil => rfl
  | last hne hline => exact lines_of_not_mem hne hline
  | cons hline h ih => rw [lines_append_cons hline, ih]

theorem exists_hasLines (text : Text) : ∃ lines, text.HasLines lines := by
  induction text with
  | nil => exact ⟨[], .nil⟩
  | cons c rest ih =>
    obtain ⟨lines, h⟩ := ih
    by_cases hc : '\n' = c
    · subst hc
      exact ⟨[] :: lines, .cons List.not_mem_nil h⟩
    · have hcons {line : Text} (hline : '\n' ∉ line) : '\n' ∉ c :: line := by simp [hc, hline]
      cases h with
      | nil => exact ⟨[[c]], .last (List.cons_ne_nil c []) (hcons List.not_mem_nil)⟩
      | last hne hline => exact ⟨[c :: rest], .last (List.cons_ne_nil c rest) (hcons hline)⟩
      | @cons line rest lines hline h => exact ⟨(c :: line) :: lines, .cons (hcons hline) h⟩

theorem hasLines_lines (text : Text) : text.HasLines text.lines := by
  obtain ⟨lines, h⟩ := exists_hasLines text
  rwa [h.lines_eq]

theorem recordLines_line {record : Text} (hrecord : record.IsRecord) (ending : LineEnding)
    (rest : Text) :
    recordLines (record ++ ending.text ++ rest) = record :: recordLines rest := by
  have hline := hrecord.1
  unfold recordLines
  cases ending with
  | lf =>
    rw [LineEnding.text, List.append_assoc, List.singleton_append, lines_append_cons hline,
      List.map_cons, hrecord.dropEndWhile_eq]
  | crlf =>
    have hfree : '\n' ∉ record ++ ['\r'] := by simp [hline]
    have htext : record ++ LineEnding.crlf.text ++ rest = (record ++ ['\r']) ++ '\n' :: rest := by
      simp [LineEnding.text]
    rw [htext, lines_append_cons hfree, List.map_cons, dropEndWhile_concat (by rfl),
      hrecord.dropEndWhile_eq]

theorem recordLines_of_not_terminated {record : Text} (hne : record ≠ []) (hrecord : record.IsRecord) :
    recordLines record = [record] := by
  rw [recordLines, lines_of_not_mem hne hrecord.1, List.map_singleton, hrecord.dropEndWhile_eq]

theorem recordLines_writeLines {records : List (Text × LineEnding)}
    (h : ∀ record ∈ records, record.1.IsRecord) :
    recordLines (writeLines records) = records.map Prod.fst := by
  induction records with
  | nil => rfl
  | cons record records ih =>
    rw [List.forall_mem_cons] at h
    have hwrite : writeLines (record :: records) =
        record.1 ++ record.2.text ++ writeLines records := rfl
    rw [hwrite, recordLines_line h.1, ih h.2, List.map_cons]

end Text

end BooleanSearch
