import BooleanSearch.Text.Utf8
import BooleanSearch.Text.WhiteSpace

/-!
This module contains the search for documents in the text of a corpus file. A document is written as
`<doc id="12" title="On foxes">The quick brown fox.</doc>`: an opening tag with attributes, the body,
and a closing tag. What is not written like that is passed over.
-/

namespace BooleanSearch

/--
The place of a document body in a corpus file, in bytes.
-/
structure ByteRange where
  start : Nat
  stop : Nat
deriving DecidableEq, Repr

def ByteRange.of? (range : ByteRange) (file : Bytes) : Option Bytes :=
  if file.length < range.stop then none else some ((file.take range.stop).drop range.start)

namespace Corpus

/--
The rest of an opening tag, read from behind the name of the tag.
-/
structure OpenTag where
  /-- Names and values in the order in which they are written. -/
  attributes : List (Text × Text)
  /-- The number of bytes up to the bracket that closes the tag, which is included. -/
  size : Nat
  /-- Everything behind the tag. -/
  behind : Text
deriving DecidableEq, Repr

/--
The value of an attribute. When it is given more than once, the last value counts.
-/
def OpenTag.attribute? (tag : OpenTag) (name : Text) : Option Text :=
  tag.attributes.reverse.lookup name

def isNameChar (c : Char) : Bool := c.isAlphanum || c == '_' || c == '-'

def attributeSize (name value : Text) : Nat := name.length + 3 + Utf8.byteLength value

def openTag? (text : Text) : Option OpenTag :=
  let blanks := text.takeWhile Text.isAsciiSpace
  let tag := text.dropWhile Text.isAsciiSpace
  if tag.head? = some '>' then
    some ⟨[], blanks.length + 1, tag.tail⟩
  else
    let name := tag.takeWhile isNameChar
    match _hname : Text.dropMark? ['=', '"'] (tag.dropWhile isNameChar) with
    | none => none
    | some valued =>
      if name.isEmpty then
        none
      else
        match _hvalue : Text.cutAt? ['"'] valued with
        | none => none
        | some (value, rest) =>
          (openTag? rest).map fun tag =>
            { tag with
              attributes := (name, value) :: tag.attributes
              size := blanks.length + attributeSize name value + tag.size }
termination_by text.length
decreasing_by
  have h₁ := congrArg List.length (Text.dropMark?_eq_some_iff.mp _hname)
  have h₂ := congrArg List.length (Text.eq_append_of_cutAt? _hvalue)
  have h₃ := (List.dropWhile_suffix isNameChar (l := tag)).length_le
  have h₄ : tag.length ≤ text.length := (List.dropWhile_suffix Text.isAsciiSpace).length_le
  simp only [List.length_append, List.length_cons, List.length_nil] at h₁ h₂
  omega

theorem length_behind_lt {text : Text} {tag : OpenTag} (h : openTag? text = some tag) :
    tag.behind.length < text.length := by
  fun_induction openTag? text generalizing tag with
  | case1 =>
    rename_i text blanks rest hhead
    obtain rfl := Option.some.inj h
    have hne : rest ≠ [] := by
      rintro hnil
      simp [hnil] at hhead
    have hrest : rest.length ≤ text.length := (List.dropWhile_suffix Text.isAsciiSpace).length_le
    have := List.length_pos_iff.mpr hne
    simp only [List.length_tail]
    omega
  | case2 => simp at h
  | case3 => simp at h
  | case4 => simp at h
  | case5 =>
    rename_i text blanks rest hhead name valued hname hne value behind hvalue ih
    obtain ⟨tag', htag, rfl⟩ := Option.map_eq_some_iff.mp h
    have h₁ := congrArg List.length (Text.dropMark?_eq_some_iff.mp hname)
    have h₂ := congrArg List.length (Text.eq_append_of_cutAt? hvalue)
    have h₃ := (List.dropWhile_suffix isNameChar (l := rest)).length_le
    have h₄ : rest.length ≤ text.length := (List.dropWhile_suffix Text.isAsciiSpace).length_le
    have h₅ := ih htag
    simp only [List.length_append, List.length_cons, List.length_nil] at h₁ h₂
    simp only
    omega

/--
A document in a corpus file.
-/
structure Span where
  /-- The value of the attribute `id`. -/
  key : Text
  body : ByteRange
deriving DecidableEq, Repr

def openMark : Text := "<doc".toList

def closeMark : Text := "</doc>".toList

/--
All documents in the part of a file that begins at a byte offset. A tag that cannot be read is skipped;
a document without an end ends the search; one without a key or with an empty body is left out.
-/
def spansFrom (offset : Nat) (text : Text) : List Span :=
  match _hopen : Text.cutAt? openMark text with
  | none => []
  | some (before, behind) =>
    let offset := offset + Utf8.byteLength before + openMark.length
    let tag? := if behind.head?.any Text.isAsciiSpace then openTag? behind else none
    match _htag : tag? with
    | none => spansFrom offset behind
    | some tag =>
      match _hclose : Text.cutAt? closeMark tag.behind with
      | none => []
      | some (body, rest) =>
        let start := offset + tag.size
        let stop := start + Utf8.byteLength body
        let spans := spansFrom (stop + closeMark.length) rest
        match tag.attribute? "id".toList with
        | some key => if body.isEmpty then spans else ⟨key, start, stop⟩ :: spans
        | none => spans
termination_by text.length
decreasing_by
  all_goals
    have hmark : openMark.length = 4 := rfl
    have h₁ := congrArg List.length (Text.eq_append_of_cutAt? _hopen)
    simp only [List.length_append] at h₁
  · omega
  · have h₂ := congrArg List.length (Text.eq_append_of_cutAt? _hclose)
    have h₃ : tag.behind.length < behind.length := by
      have : openTag? behind = some tag := by grind
      exact length_behind_lt this
    simp only [List.length_append] at h₂
    omega

def spans (text : Text) : List Span := spansFrom 0 text

end Corpus

end BooleanSearch
