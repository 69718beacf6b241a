import Mathlib.Data.List.Basic
import BooleanSearch.Documents.Corpus
import BooleanSearch.Proofs.Text.Cut
import BooleanSearch.Proofs.Text.Utf8

/-!
This module contains the theorem that the places found in a corpus file are places of texts: each
begins and ends between two characters, behind a bracket and in front of a closing tag.
-/

namespace BooleanSearch

/--
A range is the place of a body in a text: the body stands in it behind as many bytes as the range says.
-/
def ByteRange.Holds (range : ByteRange) (text body : Text) : Prop :=
  ∃ before behind, text = before ++ (body ++ behind) ∧
    range = ⟨Utf8.byteLength before, Utf8.byteLength (before ++ body)⟩

theorem ByteRange.Holds.of?_encode {range : ByteRange} {text body : Text}
    (h : range.Holds text body) : range.of? (Utf8.encode text) = some (Utf8.encode body) := by
  obtain ⟨before, behind, rfl, rfl⟩ := h
  have hlength : ¬ (Utf8.encode (before ++ (body ++ behind))).length <
      Utf8.byteLength (before ++ body) := by
    simp only [Utf8.byteLength, Utf8.encode_append, List.length_append]
    omega
  unfold ByteRange.of?
  rw [if_neg hlength]
  simp only [Utf8.byteLength, Utf8.encode_append, ← List.append_assoc]
  rw [List.take_left, List.drop_left]

namespace Corpus

theorem toNat_lt_of_isAsciiSpace {c : Char} (h : Text.isAsciiSpace c = true) : c.toNat < 0x80 := by
  simp only [Text.isAsciiSpace, Bool.or_eq_true, beq_iff_eq] at h
  rcases h with (((rfl | rfl) | rfl) | rfl) | rfl <;> decide

theorem toNat_lt_of_isAlphanum {c : Char} (h : c.isAlphanum = true) : c.toNat < 0x80 := by
  have hranges : ((decide (65 ≤ c.val ∧ c.val ≤ 90) || decide (97 ≤ c.val) && decide (c.val ≤ 122)) ||
      decide (48 ≤ c.val) && decide (c.val ≤ 57)) = true := h
  simp only [Bool.or_eq_true, Bool.and_eq_true, decide_eq_true_eq, UInt32.le_iff_toNat_le,
    UInt32.reduceToNat] at hranges
  unfold Char.toNat
  omega

theorem toNat_lt_of_isNameChar {c : Char} (h : isNameChar c = true) : c.toNat < 0x80 := by
  simp only [isNameChar, Bool.or_eq_true, beq_iff_eq] at h
  rcases h with (h | rfl) | rfl
  · exact toNat_lt_of_isAlphanum h
  · decide
  · decide

theorem openTag?_eq (text : Text) :
    openTag? text =
      let blanks := text.takeWhile Text.isAsciiSpace
      let tag := text.dropWhile Text.isAsciiSpace
      let name := tag.takeWhile isNameChar
      if tag.head? = some '>' then
        some ⟨[], blanks.length + 1, tag.tail⟩
      else
        match Text.dropMark? ['=', '"'] (tag.dropWhile isNameChar) with
        | none => none
        | some valued =>
          if name.isEmpty then
            none
          else
            match Text.cutAt? ['"'] valued with
            | none => none
            | some (value, rest) =>
              (openTag? rest).map fun tag =>
                { tag with
                  attributes := (name, value) :: tag.attributes
                  size := blanks.length + attributeSize name value + tag.size } := by
  rw [openTag?]
  dsimp only
  split
  · rfl
  · split
    next hname => rw [hname]
    next valued hname =>
      rw [hname]
      dsimp only
      split
      · rfl
      · split
        next hvalue => rw [hvalue]
        next value rest hvalue => rw [hvalue]

theorem spansFrom_eq (offset : Nat) (text : Text) :
    spansFrom offset text =
      match Text.cutAt? openMark text with
      | none => []
      | some (before, behind) =>
        let offset := offset + Utf8.byteLength before + openMark.length
        match if behind.head?.any Text.isAsciiSpace then openTag? behind else none with
        | none => spansFrom offset behind
        | some tag =>
          match Text.cutAt? closeMark tag.behind with
          | none => []
          | some (body, rest) =>
            let start := offset + tag.size
            let stop := start + Utf8.byteLength body
            let spans := spansFrom (stop + closeMark.length) rest
            match tag.attribute? "id".toList with
            | some key => if body.isEmpty then spans else ⟨key, start, stop⟩ :: spans
            | none => spans := by
  rw [spansFrom]
  split
  next hopen => rw [hopen]
  next before behind hopen =>
    rw [hopen]
    dsimp only
    split
    next htag => rw [htag]
    next tag htag =>
      rw [htag]
      dsimp only
      split
      next hclose => rw [hclose]
      next body rest hclose =>
        cases tag.attribute? "id".toList <;> simp only [hclose]

theorem byteLength_takeWhile {p : Char → Bool} (hp : ∀ c, p c = true → c.toNat < 0x80)
    (text : Text) : Utf8.byteLength (text.takeWhile p) = (text.takeWhile p).length :=
  Utf8.byteLength_of_ascii fun c hc => hp c (List.all_eq_true.mp List.all_takeWhile c hc)

theorem exists_opening_of_openTag? {text : Text} {tag : OpenTag} (h : openTag? text = some tag) :
    ∃ opening, text = opening ++ '>' :: tag.behind ∧ Utf8.byteLength opening + 1 = tag.size := by
  have hblanks := byteLength_takeWhile (p := Text.isAsciiSpace) fun _ => toNat_lt_of_isAsciiSpace
  have hnames := byteLength_takeWhile (p := isNameChar) fun _ => toNat_lt_of_isNameChar
  fun_induction openTag? text generalizing tag with
  | case1 =>
    rename_i text blanks rest hhead
    obtain rfl := Option.some.inj h
    have hrest : rest = '>' :: rest.tail := List.eq_cons_of_mem_head? hhead
    refine ⟨blanks, ?_, ?_⟩
    · rw [← hrest]
      exact List.takeWhile_append_dropWhile.symm
    · rw [hblanks]
  | case2 => cases h
  | case3 => cases h
  | case4 => cases h
  | case5 =>
    rename_i text blanks rest hhead name valued hname hne value behind hvalue ih
    obtain ⟨tag', htag, rfl⟩ := Option.map_eq_some_iff.mp h
    obtain ⟨opening, hopening, hsize⟩ := ih htag
    have hvalued := Text.dropMark?_eq_some_iff.mp hname
    have hbehind := Text.eq_append_of_cutAt? hvalue
    have hmark : Utf8.byteLength ['=', '"'] = 2 := rfl
    have hquote : Utf8.byteLength ['"'] = 1 := rfl
    refine ⟨blanks ++ (name ++ (['=', '"'] ++ (value ++ (['"'] ++ opening)))), ?_, ?_⟩
    · calc
        text = blanks ++ (name ++ rest.dropWhile isNameChar) := by
          rw [List.takeWhile_append_dropWhile, List.takeWhile_append_dropWhile]
        _ = _ := by
          rw [hvalued, hbehind, hopening]
          simp only [List.append_assoc]
    · simp only [Utf8.byteLength_append, ← hsize, attributeSize, hmark, hquote, blanks, name, hblanks,
        hnames]
      omega

/--
How the documents in the rest of a file are found, where `front` stands before it: something is passed
over, or the body of a document is found between the bracket that closes a tag and the next closing tag.
-/
inductive Scan : (front text : Text) → List Span → Prop where
  | ended {front text : Text} : Scan front text []
  | passed {front skipped text : Text} {spans : List Span}
      (hrest : Scan (front ++ skipped) text spans) : Scan front (skipped ++ text) spans
  | found {front opening body text key : Text} {spans : List Span} (hbody : body ≠ [])
      (hclose : Text.cutAt? closeMark (body ++ (closeMark ++ text)) = some (body, text))
      (hrest : Scan (front ++ (opening ++ '>' :: (body ++ closeMark))) text spans) :
      Scan front (opening ++ '>' :: (body ++ (closeMark ++ text)))
        (⟨key, Utf8.byteLength (front ++ (opening ++ ['>'])),
          Utf8.byteLength (front ++ (opening ++ '>' :: body))⟩ :: spans)

theorem byteLength_bracket (text : Text) :
    Utf8.byteLength ('>' :: text) = Utf8.byteLength text + 1 := by
  unfold Utf8.byteLength
  rw [Utf8.encode_cons, List.length_append, Nat.add_comm]
  rfl

theorem byteLength_openMark : Utf8.byteLength openMark = openMark.length := rfl

theorem byteLength_closeMark : Utf8.byteLength closeMark = closeMark.length := rfl

theorem exists_skipped_of_cuts {text before behind body rest : Text} {tag : OpenTag}
    (hopen : Text.cutAt? openMark text = some (before, behind)) (htag : openTag? behind = some tag)
    (hclose : Text.cutAt? closeMark tag.behind = some (body, rest)) :
    ∃ skipped, text = skipped ++ '>' :: (body ++ (closeMark ++ rest)) ∧
      Utf8.byteLength skipped + 1 = Utf8.byteLength before + openMark.length + tag.size ∧
      Text.cutAt? closeMark (body ++ (closeMark ++ rest)) = some (body, rest) := by
  obtain ⟨opening, hopening, hsize⟩ := exists_opening_of_openTag? htag
  have hclosed := Text.eq_append_of_cutAt? hclose
  rw [List.append_assoc] at hclosed
  rw [hclosed] at hopening hclose
  refine ⟨before ++ openMark ++ opening, ?_, ?_, hclose⟩
  · rw [Text.eq_append_of_cutAt? hopen, hopening, List.append_assoc (before ++ openMark)]
  · rw [Utf8.byteLength_append, Utf8.byteLength_append, byteLength_openMark, ← hsize, Nat.add_assoc]

theorem scan_spansFrom (front text : Text) :
    Scan front text (spansFrom (Utf8.byteLength front) text) := by
  rw [spansFrom_eq]
  split
  next => exact .ended
  next before behind hopen =>
    dsimp only
    have htext := Text.eq_append_of_cutAt? hopen
    split
    next =>
      -- Without a whole tag the search goes on right behind its beginning.
      have hrest := scan_spansFrom (front ++ (before ++ openMark)) behind
      rw [htext]
      apply Scan.passed
      simpa only [Utf8.byteLength_append, byteLength_openMark, Nat.add_assoc] using hrest
    next tag htag =>
      split
      next => exact .ended
      next body rest hclose =>
        have htag : openTag? behind = some tag := by
          split at htag
          next => exact htag
          next => cases htag
        -- Everything up to the bracket of the tag is skipped, and places are measured from there.
        obtain ⟨skipped, hskipped, hsize, hclose⟩ := exists_skipped_of_cuts hopen htag hclose
        have hstart : Utf8.byteLength (front ++ (skipped ++ ['>'])) =
            Utf8.byteLength front + Utf8.byteLength before + openMark.length + tag.size := by
          simp only [Utf8.byteLength_append, show Utf8.byteLength ['>'] = 1 from rfl]
          omega
        have hstop : Utf8.byteLength (front ++ (skipped ++ '>' :: body)) =
            Utf8.byteLength front + Utf8.byteLength before + openMark.length + tag.size +
              Utf8.byteLength body := by
          simp only [Utf8.byteLength_append, byteLength_bracket]
          omega
        have hrest := scan_spansFrom (front ++ (skipped ++ '>' :: (body ++ closeMark))) rest
        have hoffset : Utf8.byteLength (front ++ (skipped ++ '>' :: (body ++ closeMark))) =
            Utf8.byteLength (front ++ (skipped ++ '>' :: body)) + closeMark.length := by
          simp only [Utf8.byteLength_append, byteLength_bracket, byteLength_closeMark]
          omega
        rw [hoffset] at hrest
        have hpassed : Scan front (skipped ++ '>' :: (body ++ (closeMark ++ rest)))
            (spansFrom (Utf8.byteLength (front ++ (skipped ++ '>' :: body)) + closeMark.length)
              rest) := by
          simpa only [List.append_assoc, List.cons_append] using Scan.passed hrest
        rw [← hstop, ← hstart, hskipped]
        split
        next key hkey =>
          split
          next => exact hpassed
          next hbody =>
            exact .found (mt List.isEmpty_iff.mpr hbody) hclose hrest
        next => exact hpassed
termination_by text.length
decreasing_by
  all_goals
    have hmark : openMark.length = 4 := rfl
    have hlength := congrArg List.length htext
    simp only [List.length_append, hmark] at hlength
  · omega
  · have hskippedLength := congrArg List.length hskipped
    simp only [List.length_append, List.length_cons] at hskippedLength
    have hmark : closeMark.length = 6 := rfl
    omega

def Bracketed (text : Text) (range : ByteRange) : Prop :=
  ∃ before body behind, text = before ++ '>' :: (body ++ (closeMark ++ behind)) ∧
    range = ⟨Utf8.byteLength (before ++ ['>']), Utf8.byteLength (before ++ '>' :: body)⟩ ∧
    body ≠ [] ∧ ¬ closeMark <:+: body

theorem Bracketed.exists_holds {text : Text} {range : ByteRange} (h : Bracketed text range) :
    ∃ body, range.Holds text body := by
  obtain ⟨before, body, behind, htext, hrange, -⟩ := h
  refine ⟨body, before ++ ['>'], closeMark ++ behind, ?_, ?_⟩
  · rw [htext, List.append_cons]
  · rw [hrange, List.append_cons before '>' body]

theorem Scan.bracketed {front text : Text} {spans : List Span} (h : Scan front text spans) :
    ∀ span ∈ spans, Bracketed (front ++ text) span.body := by
  induction h with
  | ended => simp
  | passed hrest ih => simpa only [List.append_assoc] using ih
  | @found front opening body text key spans hbody hclose hrest ih =>
    intro span hspan
    rcases List.mem_cons.mp hspan with rfl | hspan
    · refine ⟨front ++ opening, body, text, ?_, ?_, hbody, ?_⟩
      · rw [List.append_assoc]
      · simp only [List.append_assoc]
      · exact Text.not_infix_of_cutAt? (by decide) hclose
    · simpa only [List.append_assoc, List.cons_append] using ih span hspan

theorem exists_holds_of_mem_spans {text : Text} {span : Span} (h : span ∈ spans text) :
    ∃ body, span.body.Holds text body :=
  ((scan_spansFrom [] text).bracketed span h).exists_holds

end Corpus

end BooleanSearch
