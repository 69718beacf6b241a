import BooleanSearch.Proofs.Documents.Places
import BooleanSearch.Proofs.Text.Offsets

/-!
This module contains the search for documents by a cursor over the bytes of a corpus file. Every access
to the bytes is checked, and the theorem says that no check fails, whatever is written in the file: the
cursor finds the same documents, between a bracket and a closing tag, and one behind the other.

Where reading may fail for two reasons, `none` says that a check failed, and `some none` that there is
no tag.
-/

namespace BooleanSearch.Corpus

open Bytes

structure TagAt where
  attributes : List (Bytes × Bytes)
  stop : Nat

def attributeAt? (file : Bytes) (start : Nat) : Option (Option ((Bytes × Bytes) × Nat)) :=
  match skip? (isAsciiOf isNameChar) file start with
  | none => some none
  | some stop => do
    let byte ← file[stop]?
    if stop = start ∨ byte ≠ asciiByte '=' ∨ file[stop + 1]? ≠ some (asciiByte '"') then
      return none
    else
      let name ← slice? file start stop
      let valued ← slice? file (stop + 2) file.length
      match find? (Utf8.encode ['"']) valued with
      | none => return none
      | some size =>
        let value ← slice? file (stop + 2) (stop + 2 + size)
        return some ((name, value), stop + 2 + size + 1)

theorem lt_of_attributeAt? {file : Bytes} {start stop : Nat} {first : Bytes × Bytes}
    (h : attributeAt? file start = some (some (first, stop))) : start < stop := by
  unfold attributeAt? at h
  split at h
  next => cases h
  next stop' hstop =>
    have hle := le_of_skip? hstop
    simp only [Option.bind_eq_bind, Option.bind_eq_some_iff] at h
    obtain ⟨byte, -, h⟩ := h
    split at h
    next => cases h
    next =>
      simp only [Option.bind_eq_some_iff] at h
      obtain ⟨name, -, valued, -, h⟩ := h
      split at h
      next => cases h
      next size _ =>
        simp only [Option.bind_eq_some_iff] at h
        obtain ⟨value, -, h⟩ := h
        cases h
        omega

def attributesAt? (file : Bytes) (offset : Nat) : Option (Option TagAt) :=
  match _hstart : skip? (isAsciiOf Text.isAsciiSpace) file offset with
  | none => some none
  | some start =>
    match _hbyte : file[start]? with
    | none => none
    | some byte =>
      if byte = asciiByte '>' then
        some (some ⟨[], start + 1⟩)
      else
        match _hfirst : attributeAt? file start with
        | none => none
        | some none => some none
        | some (some (first, stop)) =>
          (attributesAt? file stop).map <| Option.map fun tag =>
            { tag with attributes := first :: tag.attributes }
termination_by file.length - offset
decreasing_by
  have hle := le_of_skip? _hstart
  have hlt := lt_of_attributeAt? _hfirst
  obtain ⟨hinside, -⟩ := List.getElem?_eq_some_iff.mp _hbyte
  omega

def tagAt? (file : Bytes) (offset : Nat) : Option (Option TagAt) :=
  if file[offset]?.any (isAsciiOf Text.isAsciiSpace) then attributesAt? file offset else some none

theorem lt_of_attributesAt? {file : Bytes} {offset : Nat} {tag : TagAt}
    (h : attributesAt? file offset = some (some tag)) : offset < tag.stop := by
  fun_induction attributesAt? file offset generalizing tag with
  | case1 => cases h
  | case2 => cases h
  | case3 offset start hstart =>
    cases h
    exact Nat.lt_succ_of_le (le_of_skip? hstart)
  | case4 => cases h
  | case5 => cases h
  | case6 offset start hstart byte hbyte hbracket first stop hfirst ih =>
    simp only [Option.map_eq_some_iff] at h
    obtain ⟨rest, hrest, tag', rfl, rfl⟩ := h
    have hle := le_of_skip? hstart
    have hlt := lt_of_attributeAt? hfirst
    have hrest := ih hrest
    dsimp only
    omega

theorem lt_of_tagAt? {file : Bytes} {offset : Nat} {tag : TagAt}
    (h : tagAt? file offset = some (some tag)) : offset < tag.stop := by
  unfold tagAt? at h
  split at h
  next => exact lt_of_attributesAt? h
  next => cases h

def spansAt? (file : Bytes) (offset : Nat) : Option (List (Bytes × ByteRange)) :=
  match _hrest : slice? file offset file.length with
  | none => none
  | some rest =>
    match _hopen : find? (Utf8.encode openMark) rest with
    | none => some []
    | some size =>
      let offset := offset + size + openMark.length
      match _htag : tagAt? file offset with
      | none => none
      | some none => spansAt? file offset
      | some (some tag) =>
        match _hbehind : slice? file tag.stop file.length with
        | none => none
        | some behind =>
          match find? (Utf8.encode closeMark) behind with
          | none => some []
          | some size =>
            let stop := tag.stop + size
            (spansAt? file (stop + closeMark.length)).map fun spans =>
              match tag.attributes.reverse.lookup (Utf8.encode "id".toList) with
              | some key => if size = 0 then spans else (key, ⟨tag.stop, stop⟩) :: spans
              | none => spans
termination_by file.length - offset
decreasing_by
  all_goals
    have hmark : (Utf8.encode openMark).length = openMark.length := rfl
    have hwithin := add_length_le_of_find? _hopen
    obtain ⟨⟨hle, -⟩, hrest⟩ := slice?_eq_some_iff.mp _hrest
    have hlength := congrArg List.length hrest
    rw [List.take_length, List.length_drop] at hlength
    have hpos : 0 < openMark.length := by decide
  · omega
  · have hlt := lt_of_tagAt? _htag
    have hclose : 0 < closeMark.length := by decide
    omega

theorem attributesAt?_eq (file : Bytes) (offset : Nat) :
    attributesAt? file offset =
      match skip? (isAsciiOf Text.isAsciiSpace) file offset with
      | none => some none
      | some start =>
        match file[start]? with
        | none => none
        | some byte =>
          if byte = asciiByte '>' then
            some (some ⟨[], start + 1⟩)
          else
            match attributeAt? file start with
            | none => none
            | some none => some none
            | some (some (first, stop)) =>
              (attributesAt? file stop).map <| Option.map fun tag =>
                { tag with attributes := first :: tag.attributes } := by
  rw [attributesAt?]
  split
  next hstart => rw [hstart]
  next start hstart =>
    rw [hstart]
    dsimp only
    split
    next hbyte => rw [hbyte]
    next byte hbyte =>
      rw [hbyte]
      dsimp only
      split
      next => rfl
      next =>
        split
        next hfirst => rw [hfirst]
        next hfirst => rw [hfirst]
        next first stop hfirst => rw [hfirst]

theorem spansAt?_eq (file : Bytes) (offset : Nat) :
    spansAt? file offset =
      match slice? file offset file.length with
      | none => none
      | some rest =>
        match find? (Utf8.encode openMark) rest with
        | none => some []
        | some size =>
          match tagAt? file (offset + size + openMark.length) with
          | none => none
          | some none => spansAt? file (offset + size + openMark.length)
          | some (some tag) =>
            match slice? file tag.stop file.length with
            | none => none
            | some behind =>
              match find? (Utf8.encode closeMark) behind with
              | none => some []
              | some size =>
                (spansAt? file (tag.stop + size + closeMark.length)).map fun spans =>
                  match tag.attributes.reverse.lookup (Utf8.encode "id".toList) with
                  | some key => if size = 0 then spans else (key, ⟨tag.stop, tag.stop + size⟩) :: spans
                  | none => spans := by
  -- The definition matches on equations to show that it comes to an end; here they are gone.
  rw [spansAt?]
  split
  next hrest => rw [hrest]
  next rest hrest =>
    rw [hrest]
    dsimp only
    split
    next hopen => rw [hopen]
    next size hopen =>
      rw [hopen]
      dsimp only
      split
      next htag => rw [htag]
      next htag => rw [htag]
      next tag htag =>
        rw [htag]
        dsimp only
        split
        next hbehind => rw [hbehind]
        next behind hbehind => rw [hbehind]

theorem isAsciiClass_isAsciiSpace : Utf8.IsAsciiClass Text.isAsciiSpace :=
  fun _ => toNat_lt_of_isAsciiSpace

theorem isAsciiClass_isNameChar : Utf8.IsAsciiClass isNameChar := fun _ => toNat_lt_of_isNameChar

theorem exists_run {p : Char → Bool} (hp : Utf8.IsAsciiClass p) (text : Text) :
    ∃ run rest, text = run ++ rest ∧ text.takeWhile p = run ∧ text.dropWhile p = rest ∧
      Utf8.byteLength run = run.length :=
  ⟨_, _, List.takeWhile_append_dropWhile.symm, rfl, rfl, byteLength_takeWhile hp text⟩

theorem opens_value_iff (front text : Text) :
    ((Utf8.encode (front ++ text))[Utf8.byteLength front]? = some (asciiByte '=') ∧
      (Utf8.encode (front ++ text))[Utf8.byteLength front + 1]? = some (asciiByte '"')) ↔
        (Text.dropMark? ['=', '"'] text).isSome := by
  have hquote (rest : Text) :
      (Utf8.encode (front ++ '=' :: rest))[Utf8.byteLength front + 1]? = some (asciiByte '"') ↔
        rest.head? = some '"' := by
    have hiff := Utf8.getElem?_encode_eq_some_iff (front ++ ['=']) rest
      (show '"'.toNat < 0x80 by decide)
    rwa [Utf8.byteLength_append, List.append_assoc] at hiff
  rw [Utf8.getElem?_encode_eq_some_iff front text (show '='.toNat < 0x80 by decide)]
  constructor
  · rintro ⟨hequals, hopen⟩
    obtain ⟨rest, rfl⟩ := List.head?_eq_some_iff.mp hequals
    obtain ⟨valued, rfl⟩ := List.head?_eq_some_iff.mp ((hquote rest).mp hopen)
    rfl
  · intro hopens
    obtain ⟨valued, hvalued⟩ := Option.isSome_iff_exists.mp hopens
    obtain rfl := Text.dropMark?_eq_some_iff.mp hvalued
    exact ⟨rfl, (hquote ('"' :: valued)).mpr rfl⟩

theorem attributeAt?_encode (front tag : Text) :
    attributeAt? (Utf8.encode (front ++ tag)) (Utf8.byteLength front) =
      let name := tag.takeWhile isNameChar
      match Text.dropMark? ['=', '"'] (tag.dropWhile isNameChar) with
      | none => some none
      | some valued =>
        if name.isEmpty then
          some none
        else
          match Text.cutAt? ['"'] valued with
          | none => some none
          | some (value, _) =>
            some (some ((Utf8.encode name, Utf8.encode value),
              Utf8.byteLength front + attributeSize name value)) := by
  obtain ⟨name, behind, rfl, hname, hbehind, hascii⟩ := exists_run isAsciiClass_isNameChar tag
  unfold attributeAt?
  rw [Utf8.skip?_encode isAsciiClass_isNameChar, hname, hbehind]
  cases behind with
  | nil => rfl
  | cons c rest =>
    have hempty : Utf8.byteLength (front ++ name) = Utf8.byteLength front ↔ name = [] := by
      rw [Utf8.byteLength_append, Nat.add_eq_left, Utf8.byteLength_eq_zero_iff]
    obtain ⟨byte, hbyte, -⟩ := Utf8.exists_getElem?_encode (front ++ name) c rest
    -- The two bytes behind the name decide as the mark does.
    have hopens := opens_value_iff (front ++ name) (c :: rest)
    rw [hbyte, Option.some.injEq, List.append_assoc] at hopens
    rw [List.append_assoc] at hbyte
    rw [if_neg (List.cons_ne_nil c rest)]
    dsimp only
    rw [hbyte]
    simp only [Option.bind_eq_bind, Option.bind_some, hempty]
    cases hdrop : Text.dropMark? ['=', '"'] (c :: rest) with
    | none =>
      apply if_pos
      right
      rw [← Decidable.not_and_iff_not_or_not, hopens, hdrop]
      exact Bool.false_ne_true
    | some valued =>
      obtain ⟨hequals, hquote⟩ := hopens.mpr (by rw [hdrop, Option.isSome_some])
      rw [hequals, hquote]
      by_cases hnil : name = []
      · simp [hnil]
      · have hopened : Utf8.byteLength (front ++ name ++ ['=', '"']) =
            Utf8.byteLength (front ++ name) + 2 := Utf8.byteLength_append ..
        have hfile : front ++ (name ++ c :: rest) = front ++ name ++ ['=', '"'] ++ valued := by
          rw [Text.dropMark?_eq_some_iff.mp hdrop]
          simp only [List.append_assoc]
        have hslice := Utf8.slice?_encode front name (c :: rest)
        have hrest := Utf8.slice?_rest (front ++ name ++ ['=', '"']) valued
        rw [← hfile, hopened] at hrest
        rw [if_neg (by simp [hnil]), hslice, Option.bind_some, hrest,
          Option.bind_some, Utf8.find?_encode]
        simp only [List.isEmpty_iff, hnil, if_false]
        cases hcut : Text.cutAt? ['"'] valued with
        | none => rfl
        | some cut =>
          obtain ⟨value, behind⟩ := cut
          have hvalue := Utf8.slice?_encode (front ++ name ++ ['=', '"']) value (['"'] ++ behind)
          rw [← List.append_assoc value, ← Text.eq_append_of_cutAt? hcut, ← hfile,
            Utf8.byteLength_append _ value, hopened] at hvalue
          simp only [Option.map_some, hvalue, Option.bind_some]
          have hstop : Utf8.byteLength (front ++ name) + 2 + Utf8.byteLength value + 1 =
              Utf8.byteLength front + attributeSize name value := by
            rw [Utf8.byteLength_append, hascii, attributeSize]
            omega
          rw [hstop]
          rfl

def OpenTag.at (tag : OpenTag) (offset : Nat) : TagAt where
  attributes := tag.attributes.map fun (name, value) => (Utf8.encode name, Utf8.encode value)
  stop := offset + tag.size

theorem OpenTag.stop_at (tag : OpenTag) (offset : Nat) : (tag.at offset).stop = offset + tag.size :=
  rfl

theorem attributesAt?_encode (front text : Text) :
    attributesAt? (Utf8.encode (front ++ text)) (Utf8.byteLength front) =
      some ((openTag? text).map fun tag => tag.at (Utf8.byteLength front)) := by
  rw [attributesAt?_eq, Utf8.skip?_encode isAsciiClass_isAsciiSpace, openTag?_eq]
  obtain ⟨blanks, tag, hread, hblanks, htag, hascii⟩ := exists_run isAsciiClass_isAsciiSpace text
  rw [hblanks, htag]
  cases tag with
  | nil => rfl
  | cons c rest =>
    obtain ⟨byte, hbyte, hbracket⟩ := Utf8.exists_getElem?_encode (front ++ blanks) c rest
    rw [List.append_assoc, ← hread] at hbyte
    rw [if_neg (List.cons_ne_nil c rest)]
    dsimp only
    rw [hbyte]
    simp only [hbracket '>' (by decide), List.head?_cons, Option.some.injEq]
    by_cases hc : c = '>'
    · rw [if_pos hc, if_pos hc, Utf8.byteLength_append, hascii, Nat.add_assoc]
      rfl
    · have hfirst := attributeAt?_encode (front ++ blanks) (c :: rest)
      rw [List.append_assoc, ← hread] at hfirst
      obtain ⟨name, after, hsplit, hname, hafter, hnames⟩ :=
        exists_run isAsciiClass_isNameChar (c :: rest)
      rw [if_neg hc, if_neg hc, hfirst, hname, hafter]
      cases hvalued : Text.dropMark? ['=', '"'] after with
      | none => rfl
      | some valued =>
        by_cases hempty : name.isEmpty = true
        · simp only [hempty, if_true]
          rfl
        · simp only [hempty, Bool.false_eq_true, if_false]
          cases hcut : Text.cutAt? ['"'] valued with
          | none => rfl
          | some cut =>
            obtain ⟨value, behind⟩ := cut
            have htext : text = blanks ++ (name ++ (['=', '"'] ++ (value ++ ['"']))) ++ behind := by
              rw [hread, hsplit, Text.dropMark?_eq_some_iff.mp hvalued, Text.eq_append_of_cutAt? hcut]
              simp only [List.append_assoc]
            have hstop : Utf8.byteLength (front ++ blanks) + attributeSize name value =
                Utf8.byteLength (front ++ (blanks ++ (name ++ (['=', '"'] ++ (value ++ ['"']))))) := by
              simp only [Utf8.byteLength_append, attributeSize, hnames,
                show Utf8.byteLength ['=', '"'] = 2 from rfl, show Utf8.byteLength ['"'] = 1 from rfl]
              omega
            -- The attribute is read, and the rest of the tag stands behind a longer text.
            have hrest := attributesAt?_encode
              (front ++ (blanks ++ (name ++ (['=', '"'] ++ (value ++ ['"']))))) behind
            rw [List.append_assoc, ← htext] at hrest
            dsimp only
            rw [hstop, hrest, ← hstop]
            simp only [Option.map_some, Option.map_map]
            congr 2
            funext tag
            simp only [Function.comp_apply, OpenTag.at, List.map_cons, Utf8.byteLength_append,
              hascii, Nat.add_assoc]
termination_by text.length
decreasing_by
  have hlength := congrArg List.length htext
  simp only [List.length_append, List.length_cons, List.length_nil] at hlength ⊢
  omega

theorem tagAt?_encode (front text : Text) :
    tagAt? (Utf8.encode (front ++ text)) (Utf8.byteLength front) =
      some ((if text.head?.any Text.isAsciiSpace then openTag? text else none).map fun tag =>
        tag.at (Utf8.byteLength front)) := by
  rw [tagAt?, Utf8.any_getElem?_encode isAsciiClass_isAsciiSpace, attributesAt?_encode]
  split
  next => rfl
  next => rfl

theorem lookup_at (tag : OpenTag) (offset : Nat) (name : Text) :
    (tag.at offset).attributes.reverse.lookup (Utf8.encode name) =
      (tag.attribute? name).map Utf8.encode := by
  rw [OpenTag.at, OpenTag.attribute?, ← List.map_reverse]
  apply Utf8.lookup_map_encode

theorem find?_openMark (text : Text) : find? (Utf8.encode openMark) (Utf8.encode text) =
    (Text.cutAt? openMark text).map fun cut => Utf8.byteLength cut.1 :=
  Utf8.find?_encode '<' "doc".toList text

theorem find?_closeMark (text : Text) : find? (Utf8.encode closeMark) (Utf8.encode text) =
    (Text.cutAt? closeMark text).map fun cut => Utf8.byteLength cut.1 :=
  Utf8.find?_encode '<' "/doc>".toList text

theorem exists_read_of_cutAt? {mark text before behind : Text} (front : Text)
    (hmark : Utf8.byteLength mark = mark.length)
    (h : Text.cutAt? mark text = some (before, behind)) :
    ∃ read, front ++ text = read ++ behind ∧
      Utf8.byteLength front + Utf8.byteLength before + mark.length = Utf8.byteLength read := by
  refine ⟨front ++ (before ++ mark), ?_, ?_⟩
  · rw [Text.eq_append_of_cutAt? h, List.append_assoc front]
  · rw [Utf8.byteLength_append, Utf8.byteLength_append, hmark, Nat.add_assoc]

theorem exists_read_of_openTag? {text : Text} {tag : OpenTag} (front : Text)
    (h : openTag? text = some tag) :
    ∃ read, front ++ text = read ++ tag.behind ∧
      Utf8.byteLength front + tag.size = Utf8.byteLength read := by
  obtain ⟨opening, hopening, hsize⟩ := exists_opening_of_openTag? h
  refine ⟨front ++ (opening ++ ['>']), ?_, ?_⟩
  · rw [hopening]
    simp only [List.append_assoc, List.singleton_append]
  · rw [Utf8.byteLength_append, Utf8.byteLength_append, ← hsize]
    rfl

theorem spansAt?_encode (front text : Text) :
    spansAt? (Utf8.encode (front ++ text)) (Utf8.byteLength front) =
      some ((spansFrom (Utf8.byteLength front) text).map fun span =>
        (Utf8.encode span.key, span.body)) := by
  rw [spansAt?_eq, spansFrom_eq, Utf8.slice?_rest]
  dsimp only
  rw [find?_openMark]
  cases hopen : Text.cutAt? openMark text with
  | none => rfl
  | some cut =>
    obtain ⟨before, behind⟩ := cut
    obtain ⟨read, hread, hoffset⟩ := exists_read_of_cutAt? front byteLength_openMark hopen
    dsimp only [Option.map_some]
    rw [hoffset, hread, tagAt?_encode]
    cases htag : if behind.head?.any Text.isAsciiSpace then openTag? behind else none with
    | none =>
      -- The mark begins no tag, and the search goes on behind it.
      dsimp only [Option.map_none]
      exact spansAt?_encode read behind
    | some tag =>
      have hopened : openTag? behind = some tag := by
        split at htag
        next => exact htag
        next => cases htag
      obtain ⟨opened, htagged, hstart⟩ := exists_read_of_openTag? read hopened
      dsimp only [Option.map_some]
      rw [OpenTag.stop_at, hstart, htagged, Utf8.slice?_rest]
      dsimp only
      rw [find?_closeMark]
      cases hclose : Text.cutAt? closeMark tag.behind with
      | none => rfl
      | some cut =>
        obtain ⟨body, rest⟩ := cut
        obtain ⟨closed, hclosed, hstop⟩ := exists_read_of_cutAt? opened byteLength_closeMark hclose
        dsimp only [Option.map_some]
        rw [hstop, hclosed, spansAt?_encode closed rest, lookup_at, Option.map_some]
        congr 1
        cases tag.attribute? "id".toList with
        | none => rfl
        | some key =>
          cases body with
          | nil => rfl
          | cons c body =>
            -- The cursor counts bytes, of which every character has at least one.
            dsimp only [Option.map_some]
            rw [if_neg (mt Utf8.byteLength_eq_zero_iff.mp (List.cons_ne_nil c body))]
            rfl
termination_by text.length
decreasing_by
  all_goals
    have hmark : openMark.length = 4 := rfl
    have hlength := congrArg List.length (Text.eq_append_of_cutAt? hopen)
    simp only [List.length_append, hmark] at hlength
  · omega
  · have hbehind := length_behind_lt hopened
    have hrest := congrArg List.length (Text.eq_append_of_cutAt? hclose)
    simp only [List.length_append] at hrest
    omega

theorem Bracketed.within {text : Text} {range : ByteRange} (h : Bracketed text range) :
    range.start < range.stop ∧ range.stop ≤ (Utf8.encode text).length ∧
      isBoundary (Utf8.encode text) range.start ∧ isBoundary (Utf8.encode text) range.stop := by
  obtain ⟨before, body, behind, rfl, rfl, hbody, -⟩ := h
  have hstop : isBoundary (Utf8.encode (before ++ '>' :: (body ++ (closeMark ++ behind))))
      (Utf8.byteLength (before ++ '>' :: body)) = true := by
    rw [← List.cons_append, ← List.append_assoc]
    apply Utf8.isBoundary_byteLength
  refine ⟨?_, le_length_of_isBoundary hstop, ?_, hstop⟩
  · have hpos := mt Utf8.byteLength_eq_zero_iff.mp hbody
    simp only [Utf8.byteLength_append, byteLength_bracket]
    rw [show Utf8.byteLength [] = 0 from rfl]
    omega
  · rw [List.append_cons]
    apply Utf8.isBoundary_byteLength

theorem Scan.ordered {front text : Text} {spans : List Span} (h : Scan front text spans) :
    (∀ span ∈ spans, Utf8.byteLength front < span.body.start) ∧
      spans.Pairwise fun first second =>
        first.body.stop + closeMark.length < second.body.start := by
  -- That everything begins behind the text in front carries the induction.
  induction h with
  | ended => simp
  | passed hrest ih =>
    refine ⟨fun span hspan => ?_, ih.2⟩
    have hstart := ih.1 span hspan
    rw [Utf8.byteLength_append] at hstart
    omega
  | @found front opening body text key spans hbody hclose hrest ih =>
    have hstop : Utf8.byteLength (front ++ (opening ++ '>' :: (body ++ closeMark))) =
        Utf8.byteLength (front ++ (opening ++ '>' :: body)) + closeMark.length := by
      simp only [Utf8.byteLength_append, byteLength_bracket, byteLength_closeMark]
      omega
    rw [hstop] at ih
    rw [List.forall_mem_cons, List.pairwise_cons]
    refine ⟨⟨?_, fun span hspan => ?_⟩, ih.1, ih.2⟩
    · simp only [Utf8.byteLength_append, show Utf8.byteLength ['>'] = 1 from rfl]
      omega
    · have hstart := ih.1 span hspan
      rw [Utf8.byteLength_append] at hstart
      omega

/--
Whatever is written in a file, the cursor gets to its end and no check fails. Behind one another it
finds the bodies of the documents, each between a bracket and the next closing tag.
-/
theorem cursor_never_fails (text : Text) :
    spansAt? (Utf8.encode text) 0 =
        some ((spans text).map fun span => (Utf8.encode span.key, span.body)) ∧
      ((spans text).Pairwise fun first second =>
        first.body.stop + closeMark.length < second.body.start) ∧
      ∀ span ∈ spans text, Bracketed text span.body ∧ span.body.start < span.body.stop ∧
        span.body.stop ≤ (Utf8.encode text).length ∧
        isBoundary (Utf8.encode text) span.body.start ∧
        isBoundary (Utf8.encode text) span.body.stop := by
  have hscan := scan_spansFrom [] text
  refine ⟨spansAt?_encode [] text, hscan.ordered.2, fun span hspan => ?_⟩
  have hbracketed := hscan.bracketed span hspan
  exact ⟨hbracketed, hbracketed.within⟩

end BooleanSearch.Corpus
