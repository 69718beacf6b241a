import Mathlib.Data.List.Basic
import BooleanSearch.Proofs.Documents.Places

/-!
This module contains the theorem that the documents of a corpus file are found again when they are
written out, whatever stands between them: a writer of such files is defined, with the places at which
it puts the bodies, and these are the places that are found.
-/

namespace BooleanSearch.Corpus

structure Attribute where
  blanks : Text
  name : Text
  value : Text
  blanks_ne_nil : blanks ≠ []
  isAsciiSpace_of_mem : ∀ c ∈ blanks, Text.isAsciiSpace c = true
  name_ne_nil : name ≠ []
  nameChar_of_mem : ∀ c ∈ name, c.isAlphanum = true ∨ c = '_' ∨ c = '-'
  quote_notMem : '"' ∉ value

/--
A document as it is written in a corpus file. Its body may contain anything but a closing tag.
-/
structure Document where
  attributes : List Attribute
  body : Text
  attributes_ne_nil : attributes ≠ []
  not_infix_body : ¬ closeMark <:+: body

/--
A text between documents. It may contain anything but the beginning of an opening tag.
-/
structure Filler where
  text : Text
  not_infix_text : ∀ c, Text.isAsciiSpace c = true → ¬ (openMark ++ [c]) <:+: text

def Filler.nothing : Filler where
  text := []
  not_infix_text _ _ h := by
    have hlength := h.length_le
    simp at hlength

def Attribute.text (a : Attribute) : Text :=
  a.blanks ++ (a.name ++ (['=', '"'] ++ (a.value ++ ['"'])))

namespace Document

def opening (document : Document) : Text :=
  openMark ++ (document.attributes.flatMap Attribute.text ++ ['>'])

def text (document : Document) : Text :=
  document.opening ++ (document.body ++ closeMark)

def key? (document : Document) : Option Text :=
  (document.attributes.filter (·.name = "id".toList)).getLast?.map (·.value)

/--
Only documents with a key and a body that is not empty are listed.
-/
def isListed (document : Document) : Bool := document.key?.isSome && !document.body.isEmpty

def span? (document : Document) (front : Text) : Option Span :=
  match document.key? with
  | some key =>
    if document.body.isEmpty then
      none
    else
      some ⟨key, Utf8.byteLength (front ++ document.opening),
        Utf8.byteLength (front ++ document.opening ++ document.body)⟩
  | none => none

end Document

def write (pieces : List (Filler × Document)) (last : Filler) : Text :=
  pieces.flatMap (fun piece => piece.1.text ++ piece.2.text) ++ last.text

def places (front : Text) : List (Filler × Document) → List Span
  | [] => []
  | (filler, document) :: pieces =>
    (document.span? (front ++ filler.text)).toList ++
      places (front ++ filler.text ++ document.text) pieces

theorem isNameChar_of_mem_name {a : Attribute} {c : Char} (h : c ∈ a.name) : isNameChar c = true := by
  simpa only [isNameChar, Bool.or_eq_true, beq_iff_eq, or_assoc] using a.nameChar_of_mem c h

theorem not_blank_of_isNameChar {c : Char} (h : isNameChar c = true) :
    Text.isAsciiSpace c = false ∧ c ≠ '>' := by
  constructor
  · cases hspace : Text.isAsciiSpace c with
    | false => rfl
    | true =>
      simp only [Text.isAsciiSpace, Bool.or_eq_true, beq_iff_eq] at hspace
      rcases hspace with (((rfl | rfl) | rfl) | rfl) | rfl <;> revert h <;> decide
  · rintro rfl
    revert h
    decide

theorem span_append {p : Char → Bool} {run : Text} (rest : Text) (hrun : ∀ c ∈ run, p c = true)
    (hrest : ∀ c ∈ rest.head?, p c = false) :
    (run ++ rest).takeWhile p = run ∧ (run ++ rest).dropWhile p = rest := by
  rw [List.takeWhile_append_of_pos hrun, List.dropWhile_append_of_pos hrun]
  cases rest with
  | nil => simp
  | cons c rest =>
    have hc := hrest c rfl
    simp [hc]

theorem openTag?_bracket (behind : Text) : openTag? ('>' :: behind) = some ⟨[], 1, behind⟩ := by
  rw [openTag?_eq]
  rfl

theorem byteLength_attribute (a : Attribute) :
    Utf8.byteLength a.text = a.blanks.length + attributeSize a.name a.value := by
  have hmark : Utf8.byteLength ['=', '"'] = 2 := rfl
  have hquote : Utf8.byteLength ['"'] = 1 := rfl
  simp only [Attribute.text, Utf8.byteLength_append, attributeSize, hmark, hquote,
    Utf8.byteLength_of_ascii fun c hc => toNat_lt_of_isAsciiSpace (a.isAsciiSpace_of_mem c hc),
    Utf8.byteLength_of_ascii fun c (hc : c ∈ a.name) =>
      toNat_lt_of_isNameChar (isNameChar_of_mem_name hc)]
  omega

theorem cutAt?_value (a : Attribute) (rest : Text) :
    Text.cutAt? ['"'] (a.value ++ (['"'] ++ rest)) = some (a.value, rest) := by
  apply Text.cutAt?_before_mark List.not_mem_nil
  rintro ⟨before, behind, hvalue⟩
  apply a.quote_notMem
  rw [← hvalue]
  simp

theorem openTag?_attribute (a : Attribute) (rest : Text) :
    openTag? (a.text ++ rest) =
      (openTag? rest).map fun tag =>
        { tag with
          attributes := (a.name, a.value) :: tag.attributes
          size := Utf8.byteLength a.text + tag.size } := by
  have htext : a.text ++ rest =
      a.blanks ++ (a.name ++ (['=', '"'] ++ (a.value ++ (['"'] ++ rest)))) := by
    simp only [Attribute.text, List.append_assoc]
  obtain ⟨c, name, hname⟩ := List.exists_cons_of_ne_nil a.name_ne_nil
  have hc := not_blank_of_isNameChar (isNameChar_of_mem_name (a := a) (c := c) (by simp [hname]))
  obtain ⟨hblanks, htag⟩ := span_append (a.name ++ (['=', '"'] ++ (a.value ++ (['"'] ++ rest))))
    a.isAsciiSpace_of_mem (by simp [hname, hc.1])
  obtain ⟨hnames, hvalued⟩ := span_append (['=', '"'] ++ (a.value ++ (['"'] ++ rest)))
    (fun _ => isNameChar_of_mem_name (a := a)) (by simp; decide)
  rw [openTag?_eq, htext]
  dsimp only
  rw [hblanks, htag, hnames, hvalued, Text.dropMark?_append]
  dsimp only
  rw [cutAt?_value, byteLength_attribute]
  simp [hname, hc.2]

theorem openTag?_attributes (attributes : List Attribute) (behind : Text) :
    openTag? (attributes.flatMap Attribute.text ++ '>' :: behind) =
      some ⟨attributes.map fun a => (a.name, a.value),
        Utf8.byteLength (attributes.flatMap Attribute.text) + 1, behind⟩ := by
  induction attributes with
  | nil => exact openTag?_bracket behind
  | cons a attributes ih =>
    rw [List.flatMap_cons, List.append_assoc, openTag?_attribute, ih, Utf8.byteLength_append]
    simp only [Option.map_some, List.map_cons, Nat.add_assoc]

theorem attribute?_map (attributes : List Attribute) (name : Text) (size : Nat) (behind : Text) :
    OpenTag.attribute? ⟨attributes.map fun a => (a.name, a.value), size, behind⟩ name =
      (attributes.filter (·.name = name)).getLast?.map (·.value) := by
  rw [OpenTag.attribute?, List.getLast?_eq_head?_reverse, ← List.filter_reverse, ← List.map_reverse]
  induction attributes.reverse with
  | nil => rfl
  | cons a attributes ih =>
    by_cases h : a.name = name
    · simp [h]
    · have hbeq : (name == a.name) = false := beq_false_of_ne (Ne.symm h)
      simpa [h, hbeq, List.lookup_cons] using ih

theorem not_mem_openMark : '<' ∉ "doc".toList := by decide

theorem not_mem_closeMark : '<' ∉ "/doc>".toList := by decide

theorem cutAt?_closeMark {body : Text} (hbody : ¬ closeMark <:+: body) (behind : Text) :
    Text.cutAt? closeMark (body ++ (closeMark ++ behind)) = some (body, behind) :=
  Text.cutAt?_before_mark not_mem_closeMark hbody behind

theorem head?_behind {before behind rest : Text}
    (hfree : ∀ c, Text.isAsciiSpace c = true → ¬ (openMark ++ [c]) <:+: before ++ openMark ++ behind)
    (hrest : ∀ c ∈ rest.head?, c = '<') :
    (behind ++ rest).head?.any Text.isAsciiSpace = false := by
  cases behind with
  | nil =>
    cases rest with
    | nil => rfl
    | cons c rest =>
      obtain rfl := hrest c rfl
      rfl
  | cons c behind =>
    simp only [List.cons_append, List.head?_cons, Option.any_some, Bool.eq_false_iff]
    intro hspace
    exact hfree c hspace ⟨before, behind, by simp⟩

theorem spansFrom_filler (filler : Filler) {rest : Text} (hrest : ∀ c ∈ rest.head?, c = '<')
    (front : Text) : spansFrom (Utf8.byteLength front) (filler.text ++ rest) =
      spansFrom (Utf8.byteLength (front ++ filler.text)) rest := by
  obtain ⟨text, hfree⟩ := filler
  dsimp only
  -- The search goes on behind each mark that begins no tag, in a text that is free of tags as well.
  induction hlength : text.length using Nat.strongRecOn generalizing text front with
  | ind length ih =>
    cases hcut : Text.cutAt? openMark text with
    | none =>
      have hjoined : Text.cutAt? openMark (text ++ rest) =
          (Text.cutAt? openMark rest).map fun cut => (text ++ cut.1, cut.2) :=
        Text.cutAt?_append_of_none not_mem_openMark hcut hrest
      rw [spansFrom_eq (Utf8.byteLength front), spansFrom_eq, hjoined]
      cases Text.cutAt? openMark rest with
      | none => rfl
      | some cut => simp only [Option.map_some, Utf8.byteLength_append, Nat.add_assoc]
    | some cut =>
      obtain ⟨before, behind⟩ := cut
      have htext := Text.eq_append_of_cutAt? hcut
      have hhead := head?_behind (htext ▸ hfree) hrest
      have hbehind : ∀ c, Text.isAsciiSpace c = true → ¬ (openMark ++ [c]) <:+: behind :=
        fun c hspace hstands => hfree c hspace
          (hstands.trans ⟨before ++ openMark, [], by rw [htext, List.append_nil]⟩)
      have hshorter : behind.length < length := by
        have hmark : openMark.length = 4 := rfl
        rw [← hlength, htext]
        simp only [List.length_append]
        omega
      have hpassed := ih _ hshorter (front ++ before ++ openMark) behind hbehind rfl
      rw [spansFrom_eq, Text.cutAt?_append_of_some hcut]
      simp only [hhead, Bool.false_eq_true, if_false]
      rw [htext]
      simpa only [Utf8.byteLength_append, byteLength_openMark, Nat.add_assoc, List.append_assoc]
        using hpassed

theorem head?_attributes (document : Document) (rest : Text) :
    (document.attributes.flatMap Attribute.text ++ rest).head?.any Text.isAsciiSpace = true := by
  obtain ⟨a, attributes, hattributes⟩ := List.exists_cons_of_ne_nil document.attributes_ne_nil
  obtain ⟨c, blanks, hblanks⟩ := List.exists_cons_of_ne_nil a.blanks_ne_nil
  have hc := a.isAsciiSpace_of_mem c (by simp [hblanks])
  simp [hattributes, Attribute.text, hblanks, hc]

theorem byteLength_opening (document : Document) : Utf8.byteLength document.opening =
    openMark.length + (Utf8.byteLength (document.attributes.flatMap Attribute.text) + 1) := by
  simp only [Document.opening, Utf8.byteLength_append, byteLength_openMark,
    show Utf8.byteLength ['>'] = 1 from rfl]

theorem spansFrom_opening (document : Document) (front behind : Text) :
    spansFrom (Utf8.byteLength front) (document.opening ++ behind) =
      match Text.cutAt? closeMark behind with
      | none => []
      | some (body, rest) =>
        let start := Utf8.byteLength (front ++ document.opening)
        let stop := Utf8.byteLength (front ++ document.opening ++ body)
        let spans :=
          spansFrom (Utf8.byteLength (front ++ document.opening ++ body ++ closeMark)) rest
        match document.key? with
        | some key => if body.isEmpty then spans else ⟨key, start, stop⟩ :: spans
        | none => spans := by
  have htext : document.opening ++ behind =
      openMark ++ (document.attributes.flatMap Attribute.text ++ '>' :: behind) := by
    simp [Document.opening]
  have hopen := Text.cutAt?_mark (show openMark ≠ [] by decide)
    (document.attributes.flatMap Attribute.text ++ '>' :: behind)
  have hkey (size : Nat) :
      OpenTag.attribute? ⟨document.attributes.map fun a => (a.name, a.value), size, behind⟩
        "id".toList = document.key? := attribute?_map ..
  have hstart : Utf8.byteLength front + Utf8.byteLength [] + openMark.length +
      (Utf8.byteLength (document.attributes.flatMap Attribute.text) + 1) =
        Utf8.byteLength (front ++ document.opening) := by
    rw [Utf8.byteLength_append, byteLength_opening, Nat.add_assoc]
    rfl
  rw [spansFrom_eq, htext, hopen]
  simp only [head?_attributes, if_true, openTag?_attributes, hkey, hstart]
  cases Text.cutAt? closeMark behind with
  | none => rfl
  | some cut =>
    obtain ⟨body, rest⟩ := cut
    cases document.key? with
    | none => simp only [Utf8.byteLength_append, byteLength_closeMark]
    | some key => simp only [Utf8.byteLength_append, byteLength_closeMark]

theorem spansFrom_document (document : Document) (front rest : Text) :
    spansFrom (Utf8.byteLength front) (document.text ++ rest) =
      (document.span? front).toList ++
        spansFrom (Utf8.byteLength (front ++ document.text)) rest := by
  rw [Document.text, List.append_assoc, List.append_assoc, spansFrom_opening,
    cutAt?_closeMark document.not_infix_body]
  simp only [Document.span?, ← List.append_assoc]
  cases document.key? with
  | none => rfl
  | some key => cases document.body.isEmpty <;> rfl

theorem spansFrom_write_append (pieces : List (Filler × Document)) (filler : Filler) {rest : Text}
    (hrest : ∀ c ∈ rest.head?, c = '<') (front : Text) :
    spansFrom (Utf8.byteLength front) (write pieces filler ++ rest) =
      places front pieces ++ spansFrom (Utf8.byteLength (front ++ write pieces filler)) rest := by
  induction pieces generalizing front with
  | nil =>
    rw [write, List.flatMap_nil, List.nil_append, spansFrom_filler filler hrest, places,
      List.nil_append]
  | cons piece pieces ih =>
    obtain ⟨before, document⟩ := piece
    have hwrite : write ((before, document) :: pieces) filler =
        before.text ++ (document.text ++ write pieces filler) := by
      simp only [write, List.flatMap_cons, List.append_assoc]
    have hhead : ∀ c ∈ (document.text ++ (write pieces filler ++ rest)).head?, c = '<' := by
      simp [Document.text, Document.opening, openMark]
    rw [hwrite, List.append_assoc, List.append_assoc, spansFrom_filler before hhead,
      spansFrom_document, ih, places]
    simp only [List.append_assoc]

theorem spansFrom_write (pieces : List (Filler × Document)) (last : Filler) (front : Text) :
    spansFrom (Utf8.byteLength front) (write pieces last) = places front pieces := by
  have hwrite := @spansFrom_write_append pieces last [] (by simp) front
  rw [List.append_nil, spansFrom_eq _ []] at hwrite
  rw [hwrite]
  exact List.append_nil _

theorem holds_of_span? {document : Document} {front : Text} {span : Span}
    (h : document.span? front = some span) (behind : Text) :
    document.key? = some span.key ∧
      span.body.Holds (front ++ document.text ++ behind) document.body := by
  unfold Document.span? at h
  split at h
  next key hkey =>
    split at h
    next => cases h
    next =>
      cases h
      refine ⟨hkey, front ++ document.opening, closeMark ++ behind, ?_, rfl⟩
      simp only [Document.text, List.append_assoc]
  next => cases h

theorem isSome_span? (document : Document) (front : Text) :
    (document.span? front).isSome = document.isListed := by
  unfold Document.span? Document.isListed
  cases document.key? with
  | none => rfl
  | some key => cases document.body.isEmpty <;> rfl

theorem map_places (pieces : List (Filler × Document)) (last : Filler) (front : Text) :
    (places front pieces).map (fun span =>
        (some span.key, span.body.of? (Utf8.encode (front ++ write pieces last)))) =
      ((pieces.map (·.2)).filter Document.isListed).map fun document =>
        (document.key?, some (Utf8.encode document.body)) := by
  induction pieces generalizing front with
  | nil => rfl
  | cons piece pieces ih =>
    obtain ⟨filler, document⟩ := piece
    have hwrite : front ++ write ((filler, document) :: pieces) last =
        front ++ filler.text ++ document.text ++ write pieces last := by
      simp only [write, List.flatMap_cons, List.append_assoc]
    rw [places, List.map_append, hwrite, ih, List.map_cons, List.filter_cons,
      ← isSome_span? document (front ++ filler.text)]
    cases hspan : document.span? (front ++ filler.text) with
    | none => rfl
    | some span =>
      obtain ⟨hkey, hholds⟩ := holds_of_span? hspan (write pieces last)
      simp only [Option.isSome_some, if_true, Option.toList_some, List.map_cons, List.map_nil,
        List.singleton_append, hkey, hholds.of?_encode]

/--
The documents of a file are found in their order, whatever stands between them: those with a key and a
body, each with its last key and the place of its body.
-/
theorem spans_write (pieces : List (Filler × Document)) (last : Filler) :
    spans (write pieces last) = places [] pieces ∧
      (spans (write pieces last)).map (fun span =>
          (some span.key, span.body.of? (Utf8.encode (write pieces last)))) =
        ((pieces.map (·.2)).filter Document.isListed).map fun document =>
          (document.key?, some (Utf8.encode document.body)) := by
  have hspans : spans (write pieces last) = places [] pieces := spansFrom_write pieces last []
  rw [hspans]
  exact ⟨rfl, map_places pieces last []⟩

def nearMiss : Filler where
  text := ['é', '<', 'd', 'o', 'c', 's', '>']
  not_infix_text c hc := by
    simp only [Text.isAsciiSpace, Bool.or_eq_true, beq_iff_eq] at hc
    rcases hc with (((rfl | rfl) | rfl) | rfl) | rfl <;> decide

def Attribute.ofKey (blank : Char) (key : Text) (hblank : Text.isAsciiSpace blank = true)
    (hkey : '"' ∉ key) : Attribute where
  blanks := [blank]
  name := "id".toList
  value := key
  blanks_ne_nil := List.cons_ne_nil blank []
  isAsciiSpace_of_mem c hc := by
    rw [List.mem_singleton.mp hc]
    exact hblank
  name_ne_nil := by decide
  nameChar_of_mem c hc := by
    have hc : c = 'i' ∨ c = 'd' := by simpa using hc
    rcases hc with rfl | rfl <;> decide
  quote_notMem := hkey

def twoKeys : Document where
  attributes := [.ofKey ' ' "1".toList (by decide) (by decide),
    .ofKey '\n' "a>".toList (by decide) (by decide)]
  body := "<doc ".toList
  attributes_ne_nil := by decide
  not_infix_body := by decide

theorem spans_of_near_miss :
    spans ('é' :: "<docs><doc id=\"1\"\nid=\"a>\"><doc </doc>".toList ++ 'é' :: "<docs>".toList) =
      [⟨"a>".toList, 28, 33⟩] :=
  (spans_write [(nearMiss, twoKeys)] nearMiss).1

end BooleanSearch.Corpus
