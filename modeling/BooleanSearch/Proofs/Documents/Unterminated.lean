import BooleanSearch.Proofs.Documents.Writing

/-!
This module contains the theorem on corpus files in which the closing tag of a document is missing. The
search for it goes on through all the rest of the file. Hence the document is only passed over if no
closing tag follows at all, or one follows at once; otherwise it is listed with a body that reaches up to
the next closing tag, and the document which that belongs to is lost.
-/

namespace BooleanSearch.Corpus

/--
A corpus file in which the closing tag of a listed document is missing.
-/
structure Unterminated where
  before : List (Filler × Document)
  filler : Filler
  damaged : Document
  key : Text
  after : List (Filler × Document)
  last : Filler
  key?_damaged : damaged.key? = some key
  body_ne_nil : damaged.body ≠ []

namespace Unterminated

variable (file : Unterminated)

def front : Text := write file.before file.filler ++ file.damaged.opening

def rest : Text := file.damaged.body ++ write file.after file.last

def text : Text := file.front ++ file.rest

def others : List Span :=
  places [] file.before ++ places (file.front ++ file.damaged.body) file.after

/--
The body of the document and everything behind it up to the end of the next body.
-/
def joined (filler : Filler) (document : Document) : Text :=
  file.damaged.body ++ (filler.text ++ (document.opening ++ document.body))

theorem rest_eq {filler : Filler} {document : Document} {later : List (Filler × Document)}
    (h : file.after = (filler, document) :: later) :
    file.rest = file.joined filler document ++ (closeMark ++ write later file.last) := by
  simp only [rest, joined, h, write, List.flatMap_cons, Document.text, List.append_assoc]

theorem spans_text :
    spans file.text = places [] file.before ++
      match Text.cutAt? closeMark file.rest with
      | none => []
      | some (body, behind) =>
        let spans := spansFrom (Utf8.byteLength (file.front ++ body ++ closeMark)) behind
        if body.isEmpty then
          spans
        else
          ⟨file.key, Utf8.byteLength file.front, Utf8.byteLength (file.front ++ body)⟩ :: spans := by
  have hopening : ∀ c ∈ (file.damaged.opening ++ file.rest).head?, c = '<' := by
    simp [Document.opening, openMark]
  have hfound := spansFrom_write_append file.before file.filler hopening []
  rw [List.nil_append, spansFrom_opening, file.key?_damaged] at hfound
  rw [spans, text, front, List.append_assoc]
  exact hfound

theorem exists_filler_of_closed {body tail behind : Text} {filler : Filler} (hbody : body ≠ [])
    (hfree : ¬ closeMark <:+: body) (htail : ∀ c ∈ tail.head?, c = '<')
    (h : body ++ (filler.text ++ tail) = closeMark ++ behind) :
    ∃ left : Filler, body ++ filler.text = closeMark ++ left.text ∧ behind = left.text ++ tail := by
  -- A closing tag that begins in a body and ends behind it ends in the text between this
  -- document and the next one.
  obtain ⟨begun, hmark, hbegun⟩ : ∃ begun, closeMark = body ++ begun ∧
      filler.text ++ tail = begun ++ behind := by
    rcases List.append_eq_append_iff.mp h with ⟨begun, hmark, hbegun⟩ | ⟨left, hleft, -⟩
    · exact ⟨begun, hmark, hbegun⟩
    · exact absurd (hleft ▸ List.prefix_append closeMark left).isInfix hfree
  rcases List.append_eq_append_iff.mp hbegun with ⟨extra, hextra, hrest⟩ | ⟨left, hleft, hrest⟩
  · cases extra with
    | nil =>
      refine ⟨.nothing, ?_, hrest.symm⟩
      rw [hmark, hextra, List.append_nil]
      exact (List.append_nil _).symm
    | cons c extra =>
      -- The text behind begins with the first character of the mark, which does not stand in it again.
      obtain rfl := htail c (by simp [hrest])
      obtain ⟨first, body, rfl⟩ := List.exists_cons_of_ne_nil hbody
      rw [hextra, List.cons_append] at hmark
      have hmem : '<' ∈ "/doc>".toList := by
        rw [show "/doc>".toList = closeMark.tail from rfl, hmark]
        simp
      exact absurd hmem not_mem_closeMark
  · have hwithin : ∀ c, Text.isAsciiSpace c = true → ¬ (openMark ++ [c]) <:+: left := by
      intro c hspace hinfix
      apply filler.not_infix_text c hspace
      rw [hleft]
      exact hinfix.trans (List.suffix_append begun left).isInfix
    refine ⟨⟨left, hwithin⟩, ?_, hrest⟩
    rw [hleft, hmark, List.append_assoc]

theorem lt_start_of_mem_places {pieces : List (Filler × Document)} {front : Text} {span : Span}
    (h : span ∈ places front pieces) : Utf8.byteLength front < span.body.start := by
  induction pieces generalizing front with
  | nil => cases h
  | cons piece pieces ih =>
    obtain ⟨filler, document⟩ := piece
    rcases List.mem_append.mp h with hspan | hspan
    · rw [Option.mem_toList, Document.span?] at hspan
      split at hspan
      next =>
        split at hspan
        next => cases hspan
        next =>
          cases hspan
          simp only [Utf8.byteLength_append, byteLength_opening]
          omega
      next => cases hspan
    · have hlt := ih hspan
      simp only [Utf8.byteLength_append] at hlt
      omega

theorem spansFrom_closed {body behind : Text} (hbody : body ≠ []) (hfree : ¬ closeMark <:+: body)
    (after : List (Filler × Document)) (last : Filler)
    (h : body ++ write after last = closeMark ++ behind) (front : Text) :
    spansFrom (Utf8.byteLength (front ++ closeMark)) behind = places (front ++ body) after := by
  cases after with
  | nil =>
    rw [write, List.flatMap_nil, List.nil_append, ← List.append_nil last.text] at h
    obtain ⟨left, -, rfl⟩ := exists_filler_of_closed hbody hfree (by simp) h
    rw [List.append_nil]
    exact spansFrom_write [] left (front ++ closeMark)
  | cons piece after =>
    obtain ⟨filler, document⟩ := piece
    have hwrite (filler : Filler) : write ((filler, document) :: after) last =
        filler.text ++ (document.text ++ write after last) := by
      simp only [write, List.flatMap_cons, List.append_assoc]
    have htail : ∀ c ∈ (document.text ++ write after last).head?, c = '<' := by
      simp [Document.text, Document.opening, openMark]
    rw [hwrite] at h
    obtain ⟨left, hleft, rfl⟩ := exists_filler_of_closed hbody hfree htail h
    rw [← hwrite, spansFrom_write, places, places, List.append_assoc front, ← hleft,
      ← List.append_assoc]

theorem spans_of_unclosed (h : ¬ closeMark <:+: file.rest) : spans file.text = file.others := by
  have hlast : file.after = [] := by
    cases hafter : file.after with
    | nil => rfl
    | cons piece later =>
      obtain ⟨filler, document⟩ := piece
      rw [file.rest_eq hafter, ← List.append_assoc] at h
      exact absurd (List.infix_append ..) h
  rw [spans_text, Text.cutAt?_eq_none h, others, hlast, places]

theorem spans_of_closed_at_once (h : closeMark <+: file.rest) : spans file.text = file.others := by
  obtain ⟨behind, hbehind⟩ := h
  have hcut := Text.cutAt?_mark (show closeMark ≠ [] by decide) behind
  have hfound := spansFrom_closed file.body_ne_nil file.damaged.not_infix_body _ _ hbehind.symm
    file.front
  rw [spans_text, ← hbehind, hcut, others, ← hfound]
  simp only [List.isEmpty_nil, if_true, List.append_nil]

theorem spans_of_closed {body behind : Text} (hbody : body ≠ []) (hfree : ¬ closeMark <:+: body)
    (hrest : file.rest = body ++ (closeMark ++ behind)) :
    spans file.text = places [] file.before ++
      ⟨file.key, Utf8.byteLength file.front, Utf8.byteLength (file.front ++ body)⟩ ::
        spansFrom (Utf8.byteLength (file.front ++ body ++ closeMark)) behind := by
  rw [spans_text, hrest, cutAt?_closeMark hfree]
  simp only [List.isEmpty_iff, hbody, if_false]

theorem spans_ne_others {body behind : Text} (hbody : body ≠ []) (hfree : ¬ closeMark <:+: body)
    (hrest : file.rest = body ++ (closeMark ++ behind)) : spans file.text ≠ file.others := by
  intro hothers
  have hspans := file.spans_of_closed hbody hfree hrest
  -- The span of the document would be that of one behind it.
  rw [hothers, others, List.append_cancel_left_eq] at hspans
  have hlt := lt_start_of_mem_places (hspans ▸ List.mem_cons_self)
  rw [Utf8.byteLength_append] at hlt
  dsimp only at hlt
  omega

/--
The document is passed over and all others are listed exactly if no closing tag follows in the file, or
one follows at once. Otherwise it is listed with everything up to the next closing tag. When that is the
one of the next document, that document is lost: its body is listed under the key of the other one.
-/
theorem others_found_iff :
    (spans file.text = file.others ↔ ¬ closeMark <:+: file.rest ∨ closeMark <+: file.rest) ∧
    (∀ body behind, body ≠ [] → ¬ closeMark <:+: body →
      file.rest = body ++ (closeMark ++ behind) →
        spans file.text = places [] file.before ++
          ⟨file.key, Utf8.byteLength file.front, Utf8.byteLength (file.front ++ body)⟩ ::
            spansFrom (Utf8.byteLength (file.front ++ body ++ closeMark)) behind) ∧
    ∀ filler document later, file.after = (filler, document) :: later →
      ¬ closeMark <:+: file.joined filler document →
        spans file.text = places [] file.before ++
          ⟨file.key, Utf8.byteLength file.front,
            Utf8.byteLength (file.front ++ file.joined filler document)⟩ ::
              places (file.front ++ file.joined filler document ++ closeMark) later := by
  refine ⟨⟨?_, ?_⟩, fun _ _ => file.spans_of_closed, ?_⟩
  · intro hothers
    cases hcut : Text.cutAt? closeMark file.rest with
    | none =>
      left
      exact Text.not_infix_of_cutAt?_eq_none hcut
    | some cut =>
      obtain ⟨body, behind⟩ := cut
      have hfree := Text.not_infix_of_cutAt? (by decide) hcut
      have hrest := Text.eq_append_of_cutAt? hcut
      rw [List.append_assoc] at hrest
      -- An empty body is not listed, so that a closing tag at once does no harm.
      by_cases hbody : body = []
      · right
        rw [hrest, hbody]
        apply List.prefix_append
      · exact absurd hothers (file.spans_ne_others hbody hfree hrest)
  · rintro (hunclosed | hclosed)
    · exact file.spans_of_unclosed hunclosed
    · exact file.spans_of_closed_at_once hclosed
  · intro filler document later hafter hfree
    have hbody : file.joined filler document ≠ [] :=
      List.append_ne_nil_of_left_ne_nil file.body_ne_nil _
    rw [file.spans_of_closed hbody hfree (file.rest_eq hafter), spansFrom_write]

end Unterminated

namespace LostNeighbour

theorem isAsciiSpace_blank : Text.isAsciiSpace ' ' = true := by decide

def document (key body : Text) (hkey : '"' ∉ key) (hbody : ¬ closeMark <:+: body) : Document where
  attributes := [.ofKey ' ' key isAsciiSpace_blank hkey]
  body := body
  attributes_ne_nil := List.cons_ne_nil _ _
  not_infix_body := hbody

def file : Unterminated where
  before := []
  filler := .nothing
  damaged := document ['1'] ['a'] (by decide) (by decide)
  key := ['1']
  after := [(.nothing, document ['2'] ['b'] (by decide) (by decide))]
  last := .nothing
  key?_damaged := by decide
  body_ne_nil := by decide

theorem second_document_lost :
    spans "<doc id=\"1\">a<doc id=\"2\">b</doc>".toList = [⟨['1'], 12, 26⟩] ∧
      file.text = "<doc id=\"1\">a<doc id=\"2\">b</doc>".toList ∧
      file.others = [⟨['2'], 25, 26⟩] := by
  have htext : file.text = "<doc id=\"1\">a<doc id=\"2\">b</doc>".toList := by decide
  refine ⟨?_, htext, by decide⟩
  have hrest := file.rest_eq rfl
  have hspans := file.spans_of_closed (by decide) (by decide) hrest
  rw [← htext, hspans, spansFrom_write]
  decide

end LostNeighbour

end BooleanSearch.Corpus
