import BooleanSearch.Proofs.Snippet.Covering
import BooleanSearch.Proofs.Snippet.Rounds
import BooleanSearch.Proofs.Snippet.Scanning
import BooleanSearch.Snippet.Basic

/-!
This module contains the theorem that an excerpt is true to its text: it consists of tokens of the
text in their order and of ellipses, and it shows every normal form that was asked for and found.
-/

namespace BooleanSearch

namespace Excerpt

variable {parts : List Part} {window : Window} {pieces : List Text}

structure Faithful (parts : List Part) (window : Window) (pieces : List Text) : Prop where
  /-- Everything but the ellipses comes from the text, in its order. -/
  sublist : (pieces.filter (· ≠ ellipsis)).Sublist (parts.map Part.token)
  /-- No hit in the window is left out. -/
  keeps : ∀ (position : Nat) (part : Part), parts[position]? = some part → part.isHit →
    window.start ≤ position → position ≤ window.stop → part.token ∈ pieces

theorem around_sublist (parts : List Part) (window : Window) (radius : Nat) :
    (around parts window radius).Sublist parts :=
  (List.drop_sublist _ _).trans (List.take_sublist _ _)

theorem mem_around {position : Nat} {part : Part} (radius : Nat)
    (hpart : parts[position]? = some part) (hstart : window.start ≤ position)
    (hstop : position ≤ window.stop) : part ∈ around parts window radius := by
  rw [List.mem_iff_getElem?]
  refine ⟨position - (window.start - radius), ?_⟩
  rw [around, List.getElem?_drop, List.getElem?_take_of_lt (by omega),
    Nat.add_sub_cancel' (by omega), hpart]

@[simp]
theorem filter_ellipsis_ite (condition : Bool) :
    (if condition then [ellipsis] else []).filter (· ≠ ellipsis) = [] := by
  cases condition <;> simp

theorem filter_cons_sublist {token : Text} {tokens : List Text}
    (h : (pieces.filter (· ≠ ellipsis)).Sublist tokens) :
    ((token :: pieces).filter (· ≠ ellipsis)).Sublist (token :: tokens) := by
  rw [List.filter_cons]
  split
  next => exact h.cons_cons token
  next => exact h.cons token

theorem thin_sublist (radius budget : Nat) (parts : List Part) :
    ((thin radius budget parts).filter (· ≠ ellipsis)).Sublist (parts.map Part.token) := by
  fun_induction thin radius budget parts with
  | case1 => simp
  | case2 budget part rest hhit ih => exact filter_cons_sublist ih
  | case3 part rest hmiss ih => exact ih.cons part.token
  | case4 part rest hmiss ih => exact filter_cons_sublist (by simpa using ih)
  | case5 part rest hmiss budget ih => exact filter_cons_sublist ih

theorem mem_thin {radius budget : Nat} {part : Part} (hmem : part ∈ parts) (hhit : part.isHit) :
    part.token ∈ thin radius budget parts := by
  have hbehind {first : Part} {rest : List Part} (hmiss : ¬ first.isHit)
      (hmem : part ∈ first :: rest) : part ∈ rest := by
    cases hmem with
    | head => exact absurd hhit hmiss
    | tail _ hmem => exact hmem
  fun_induction thin radius budget parts with
  | case1 => cases hmem
  | case2 budget first rest hfirst ih =>
    cases hmem with
    | head => exact List.mem_cons_self
    | tail _ hmem => exact List.mem_cons_of_mem _ (ih hmem)
  | case3 first rest hmiss ih => exact ih (hbehind hmiss hmem)
  | case4 first rest hmiss ih =>
    exact List.mem_cons_of_mem _ (List.mem_cons_of_mem _ (ih (hbehind hmiss hmem)))
  | case5 first rest hmiss budget ih => exact List.mem_cons_of_mem _ (ih (hbehind hmiss hmem))

theorem plain_faithful (parts : List Part) (window : Window) (radius : Nat) :
    Faithful parts window (plain parts window radius) where
  sublist := by
    simp only [plain, List.filter_append, filter_ellipsis_ite, List.nil_append, List.append_nil]
    exact List.filter_sublist.trans ((around_sublist parts window radius).map Part.token)
  keeps position part hpart _ hstart hstop := by
    have hmem := mem_around radius hpart hstart hstop
    simp only [plain, List.mem_append]
    exact .inl (.inr (List.mem_map_of_mem hmem))

theorem trimmed_faithful (parts : List Part) (window : Window) (radius : Nat) :
    Faithful parts window (trimmed parts window radius) where
  sublist := by
    simp only [trimmed, List.filter_append, filter_ellipsis_ite, List.nil_append]
    exact (thin_sublist radius radius _).trans
      ((around_sublist parts window radius).map Part.token)
  keeps position part hpart hhit hstart hstop := by
    have hmem := mem_around radius hpart hstart hstop
    simp only [trimmed, List.mem_append]
    exact .inr (mem_thin hmem hhit)

variable {config : SnippetConfig} {size radius : Nat} {previous : Option (List Text)}

def Acceptable (config : SnippetConfig) (parts : List Part) (window : Window)
    (pieces : List Text) : Prop :=
  Faithful parts window pieces ∧ length pieces ≤ config.maxLength

theorem acceptable_of_best
    (hprevious : ∀ pieces, previous = some pieces → Acceptable config parts window pieces)
    (h : best config parts window size radius previous = some pieces) :
    Acceptable config parts window pieces := by
  rcases exists_round_of_best h with hnone | ⟨round, hfound, -⟩
  · exact hprevious pieces hnone
  · cases hfound with
    | plain hlength => exact ⟨plain_faithful parts window _, hlength⟩
    | trimmed hlength => exact ⟨trimmed_faithful parts window _, hlength⟩

theorem exists_pieces_of_ofScanned? {terms : List Text} {normalize : Normalizer}
    {scanned : ScannedText} {excerpt : Text}
    (h : ofScanned? config terms normalize scanned window = some excerpt) :
    ∃ pieces : List Text, pieces.flatten = excerpt ∧ excerpt.length ≤ config.maxLength ∧
      (pieces.filter (· ≠ ellipsis)).Sublist scanned.tokens ∧
      ∀ (position : Nat) (token : Text), scanned.tokens[position]? = some token →
        normalize token ∈ terms → window.start ≤ position → position ≤ window.stop →
          token ∈ pieces := by
  simp only [ofScanned?, Option.map_eq_some_iff] at h
  obtain ⟨pieces, hbest, rfl⟩ := h
  obtain ⟨hfaithful, hlength⟩ := acceptable_of_best (by simp) hbest
  refine ⟨pieces, rfl, hlength, ?_, fun position token htoken hform hstart hstop => ?_⟩
  · simpa [Function.comp_def] using hfaithful.sublist
  · exact hfaithful.keeps position ⟨token, terms.contains (normalize token)⟩ (by simp [htoken])
      (by simpa using hform) hstart hstop

end Excerpt

/--
A snippet that is not the head of the document is short enough and consists of tokens of the
document in their order, with ellipses between them. It shows every word of the query that the
document has.
-/
theorem snippet_true_to_text (config : SnippetConfig) (terms : List Text) (normalize : Normalizer)
    (text : Text) (hfound : (Snippet.ofText config terms normalize text).fallback = false) :
    ∃ pieces : List Text, pieces.flatten = (Snippet.ofText config terms normalize text).text ∧
      (Snippet.ofText config terms normalize text).text.length ≤ config.maxLength ∧
      (pieces.filter (· ≠ Excerpt.ellipsis)).Sublist text.tokens ∧
      ∀ term ∈ terms, (∃ word ∈ text.tokens, word.isWord ∧ normalize word = term) →
        ∃ word ∈ pieces, word.isWord ∧ normalize word = term := by
  unfold Snippet.ofText at hfound ⊢
  dsimp only at hfound ⊢
  split at hfound
  next excerpt hexcerpt =>
    obtain ⟨window, hwindow, hexcerpt⟩ := Option.bind_eq_some_iff.mp hexcerpt
    obtain ⟨pieces, hflatten, hlength, hsublist, hkeeps⟩ :=
      Excerpt.exists_pieces_of_ofScanned? hexcerpt
    refine ⟨pieces, hflatten, hlength, hsublist, ?_⟩
    rintro term hterm ⟨word, hmem, hword, rfl⟩
    obtain ⟨rank, hrank, hsame⟩ := ScannedText.exists_rank hmem hword hterm
    have hordered := (ScannedText.pairwise_occurrences terms normalize text).imp Nat.le_of_lt
    obtain ⟨occurrence, hoccurrence, heq, hstart, hstop⟩ := Window.shows_of_shortest? hordered
      (fun occurrence hmem => ScannedText.rank_mem_range' hmem) hrank hwindow
    obtain ⟨token, htoken, hisWord, hform⟩ := hsame occurrence hoccurrence heq
    have hkept := hkeeps occurrence.position token htoken (hform ▸ hterm) hstart hstop
    exact ⟨token, hkept, hisWord, hform⟩
  next => cases hfound

namespace LongSentence

def text : Text := "search engines index every document of a collection".toList

def terms : List Text := ["search".toList, "collection".toList]

def config : SnippetConfig := { maxLength := 20 }

theorem both_ends_shown :
    Snippet.ofText config terms id text = ⟨"search ...collection".toList, false⟩ ∧
      ∃ pieces : List Text, pieces.flatten = "search ...collection".toList ∧
        (pieces.filter (· ≠ Excerpt.ellipsis)).Sublist text.tokens ∧
        ∀ term ∈ terms, ∃ word ∈ pieces, word.isWord ∧ id word = term := by
  have hsnippet :
      Snippet.ofText config terms id text = ⟨"search ...collection".toList, false⟩ := by
    decide +kernel
  have hterms : ∀ term ∈ terms, ∃ word ∈ text.tokens, word.isWord ∧ id word = term := by
    decide +kernel
  obtain ⟨pieces, hflatten, -, hsublist, hshown⟩ :=
    snippet_true_to_text config terms id text (by rw [hsnippet])
  rw [hsnippet] at hflatten
  exact ⟨hsnippet, pieces, hflatten, hsublist,
    fun term hterm => hshown term hterm (hterms term hterm)⟩

end LongSentence

end BooleanSearch
