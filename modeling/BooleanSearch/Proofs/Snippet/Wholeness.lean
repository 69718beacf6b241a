import Mathlib.Data.List.Flatten
import BooleanSearch.Proofs.Snippet.Fidelity
import BooleanSearch.Proofs.Snippet.Words

/-!
This module contains the theorem that tells which texts are shown in full. A text that is not too long
for a snippet should be, but the trimmed excerpt of a round is as long as the text as soon as its
ellipses make up for the tokens that it leaves out, and then no wider radius is tried.
-/

namespace BooleanSearch

namespace Excerpt

variable {config : SnippetConfig} {parts : List Part} {window : Window} {size radius : Nat}
variable {pieces : List Text}

def reach (parts : List Part) (window : Window) : Nat :=
  max window.start (parts.length - (window.stop + 1))

/--
A round that leaves something out has a trimmed excerpt of at least the given size.
-/
def EndsEarly (config : SnippetConfig) (parts : List Part) (window : Window) (size : Nat) : Prop :=
  ∃ round, roundRadius config config.radiusInit round < reach parts window ∧
    size ≤ length (trimmed parts window (roundRadius config config.radiusInit round))

theorem plain_of_reach_le (h : reach parts window ≤ radius) :
    plain parts window radius = parts.map Part.token := by
  unfold reach at h
  have hleads : leads window radius = false := decide_eq_false (by omega)
  have htrails : trails window radius parts.length = false := decide_eq_false (by omega)
  have haround : around parts window radius = parts := by
    unfold around
    rw [List.take_of_length_le (by omega), Nat.sub_eq_zero_of_le (by omega), List.drop_zero]
  simp [plain, hleads, htrails, haround]

theorem best_of_not_early {previous : Option (List Text)} (hstart : window.start ≤ parts.length)
    (hsize : length (parts.map Part.token) = size) (hlength : size ≤ config.maxLength)
    (h : ∀ round, roundRadius config radius round < reach parts window →
      length (trimmed parts window (roundRadius config radius round)) < size) :
    best config parts window size radius previous = some (parts.map Part.token) := by
  fun_induction best config parts window size radius previous with
  | case1 radius previous plain trimmed found hlast =>
    have hreach : reach parts window ≤ radius := by
      by_contra hlt
      have htrimmed : length trimmed < size := by
        have hround := h 0
        rw [roundRadius_zero] at hround
        exact hround (Nat.lt_of_not_le hlt)
      have hreach : reach parts window ≤ parts.length := by
        unfold reach
        omega
      rw [Nat.min_eq_right hlength] at hlast
      omega
    rw [← hsize] at hlength
    simp only [found, plain, plain_of_reach_le hreach, dif_pos hlength]
  | case2 radius previous plain trimmed found hmore ih =>
    refine ih fun round => ?_
    rw [← roundRadius_succ]
    exact h (round + 1)

/--
An excerpt that cannot be the whole text, unless there is an ellipsis in the text.
-/
def Lacks (parts : List Part) (pieces : List Text) : Prop :=
  ellipsis ∈ pieces ∨ length pieces < length (parts.map Part.token)

theorem lacks_plain (h : radius < reach parts window) :
    Lacks parts (plain parts window radius) := by
  unfold reach at h
  refine .inl ?_
  unfold plain
  by_cases hleads : radius < window.start
  · simp [leads, hleads]
  · have htrails : window.stop + radius + 1 < parts.length := by omega
    simp [trails, htrails]

theorem trimmed_sublist (parts : List Part) (window : Window) (radius : Nat) :
    ((trimmed parts window radius).filter (· ≠ ellipsis)).Sublist
      ((parts.take (window.stop + radius + 1)).map Part.token) := by
  simp only [trimmed, List.filter_append, filter_ellipsis_ite, List.nil_append]
  exact (thin_sublist radius radius _).trans ((List.drop_sublist _ _).map Part.token)

theorem length_take_lt (hparts : ∀ part ∈ parts, part.token ≠ []) {count : Nat}
    (hcount : count < parts.length) :
    length ((parts.take count).map Part.token) < length (parts.map Part.token) := by
  have hsplit := List.take_append_drop count parts
  have hmem := List.getElem_mem hcount
  have hpos := List.length_pos_of_ne_nil (hparts _ hmem)
  conv_rhs => rw [← hsplit, List.drop_eq_getElem_cons hcount]
  simp only [length, List.map_append, List.map_cons, List.flatten_append, List.flatten_cons,
    List.length_append]
  omega

theorem lacks_trimmed (hparts : ∀ part ∈ parts, part.token ≠ []) (h : radius < reach parts window) :
    Lacks parts (trimmed parts window radius) := by
  by_cases hellipsis : ellipsis ∈ trimmed parts window radius
  · exact .inl hellipsis
  · have hleads : ¬ radius < window.start := by
      intro hlt
      apply hellipsis
      simp [trimmed, leads, hlt]
    unfold reach at h
    have hkept : (trimmed parts window radius).filter (· ≠ ellipsis) =
        trimmed parts window radius := by
      rw [List.filter_eq_self]
      intro piece hmem
      exact decide_eq_true fun heq => hellipsis (heq ▸ hmem)
    have hsublist := trimmed_sublist parts window radius
    rw [hkept] at hsublist
    exact .inr (Nat.lt_of_le_of_lt hsublist.flatten.length_le (length_take_lt hparts (by omega)))

theorem lacks_of_endsEarly (hparts : ∀ part ∈ parts, part.token ≠ [])
    (hearly : EndsEarly config parts window size)
    (h : best config parts window size config.radiusInit none = some pieces) :
    Lacks parts pieces := by
  obtain ⟨last, hreach, hsize⟩ := hearly
  rcases exists_round_of_best h with hnone | ⟨round, hfound, hearlier⟩
  · cases hnone
  · have hle : round ≤ last := by
      by_contra hlt
      have hshort := hearlier last (Nat.lt_of_not_le hlt)
      omega
    have hradius := Nat.lt_of_le_of_lt (roundRadius_le hle) hreach
    cases hfound with
    | plain => exact lacks_plain hradius
    | trimmed => exact lacks_trimmed hparts hradius

end Excerpt

/--
A text that is not too long and has a word of the query is shown in full if no round ends early. If one
does, what is shown differs from the text, or there are ellipses in the text itself.
-/
theorem whole_text_iff_not_early (config : SnippetConfig) (terms : List Text)
    (normalize : Normalizer) (text : Text) (hfits : config.Fits text)
    (hlength : text.length ≤ config.maxLength)
    (hhit : ∃ word ∈ text.tokens, word.isWord ∧ normalize word ∈ terms) :
    let scanned := ScannedText.ofText terms normalize text
    let parts := Excerpt.Part.ofTokens terms normalize text.tokens
    Snippet.wordOfText? config terms normalize text =
      some (Snippet.ofText config terms normalize text) ∧
    ∃ window, Window.shortest? scanned.occurrences scanned.distinct = some window ∧
      (¬ Excerpt.EndsEarly config parts window text.length →
        Snippet.ofText config terms normalize text = ⟨text, false⟩) ∧
      (Snippet.ofText config terms normalize text = ⟨text, false⟩ →
        ¬ Excerpt.EndsEarly config parts window text.length ∨ Excerpt.ellipsis <:+: text) := by
  intro scanned parts
  obtain ⟨window, hwindow⟩ := ScannedText.exists_window hhit
  refine ⟨Snippet.wordOfText?_eq hfits terms normalize, window, hwindow, ?_⟩
  have htokens : parts.map Excerpt.Part.token = text.tokens :=
    Excerpt.Part.map_token_ofTokens terms normalize text.tokens
  have hsize : Excerpt.length (parts.map Excerpt.Part.token) = text.length := by
    rw [htokens, Excerpt.length, Text.flatten_tokens]
  rw [Snippet.ofText_eq, hwindow, Option.bind_some]
  constructor
  · intro hearly
    obtain ⟨hordered, token, htoken, -⟩ := ScannedText.stop_of_shortest? hwindow
    have hstart : window.start ≤ parts.length := by
      have hlt := (List.getElem?_eq_some_iff.mp htoken).choose
      rw [← htokens, List.length_map] at hlt
      omega
    have hbest : Excerpt.best config parts window text.length config.radiusInit none =
        some (parts.map Excerpt.Part.token) :=
      Excerpt.best_of_not_early hstart hsize hlength fun round hreach =>
        Nat.lt_of_not_le fun hle => hearly ⟨round, hreach, hle⟩
    rw [hbest, htokens]
    simp
  · intro hwhole
    by_cases hearly : Excerpt.EndsEarly config parts window text.length
    · right
      split at hwhole
      next pieces hbest =>
        obtain ⟨hflatten, -⟩ := Snippet.mk.inj hwhole
        have hparts : ∀ part ∈ parts, part.token ≠ [] := by
          intro part hmem hnil
          have htoken := List.mem_map_of_mem (f := Excerpt.Part.token) hmem
          rw [htokens, hnil] at htoken
          exact List.nil_notMem_splitBy _ text htoken
        -- An excerpt from an early round has an ellipsis in it, or it is shorter than the text.
        rcases Excerpt.lacks_of_endsEarly hparts hearly hbest with hellipsis | hshort
        · rw [← hflatten]
          exact List.infix_of_mem_flatten hellipsis
        · rw [hsize, Excerpt.length, hflatten] at hshort
          exact absurd hshort (Nat.lt_irrefl _)
      next => cases (Snippet.mk.inj hwhole).2
    · exact .inl hearly

namespace QuickFox

def text : Text := "The quick brown fox.".toList

def terms : List Text := ["fox".toList]

theorem shown_in_full :
    ({} : SnippetConfig).Fits text ∧
      text.length ≤ ({} : SnippetConfig).maxLength ∧
      (∃ word ∈ text.tokens, word.isWord ∧ id word ∈ terms) ∧
      Snippet.wordOfText? {} terms id text = some ⟨text, false⟩ := by
  have hfits : ({} : SnippetConfig).Fits text := by decide +kernel
  have hlength : text.length ≤ ({} : SnippetConfig).maxLength := by decide
  have hhit : ∃ word ∈ text.tokens, word.isWord ∧ id word ∈ terms := by decide +kernel
  obtain ⟨hwords, window, hwindow, hwhole, -⟩ :=
    whole_text_iff_not_early {} terms id text hfits hlength hhit
  have hshortest : Window.shortest? (ScannedText.ofText terms id text).occurrences
      (ScannedText.ofText terms id text).distinct = some ⟨6, 6⟩ := by
    decide +kernel
  rw [hshortest, Option.some.injEq] at hwindow
  subst hwindow
  refine ⟨hfits, hlength, hhit, hwords.trans (congrArg some (hwhole ?_))⟩
  rintro ⟨round, hreach, hsize⟩
  have hround : round = 0 := by
    have hlt : 1 + round * 5 < 6 := hreach
    omega
  subst hround
  revert hsize
  decide +kernel

theorem article_is_left_out :
    let text := "the fox".toList
    text.length ≤ ({} : SnippetConfig).maxLength ∧
      (∃ word ∈ Text.tokens text, word.isWord ∧ id word ∈ terms) ∧
      Snippet.ofText {} terms id text = ⟨"... fox".toList, false⟩ := by
  decide +kernel

end QuickFox

end BooleanSearch
