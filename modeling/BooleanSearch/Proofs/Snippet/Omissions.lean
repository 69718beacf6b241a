import BooleanSearch.Proofs.Snippet.Fidelity
import BooleanSearch.Proofs.Snippet.Words

/-!
This module contains the theorem that tells where an excerpt leaves out tokens without an ellipsis. In
the middle and in front it never does. At its end a trimmed excerpt does exactly if a hit stands close
behind the window, since the tokens behind this hit are too few to be cut off there.
-/

namespace BooleanSearch

namespace Excerpt

/--
An excerpt in which nothing is left out without notice: some runs of tokens, which may be empty, are
replaced by ellipses, and all other tokens are kept.
-/
inductive Abridges : (tokens pieces : List Text) → Prop where
  | nil : Abridges [] []
  | keep {tokens pieces : List Text} (token : Text) (h : Abridges tokens pieces) :
      Abridges (token :: tokens) (token :: pieces)
  | skip {tokens pieces : List Text} (omitted : List Text) (h : Abridges tokens pieces) :
      Abridges (omitted ++ tokens) (ellipsis :: pieces)

namespace Abridges

variable {tokens tokens' pieces pieces' : List Text}

theorem refl (tokens : List Text) : Abridges tokens tokens := by
  induction tokens with
  | nil => exact .nil
  | cons token tokens ih => exact .keep token ih

theorem append (h : Abridges tokens pieces) (h' : Abridges tokens' pieces') :
    Abridges (tokens ++ tokens') (pieces ++ pieces') := by
  induction h with
  | nil => exact h'
  | keep token _ ih => exact .keep token ih
  | skip omitted _ ih =>
    rw [List.append_assoc]
    exact .skip omitted ih

theorem ellipsis (omitted : List Text) : Abridges omitted [Excerpt.ellipsis] := by
  have h := Abridges.skip omitted .nil
  rwa [List.append_nil] at h

theorem cons_ellipsis (token : Text) (h : Abridges tokens (Excerpt.ellipsis :: pieces)) :
    Abridges (token :: tokens) (Excerpt.ellipsis :: pieces) := by
  cases h with
  | keep _ h => exact .skip [token, Excerpt.ellipsis] h
  | skip omitted h => exact .skip (token :: omitted) h

theorem getLast?_eq (h : Abridges tokens pieces) :
    pieces.getLast? = tokens.getLast? ∨ pieces.getLast? = some Excerpt.ellipsis := by
  induction h with
  | nil => exact .inl rfl
  | keep token h ih =>
    rw [List.getLast?_cons, List.getLast?_cons]
    rcases ih with heq | heq
    · exact .inl (by rw [heq])
    · exact .inr (by rw [heq, Option.getD_some])
  | @skip tokens pieces omitted h ih =>
    rw [List.getLast?_cons, List.getLast?_append]
    rcases ih with heq | heq
    · rw [heq]
      cases tokens.getLast? with
      | none => exact .inr rfl
      | some last => exact .inl rfl
    · exact .inr (by rw [heq, Option.getD_some])

end Abridges

variable {parts : List Part} {window : Window} {radius : Nat}

theorem abridges_ite {condition : Bool} {omitted : List Text}
    (h : condition = false → omitted = []) :
    Abridges omitted (if condition then [ellipsis] else []) := by
  cases condition with
  | false =>
    rw [h rfl]
    exact .nil
  | true => exact .ellipsis omitted

section

variable {part : Part} {rest : List Part}

theorem thin_of_hit (budget : Nat) (hhit : part.isHit) :
    thin radius budget (part :: rest) = part.token :: thin radius radius rest := by
  rw [thin.eq_def]
  exact if_pos hhit

theorem thin_zero_of_miss (hmiss : ¬ part.isHit) :
    thin radius 0 (part :: rest) = thin radius 0 rest := by
  rw [thin.eq_def]
  exact if_neg hmiss

theorem thin_one_of_miss (hmiss : ¬ part.isHit) :
    thin radius 1 (part :: rest) = part.token :: ellipsis :: thin radius 0 rest := by
  rw [thin.eq_def]
  exact if_neg hmiss

theorem thin_succ_of_miss (budget : Nat) (hmiss : ¬ part.isHit) :
    thin radius (budget + 2) (part :: rest) = part.token :: thin radius (budget + 1) rest := by
  rw [thin.eq_def]
  exact if_neg hmiss

end

theorem abridges_thin (hradius : 1 ≤ radius) (parts : List Part) :
    (∀ budget, 1 ≤ budget → Abridges (parts.map Part.token) (thin radius budget parts)) ∧
      Abridges (parts.map Part.token) (ellipsis :: thin radius 0 parts) := by
  induction parts with
  | nil => exact ⟨fun _ _ => .nil, .ellipsis []⟩
  | cons part rest ih =>
    obtain ⟨hkept, hcut⟩ := ih
    by_cases hhit : part.isHit
    · have hrest := Abridges.keep part.token (hkept radius hradius)
      refine ⟨fun budget _ => ?_, ?_⟩
      · rwa [thin_of_hit budget hhit]
      · rw [thin_of_hit 0 hhit]
        exact .skip [] hrest
    · refine ⟨fun budget hbudget => ?_, ?_⟩
      · match budget, hbudget with
        | 1, _ =>
          rw [thin_one_of_miss hhit]
          exact .keep part.token hcut
        | budget + 2, _ =>
          rw [thin_succ_of_miss budget hhit]
          exact .keep part.token (hkept (budget + 1) (Nat.le_add_left 1 budget))
      · rw [thin_zero_of_miss hhit]
        exact hcut.cons_ellipsis part.token

theorem thin_append_hit {hit : Part} (hhit : hit.isHit) (front behind : List Part) (budget : Nat) :
    thin radius budget (front ++ hit :: behind) =
      thin radius budget front ++ hit.token :: thin radius radius behind := by
  fun_induction thin radius budget front with
  | case1 budget => exact thin_of_hit budget hhit
  | case2 budget part rest hpart ih => rw [List.cons_append, thin_of_hit budget hpart, ih]; rfl
  | case3 part rest hpart ih => rw [List.cons_append, thin_zero_of_miss hpart, ih]
  | case4 part rest hpart ih => rw [List.cons_append, thin_one_of_miss hpart, ih]; rfl
  | case5 part rest hpart budget ih =>
    rw [List.cons_append, thin_succ_of_miss budget hpart, ih]; rfl

theorem thin_of_forall_miss {behind : List Part} (hmiss : ∀ part ∈ behind, ¬ part.isHit)
    (hne : behind ≠ []) : thin radius behind.length behind = behind.map Part.token ++ [ellipsis] := by
  induction behind with
  | nil => exact absurd rfl hne
  | cons part rest ih =>
    rw [List.forall_mem_cons] at hmiss
    cases rest with
    | nil => exact thin_one_of_miss hmiss.1
    | cons next rest =>
      rw [List.length_cons, List.length_cons, thin_succ_of_miss _ hmiss.1]
      exact congrArg (part.token :: ·) (ih hmiss.2 (List.cons_ne_nil _ _))

theorem thin_of_length_lt {behind : List Part} {budget : Nat} (hlt : behind.length < budget)
    (hle : behind.length ≤ radius) : thin radius budget behind = behind.map Part.token := by
  induction behind generalizing budget with
  | nil => rfl
  | cons part rest ih =>
    rw [List.length_cons] at hlt hle
    by_cases hhit : part.isHit
    · rw [thin_of_hit budget hhit, ih (by omega) (by omega)]
      rfl
    · obtain ⟨budget, rfl⟩ : ∃ fewer, budget = fewer + 2 := ⟨budget - 2, by omega⟩
      rw [thin_succ_of_miss budget hhit, ih (by omega) (by omega)]
      rfl

theorem thin_of_mem_hit {behind : List Part} {budget : Nat} (hhit : ∃ part ∈ behind, part.isHit)
    (hbudget : behind.length ≤ budget) (hle : behind.length ≤ radius) :
    thin radius budget behind = behind.map Part.token := by
  induction behind generalizing budget with
  | nil => rfl
  | cons part rest ih =>
    rw [List.length_cons] at hbudget hle
    by_cases hpart : part.isHit
    · rw [thin_of_hit budget hpart, thin_of_length_lt (by omega) (by omega)]
      rfl
    · have hrest : ∃ part ∈ rest, part.isHit := by
        rwa [List.exists_mem_cons_iff, or_iff_right hpart] at hhit
      have hpos : 0 < rest.length := List.length_pos_of_mem hrest.choose_spec.1
      obtain ⟨budget, rfl⟩ : ∃ fewer, budget = fewer + 2 := ⟨budget - 2, by omega⟩
      rw [thin_succ_of_miss budget hpart, ih hrest (by omega) (by omega)]
      rfl

theorem abridges_lead (parts : List Part) (window : Window) (radius : Nat) :
    Abridges ((parts.take (window.start - radius)).map Part.token)
      (if leads window radius then [ellipsis] else []) := by
  refine abridges_ite fun hleads => ?_
  have hle : ¬ radius < window.start := of_decide_eq_false hleads
  rw [Nat.sub_eq_zero_of_le (Nat.le_of_not_lt hle), List.take_zero, List.map_nil]

theorem take_eq_append_around (hordered : window.start ≤ window.stop) (parts : List Part)
    (radius : Nat) : parts.take (window.stop + radius + 1) =
      parts.take (window.start - radius) ++ around parts window radius := by
  have hfrom : parts.take (window.start - radius) =
      (parts.take (window.stop + radius + 1)).take (window.start - radius) := by
    rw [List.take_take, Nat.min_eq_left (by omega)]
  rw [hfrom, around, List.take_append_drop]

theorem abridges_plain (hordered : window.start ≤ window.stop) (parts : List Part) (radius : Nat) :
    Abridges (parts.map Part.token) (plain parts window radius) := by
  have htrail : Abridges ((parts.drop (window.stop + radius + 1)).map Part.token)
      (if trails window radius parts.length then [ellipsis] else []) := by
    refine abridges_ite fun htrails => ?_
    have hle : ¬ window.stop + radius + 1 < parts.length := of_decide_eq_false htrails
    rw [List.drop_eq_nil_of_le (Nat.le_of_not_lt hle), List.map_nil]
  have hsplit := List.take_append_drop (window.stop + radius + 1) parts
  rw [take_eq_append_around hordered] at hsplit
  conv_lhs => rw [← hsplit]
  rw [List.map_append, List.map_append]
  exact ((abridges_lead parts window radius).append (.refl _)).append htrail

theorem abridges_trimmed_take (hradius : 1 ≤ radius) (hordered : window.start ≤ window.stop)
    (parts : List Part) :
    Abridges ((parts.take (window.stop + radius + 1)).map Part.token)
      (trimmed parts window radius) := by
  rw [take_eq_append_around hordered, List.map_append]
  exact (abridges_lead parts window radius).append ((abridges_thin hradius _).1 radius hradius)

def behind (parts : List Part) (window : Window) (radius : Nat) : List Part :=
  (parts.drop (window.stop + 1)).take radius

/--
The text goes on behind the context of the window, in which there is a hit behind the window.
-/
structure CutShort (parts : List Part) (window : Window) (radius : Nat) : Prop where
  trails : window.stop + radius + 1 < parts.length
  hit : ∃ part ∈ behind parts window radius, part.isHit

theorem take_eq_append_behind {last : Part} (hlast : parts[window.stop]? = some last)
    (radius : Nat) : parts.take (window.stop + radius + 1) =
      parts.take window.stop ++ last :: behind parts window radius := by
  obtain ⟨hlt, rfl⟩ := List.getElem?_eq_some_iff.mp hlast
  have hlength : (parts.take window.stop).length = window.stop := List.length_take_of_le hlt.le
  conv_lhs => rw [← List.take_append_drop window.stop parts, List.drop_eq_getElem_cons hlt]
  rw [List.take_append, List.take_of_length_le (by omega), hlength,
    show window.stop + radius + 1 - window.stop = radius + 1 by omega, List.take_succ_cons]
  rfl

theorem trimmed_eq {last : Part} (hordered : window.start ≤ window.stop)
    (hlast : parts[window.stop]? = some last) (hhit : last.isHit) (radius : Nat) :
    ∃ front, parts.take window.stop = parts.take (window.start - radius) ++ front ∧
      trimmed parts window radius =
        (if leads window radius then [ellipsis] else []) ++
          (thin radius radius front ++ last.token ::
            thin radius radius (behind parts window radius)) := by
  have hlt := (List.getElem?_eq_some_iff.mp hlast).choose
  refine ⟨(parts.take window.stop).drop (window.start - radius), ?_, ?_⟩
  · have hfrom : parts.take (window.start - radius) =
        (parts.take window.stop).take (window.start - radius) := by
      rw [List.take_take, Nat.min_eq_left (by omega)]
    rw [hfrom, List.take_append_drop]
  · have haround : around parts window radius =
        (parts.take window.stop).drop (window.start - radius) ++
          last :: behind parts window radius := by
      rw [around, take_eq_append_behind hlast, List.drop_append_of_le_length]
      rw [List.length_take_of_le hlt.le]
      omega
    rw [trimmed, haround, thin_append_hit hhit]

theorem length_behind (h : window.stop + radius + 1 < parts.length) :
    (behind parts window radius).length = radius := by
  rw [behind, List.length_take_of_le]
  rw [List.length_drop]
  omega

theorem abridges_trimmed {last : Part} (hradius : 1 ≤ radius)
    (hordered : window.start ≤ window.stop) (hlast : parts[window.stop]? = some last)
    (hhit : last.isHit) (hcut : ¬ CutShort parts window radius) :
    Abridges (parts.map Part.token) (trimmed parts window radius) := by
  by_cases htrails : window.stop + radius + 1 < parts.length
  · have hlength := length_behind htrails
    have hmiss : ∀ part ∈ behind parts window radius, ¬ part.isHit :=
      fun part hmem hpart => hcut ⟨htrails, part, hmem, hpart⟩
    have hbehind : thin radius (behind parts window radius).length (behind parts window radius) =
        (behind parts window radius).map Part.token ++ [ellipsis] :=
      thin_of_forall_miss hmiss (List.ne_nil_of_length_pos (by omega))
    rw [hlength] at hbehind
    obtain ⟨front, hfront, htrimmed⟩ := trimmed_eq hordered hlast hhit radius
    have hsplit := List.take_append_drop (window.stop + radius + 1) parts
    rw [take_eq_append_behind hlast, hfront] at hsplit
    rw [htrimmed, hbehind]
    conv_lhs => rw [← hsplit]
    simp only [List.map_append, List.map_cons, List.append_assoc, List.cons_append]
    refine (abridges_lead parts window radius).append
      (((abridges_thin hradius front).1 radius hradius).append (.keep last.token ?_))
    exact (Abridges.refl _).append (.ellipsis _)
  · have htake := abridges_trimmed_take hradius hordered parts
    rwa [List.take_of_length_le (by omega)] at htake

theorem getLast?_trimmed {last : Part} (hordered : window.start ≤ window.stop)
    (hlast : parts[window.stop]? = some last) (hhit : last.isHit)
    (hcut : CutShort parts window radius) :
    (trimmed parts window radius).getLast? = parts[window.stop + radius]?.map Part.token := by
  have hlength := length_behind hcut.trails
  have hbehind : thin radius radius (behind parts window radius) =
      (behind parts window radius).map Part.token :=
    thin_of_mem_hit hcut.hit hlength.le hlength.le
  obtain ⟨front, -, htrimmed⟩ := trimmed_eq hordered hlast hhit radius
  obtain ⟨hit, hmem, -⟩ := hcut.hit
  have hpos := List.length_pos_of_mem hmem
  have hlt : window.stop + radius < parts.length := by
    have htrails := hcut.trails
    omega
  have hend : (behind parts window radius).getLast? = some parts[window.stop + radius] := by
    rw [List.getLast?_eq_getElem?, hlength, behind, List.getElem?_take_of_lt (by omega),
      List.getElem?_drop, show window.stop + 1 + (radius - 1) = window.stop + radius by omega,
      List.getElem?_eq_getElem hlt]
  rw [htrimmed, hbehind, List.getElem?_eq_getElem hlt]
  simp [List.getLast?_append, List.getLast?_cons, List.getLast?_map, hend]

end Excerpt

/--
A snippet that is not the head of the document is a plain or a trimmed excerpt. A plain one leaves out
nothing without an ellipsis, and neither does a trimmed one unless it is cut short. Then everything up
to the end of its context is as it should be, but its last token is not the last one of the text.
-/
theorem omissions_marked_unless_cut_short (config : SnippetConfig) (terms : List Text)
    (normalize : Normalizer) (text : Text) (hfits : config.Fits text)
    (hradius : 1 ≤ config.radiusInit)
    (hfound : (Snippet.ofText config terms normalize text).fallback = false) :
    let scanned := ScannedText.ofText terms normalize text
    let parts := Excerpt.Part.ofTokens terms normalize text.tokens
    Snippet.wordOfText? config terms normalize text =
      some (Snippet.ofText config terms normalize text) ∧
    ∃ window radius pieces,
      Window.shortest? scanned.occurrences scanned.distinct = some window ∧
      config.radiusInit ≤ radius ∧
      pieces.flatten = (Snippet.ofText config terms normalize text).text ∧
      ((pieces = Excerpt.plain parts window radius ∧ Excerpt.Abridges text.tokens pieces) ∨
        (pieces = Excerpt.trimmed parts window radius ∧
          (¬ Excerpt.CutShort parts window radius → Excerpt.Abridges text.tokens pieces) ∧
          (Excerpt.CutShort parts window radius →
            Excerpt.Abridges (text.tokens.take (window.stop + radius + 1)) pieces ∧
            window.stop + radius + 1 < text.tokens.length ∧
            pieces.getLast? = text.tokens[window.stop + radius]?))) := by
  intro scanned parts
  obtain ⟨window, round, pieces, hwindow, hfound, hflatten⟩ := Snippet.exists_foundAt hfound
  obtain ⟨hordered, token, htoken, hform⟩ := ScannedText.stop_of_shortest? hwindow
  have htokens : parts.map Excerpt.Part.token = text.tokens :=
    Excerpt.Part.map_token_ofTokens terms normalize text.tokens
  -- The window ends with a hit, so that its context begins with a full budget.
  have hlast : parts[window.stop]? = some ⟨token, terms.contains (normalize token)⟩ := by
    simp only [parts, Excerpt.Part.ofTokens, List.getElem?_map, htoken, Option.map_some]
  have hhit : terms.contains (normalize token) := List.contains_iff_mem.mpr hform
  have hle : config.radiusInit ≤ Excerpt.roundRadius config config.radiusInit round :=
    Nat.le_add_right _ _
  refine ⟨Snippet.wordOfText?_eq hfits terms normalize, window, _, pieces, hwindow, hle, hflatten, ?_⟩
  rw [← htokens]
  cases hfound with
  | plain => exact .inl ⟨rfl, Excerpt.abridges_plain hordered parts _⟩
  | trimmed =>
    refine .inr ⟨rfl, Excerpt.abridges_trimmed (by omega) hordered hlast hhit, fun hcut => ?_⟩
    refine ⟨?_, ?_, ?_⟩
    · rw [← List.map_take]
      exact Excerpt.abridges_trimmed_take (by omega) hordered parts
    · rw [List.length_map]
      exact hcut.trails
    · rw [List.getElem?_map]
      exact Excerpt.getLast?_trimmed hordered hlast hhit hcut

namespace LoneFox

def text : Text := "a b c fox g h i".toList

def terms : List Text := ["fox".toList]

def config : SnippetConfig := { maxLength := 11 }

theorem both_ends_marked :
    config.Fits text ∧ 1 ≤ config.radiusInit ∧
      Snippet.wordOfText? config terms id text = some ⟨"... fox ...".toList, false⟩ ∧
      ∃ pieces, pieces.flatten = "... fox ...".toList ∧ Excerpt.Abridges text.tokens pieces := by
  have hfits : config.Fits text := by decide +kernel
  have hradius : 1 ≤ config.radiusInit := by decide
  have hsnippet : Snippet.ofText config terms id text = ⟨"... fox ...".toList, false⟩ := by
    decide +kernel
  obtain ⟨hwords, window, radius, pieces, hwindow, -, hflatten, hcases⟩ :=
    omissions_marked_unless_cut_short config terms id text hfits hradius (by rw [hsnippet])
  rw [hsnippet] at hwords hflatten
  refine ⟨hfits, hradius, hwords, pieces, hflatten, ?_⟩
  obtain ⟨-, habridges⟩ | ⟨-, habridges, -⟩ := hcases
  · exact habridges
  · apply habridges
    rintro ⟨-, part, hmem, hhit⟩
    have hshortest : Window.shortest? (ScannedText.ofText terms id text).occurrences
        (ScannedText.ofText terms id text).distinct = some ⟨6, 6⟩ := by
      decide +kernel
    rw [hshortest, Option.some.injEq] at hwindow
    subst hwindow
    have hmiss : ∀ part ∈ (Excerpt.Part.ofTokens terms id text.tokens).drop 7, ¬ part.isHit := by
      decide +kernel
    exact hmiss part (List.mem_of_mem_take hmem) hhit

end LoneFox

namespace RepeatedOwl

def text : Text := "fox a b c d e f owl owl x y z w".toList

def terms : List Text := ["fox".toList, "owl".toList]

def config : SnippetConfig := { maxLength := 26 }

theorem end_not_marked :
    1 ≤ config.radiusInit ∧
      Snippet.ofText config terms id text = ⟨"fox a b c...owl owl x y".toList, false⟩ ∧
      ¬ ∃ pieces : List Text, pieces.flatten = "fox a b c...owl owl x y".toList ∧
        Excerpt.Abridges text.tokens pieces := by
  refine ⟨by decide, by decide +kernel, ?_⟩
  rintro ⟨pieces, hflatten, habridges⟩
  have htokens : text.tokens.getLast? = some ['w'] := by
    decide +kernel
  -- An excerpt with marked omissions ends with the last token of the text or with an ellipsis.
  have hlast := habridges.getLast?_eq
  rw [htokens] at hlast
  rcases hlast with hlast | hlast
  all_goals
    obtain ⟨front, rfl⟩ := List.getLast?_eq_some_iff.mp hlast
    have hend := congrArg List.getLast? hflatten
    simp [Excerpt.ellipsis] at hend

end RepeatedOwl

end BooleanSearch
