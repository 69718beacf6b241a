import Mathlib.Algebra.GroupWithZero.Nat
import BooleanSearch.Proofs.Snippet.Location
import BooleanSearch.Proofs.Snippet.Rounds

/-!
This module contains the search for an excerpt on machine words. The end of an excerpt and the radius of
the next round are sums that may be too large for a word. None of them is if the radii of a configuration
and the tokens of a text are few enough, and then the excerpt is the same.
-/

namespace BooleanSearch

namespace Excerpt

variable {config : SnippetConfig} {parts : List Part} {window : Window} {size radius : Nat}

/--
There is no result if a number on the way is too large for a word.
-/
def wordBest? (config : SnippetConfig) (parts : List Part) (window : Window) (size radius : Nat)
    (previous : Option (List Text)) : Option (Option (List Text)) :=
  if window.stop + radius + 1 < UInt64.size then
    let plain := plain parts window radius
    let trimmed := trimmed parts window radius
    let found :=
      if length plain ≤ config.maxLength then some plain
      else if length trimmed ≤ config.maxLength then some trimmed
      else previous
    if min config.maxLength size ≤ length trimmed ∨ parts.length < radius then
      some found
    else if radius + max config.radiusStep 1 < UInt64.size then
      wordBest? config parts window size (radius + max config.radiusStep 1) found
    else
      none
  else
    none
termination_by parts.length + 1 - radius

theorem wordBest?_eq (largest : Nat) {previous : Option (List Text)} (hradius : radius ≤ largest)
    (hstep : parts.length + max config.radiusStep 1 ≤ largest)
    (hlargest : window.stop + largest + 1 < UInt64.size) :
    wordBest? config parts window size radius previous =
      some (best config parts window size radius previous) := by
  -- Before the last round the radius does not exceed the number of tokens, so one step beyond
  -- them is the largest radius that is reached by steps.
  fun_induction best config parts window size radius previous with
  | case1 radius previous plain trimmed found hlast =>
    rw [wordBest?, if_pos (by omega)]
    exact if_pos hlast
  | case2 radius previous plain trimmed found hmore ih =>
    have hle : radius ≤ parts.length := Nat.le_of_not_lt (not_or.mp hmore).2
    rw [wordBest?, if_pos (by omega)]
    refine (if_neg hmore).trans ?_
    rw [if_pos (by omega)]
    exact ih (by omega)

end Excerpt

/--
There is room for the radius of an excerpt beside the tokens of a text.
-/
def SnippetConfig.Fits (config : SnippetConfig) (text : Text) : Prop :=
  config.radiusInit + config.radiusStep + text.tokens.length < 2 ^ 63

instance (config : SnippetConfig) (text : Text) : Decidable (config.Fits text) :=
  inferInstanceAs (Decidable (_ < _))

namespace Snippet

def wordOfText? (config : SnippetConfig) (terms : List Text) (normalize : Normalizer)
    (text : Text) : Option Snippet :=
  let scanned := ScannedText.ofText terms normalize text
  match Window.shortest? scanned.occurrences scanned.distinct with
  | none => some ⟨head config scanned.tokens, true⟩
  | some window => do
    let best ← Excerpt.wordBest? config (Excerpt.Part.ofTokens terms normalize scanned.tokens) window
      scanned.length config.radiusInit none
    match best with
    | some pieces => return ⟨pieces.flatten, false⟩
    | none => return ⟨head config scanned.tokens, true⟩

theorem wordOfText?_eq {config : SnippetConfig} {text : Text} (h : config.Fits text)
    (terms : List Text) (normalize : Normalizer) :
    wordOfText? config terms normalize text = some (ofText config terms normalize text) := by
  have hlength : (ScannedText.ofText terms normalize text).length = text.length :=
    congrArg List.length (Text.flatten_tokens text)
  unfold wordOfText?
  rw [ofText_eq]
  dsimp only
  cases hwindow : Window.shortest? (ScannedText.ofText terms normalize text).occurrences
    (ScannedText.ofText terms normalize text).distinct with
  | none => rfl
  | some window =>
    obtain ⟨-, token, htoken, -⟩ := ScannedText.stop_of_shortest? hwindow
    have hstop := (List.getElem?_eq_some_iff.mp htoken).choose
    have hparts : (Excerpt.Part.ofTokens terms normalize text.tokens).length =
        text.tokens.length := List.length_map _
    unfold SnippetConfig.Fits at h
    have hword : UInt64.size = 2 ^ 63 + 2 ^ 63 := rfl
    -- The radius goes at most one step beyond the number of tokens.
    have hbest : Excerpt.wordBest? config (Excerpt.Part.ofTokens terms normalize text.tokens) window
        text.length config.radiusInit none =
          some (Excerpt.best config (Excerpt.Part.ofTokens terms normalize text.tokens) window
            text.length config.radiusInit none) :=
      Excerpt.wordBest?_eq (config.radiusInit + text.tokens.length + max config.radiusStep 1)
        (by omega) (by omega) (by omega)
    have htokens : (ScannedText.ofText terms normalize text).tokens = text.tokens := rfl
    rw [hlength, htokens, Option.bind_some]
    dsimp only
    rw [hbest]
    cases Excerpt.best config (Excerpt.Part.ofTokens terms normalize text.tokens) window text.length
      config.radiusInit none <;> rfl

end Snippet

end BooleanSearch
