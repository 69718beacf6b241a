import BooleanSearch.Proofs.Snippet.Tokens
import BooleanSearch.Snippet.Basic

/-!
This module contains what the search for an excerpt comes to: the excerpt is one of those of some round,
it is short enough, and every round before was one after which the search went on.
-/

namespace BooleanSearch

namespace Excerpt

variable {config : SnippetConfig} {parts : List Part} {window : Window} {size radius : Nat}
variable {previous : Option (List Text)} {pieces : List Text}

def roundRadius (config : SnippetConfig) (radius round : Nat) : Nat :=
  radius + round * max config.radiusStep 1

@[simp]
theorem roundRadius_zero (config : SnippetConfig) (radius : Nat) :
    roundRadius config radius 0 = radius := by
  simp [roundRadius]

theorem roundRadius_succ (config : SnippetConfig) (radius round : Nat) :
    roundRadius config radius (round + 1) =
      roundRadius config (radius + max config.radiusStep 1) round := by
  unfold roundRadius
  rw [Nat.add_mul, Nat.one_mul]
  omega

theorem roundRadius_le {round later : Nat} (h : round ≤ later) :
    roundRadius config radius round ≤ roundRadius config radius later :=
  Nat.add_le_add_left (Nat.mul_le_mul_right _ h) _

inductive FoundAt (config : SnippetConfig) (parts : List Part) (window : Window) (radius : Nat) :
    List Text → Prop where
  | plain (hlength : length (plain parts window radius) ≤ config.maxLength) :
      FoundAt config parts window radius (plain parts window radius)
  | trimmed (hlength : length (trimmed parts window radius) ≤ config.maxLength) :
      FoundAt config parts window radius (trimmed parts window radius)

theorem foundAt_or_of_round (h : (if length (plain parts window radius) ≤ config.maxLength then
        some (plain parts window radius)
      else if length (trimmed parts window radius) ≤ config.maxLength then
        some (trimmed parts window radius)
      else previous) = some pieces) :
    FoundAt config parts window radius pieces ∨ previous = some pieces := by
  split at h
  next hplain =>
    cases h
    exact .inl (.plain hplain)
  next =>
    split at h
    next htrimmed =>
      cases h
      exact .inl (.trimmed htrimmed)
    next => exact .inr h

theorem exists_round_of_best (h : best config parts window size radius previous = some pieces) :
    previous = some pieces ∨
      ∃ round, FoundAt config parts window (roundRadius config radius round) pieces ∧
        ∀ earlier < round, length (trimmed parts window (roundRadius config radius earlier)) <
          min config.maxLength size := by
  fun_induction best config parts window size radius previous with
  | case1 radius previous plain trimmed found hlast =>
    rcases foundAt_or_of_round h with hfound | hprevious
    · exact .inr ⟨0, by simpa using hfound, nofun⟩
    · exact .inl hprevious
  | case2 radius previous plain trimmed found hmore ih =>
    rcases ih h with hfound | ⟨round, hfound, hearlier⟩
    · rcases foundAt_or_of_round hfound with hfound | hprevious
      · exact .inr ⟨0, by simpa using hfound, nofun⟩
      · exact .inl hprevious
    · refine .inr ⟨round + 1, ?_, ?_⟩
      · rwa [roundRadius_succ]
      · intro earlier hlt
        cases earlier with
        | zero =>
          rw [roundRadius_zero]
          exact Nat.lt_of_not_le (not_or.mp hmore).1
        | succ earlier =>
          rw [roundRadius_succ]
          exact hearlier earlier (Nat.lt_of_succ_lt_succ hlt)

def Part.ofTokens (terms : List Text) (normalize : Normalizer) (tokens : List Text) : List Part :=
  tokens.map fun token => ⟨token, terms.contains (normalize token)⟩

@[simp]
theorem Part.map_token_ofTokens (terms : List Text) (normalize : Normalizer) (tokens : List Text) :
    (Part.ofTokens terms normalize tokens).map Part.token = tokens := by
  simp [ofTokens, Function.comp_def]

end Excerpt

namespace Snippet

theorem ofText_eq (config : SnippetConfig) (terms : List Text) (normalize : Normalizer)
    (text : Text) :
    ofText config terms normalize text =
      match (Window.shortest? (ScannedText.ofText terms normalize text).occurrences
          (ScannedText.ofText terms normalize text).distinct).bind fun window =>
        Excerpt.best config (Excerpt.Part.ofTokens terms normalize text.tokens) window text.length
          config.radiusInit none with
      | some pieces => ⟨pieces.flatten, false⟩
      | none => ⟨head config text.tokens, true⟩ := by
  have hlength : (ScannedText.ofText terms normalize text).length = text.length :=
    congrArg List.length (Text.flatten_tokens text)
  have hexcerpt (window : Window) :
      Excerpt.ofScanned? config terms normalize (ScannedText.ofText terms normalize text) window =
        (Excerpt.best config (Excerpt.Part.ofTokens terms normalize text.tokens) window text.length
          config.radiusInit none).map List.flatten := by
    rw [← hlength]
    rfl
  unfold ofText
  dsimp only
  cases Window.shortest? (ScannedText.ofText terms normalize text).occurrences
    (ScannedText.ofText terms normalize text).distinct with
  | none => rfl
  | some window =>
    rw [Option.bind_some, Option.bind_some, hexcerpt]
    cases Excerpt.best config (Excerpt.Part.ofTokens terms normalize text.tokens) window
      text.length config.radiusInit none <;> rfl

theorem exists_foundAt {config : SnippetConfig} {terms : List Text} {normalize : Normalizer}
    {text : Text} (hfound : (ofText config terms normalize text).fallback = false) :
    ∃ window round pieces,
      Window.shortest? (ScannedText.ofText terms normalize text).occurrences
        (ScannedText.ofText terms normalize text).distinct = some window ∧
      Excerpt.FoundAt config (Excerpt.Part.ofTokens terms normalize text.tokens) window
        (Excerpt.roundRadius config config.radiusInit round) pieces ∧
      pieces.flatten = (ofText config terms normalize text).text := by
  rw [ofText_eq] at hfound ⊢
  split at hfound
  next pieces hbest =>
    obtain ⟨window, hwindow, hbest⟩ := Option.bind_eq_some_iff.mp hbest
    rcases Excerpt.exists_round_of_best hbest with hnone | ⟨round, hfoundAt, -⟩
    · cases hnone
    · exact ⟨window, round, pieces, hwindow, hfoundAt, rfl⟩
  next => cases hfound

end Snippet

end BooleanSearch
