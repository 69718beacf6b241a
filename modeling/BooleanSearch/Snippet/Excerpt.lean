import BooleanSearch.Config
import BooleanSearch.Snippet.Window

/-!
This module contains excerpts from a text around a window. The wider the radius, the more tokens on each
side of the window are part of an excerpt. A plain excerpt keeps all of them, a trimmed one only those
that follow a hit closely.
-/

namespace BooleanSearch

namespace Excerpt

def ellipsis : Text := "...".toList

/--
A token of a text.
-/
structure Part where
  token : Text
  /-- Whether the normal form of the token is a word of the query. -/
  isHit : Bool
deriving DecidableEq, Repr

def length (tokens : List Text) : Nat := tokens.flatten.length

def leads (window : Window) (radius : Nat) : Bool := radius < window.start

def trails (window : Window) (radius size : Nat) : Bool := window.stop + radius + 1 < size

def around (parts : List Part) (window : Window) (radius : Nat) : List Part :=
  (parts.take (window.stop + radius + 1)).drop (window.start - radius)

def plain (parts : List Part) (window : Window) (radius : Nat) : List Text :=
  (if leads window radius then [ellipsis] else []) ++
    (around parts window radius).map Part.token ++
      if trails window radius parts.length then [ellipsis] else []

/--
Keep every hit and up to `radius` tokens behind it. The last of these tokens is followed by an ellipsis.
Before the first hit, `budget` tokens are kept.
-/
def thin (radius : Nat) : (budget : Nat) → List Part → List Text
  | _, [] => []
  | budget, part :: rest =>
    if part.isHit then
      part.token :: thin radius radius rest
    else
      match budget with
      | 0 => thin radius 0 rest
      | 1 => part.token :: ellipsis :: thin radius 0 rest
      | budget + 2 => part.token :: thin radius (budget + 1) rest

def trimmed (parts : List Part) (window : Window) (radius : Nat) : List Text :=
  (if leads window radius then [ellipsis] else []) ++
    thin radius radius (around parts window radius)

/--
The last excerpt that is not too long, when the radius grows from round to round. In a round the plain
excerpt is preferred. The last round is the one in which the trimmed excerpt is as long as a snippet or
the whole text can be, or in which the radius exceeds the number of tokens.
-/
def best (config : SnippetConfig) (parts : List Part) (window : Window) (size radius : Nat)
    (previous : Option (List Text)) : Option (List Text) :=
  let plain := plain parts window radius
  let trimmed := trimmed parts window radius
  let found :=
    if length plain ≤ config.maxLength then some plain
    else if length trimmed ≤ config.maxLength then some trimmed
    else previous
  if min config.maxLength size ≤ length trimmed ∨ parts.length < radius then
    found
  else
    best config parts window size (radius + max config.radiusStep 1) found
termination_by parts.length + 1 - radius

def ofScanned? (config : SnippetConfig) (terms : List Text) (normalize : Normalizer)
    (scanned : ScannedText) (window : Window) : Option Text :=
  let parts := scanned.tokens.map fun token => ⟨token, terms.contains (normalize token)⟩
  (best config parts window scanned.length config.radiusInit none).map List.flatten

end Excerpt

end BooleanSearch
