import BooleanSearch.Snippet.ScannedText

/-!
This module contains the search for the shortest stretch of a text that covers all words of a query.
-/

namespace BooleanSearch

/--
A stretch of tokens between two occurrences.
-/
structure Window where
  /-- Position of the first occurrence. -/
  start : Nat
  /-- Position of the last occurrence. -/
  stop : Nat
deriving DecidableEq, Repr

namespace Window

def span (window : Window) : Nat := window.stop - window.start

def meet (occurrence : Occurrence) (ahead : List Occurrence) : List Occurrence :=
  occurrence :: ahead.filter (·.rank != occurrence.rank)

/--
The first occurrence of each rank, in their order, and the windows: one from each occurrence to the
first one by which the given number of ranks has been met, as long as there is one.
-/
def sweep (ranks : Nat) : List Occurrence → List Occurrence × List Window
  | [] => ([], [])
  | occurrence :: rest =>
    let (ahead, windows) := sweep ranks rest
    let ahead := meet occurrence ahead
    match ahead[ranks - 1]? with
    | some last => (ahead, ⟨occurrence.position, last.position⟩ :: windows)
    | none => (ahead, windows)

/--
The shortest of the windows, and the earliest of those with the same span.
-/
def shortest? (occurrences : List Occurrence) (ranks : Nat) : Option Window :=
  if ranks = 0 then none else (sweep ranks occurrences).2.minOn? span

/--
The number of bytes that a list can have.
-/
def maxBytes : Nat := 9223372036854775807

/--
A list can hold eight bytes for each rank and for rank zero.
-/
def CountsFit (ranks : Nat) : Prop := 8 * (ranks + 1) ≤ maxBytes

instance (ranks : Nat) : Decidable (CountsFit ranks) := inferInstanceAs (Decidable (_ ≤ _))

/--
The shortest window, found with a list of counts. There is no result if the list would be too long.
-/
def counted? (occurrences : List Occurrence) (ranks : Nat) : Option (Option Window) :=
  if occurrences = [] ∨ ranks = 0 then some none
  else if CountsFit ranks then some (shortest? occurrences ranks)
  else none

end Window

end BooleanSearch
