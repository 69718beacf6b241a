import BooleanSearch.Retrieval.Link

/-!
This module contains what the search front end needs from the system that it runs on.
-/

namespace BooleanSearch

/--
A way to the backend, files, and a clock.
-/
structure Host (m : Type → Type) extends Link m where
  readFile : Text → m (Except IoFailure Bytes)
  /-- The time in seconds since some moment in the past. -/
  clock : m Float

end BooleanSearch
