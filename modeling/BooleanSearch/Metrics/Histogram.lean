/-!
This module contains histograms: observations are counted by upper bounds and summed up.
-/

namespace BooleanSearch

structure Histogram where
  /-- Upper bounds in increasing order, each with the number of observations it is not exceeded by. -/
  buckets : List (Float × Nat)
  sum : Float := 0
  count : Nat := 0

namespace Histogram

def ofBounds (bounds : List Float) : Histogram where
  buckets := bounds.map fun bound => (bound, 0)

def observe (histogram : Histogram) (value : Float) : Histogram where
  buckets := histogram.buckets.map fun (bound, n) => (bound, if value ≤ bound then n + 1 else n)
  sum := histogram.sum + value
  count := histogram.count + 1

@[simp]
theorem count_ofBounds (bounds : List Float) : (ofBounds bounds).count = 0 := rfl

@[simp]
theorem count_observe (histogram : Histogram) (value : Float) :
    (histogram.observe value).count = histogram.count + 1 := rfl

end Histogram

end BooleanSearch
