import Mathlib.Data.List.Induction
import BooleanSearch.Proofs.Retrieval.Delivery
import BooleanSearch.Proofs.Text.Distinct

/-!
This module contains a client that is called again and again while it is at work with a simulated
backend under a schedule.
-/

namespace BooleanSearch

structure Dialogue where
  client : ClientState := {}
  line : Line

namespace Dialogue

variable (schedule : Schedule) (config : ClientConfig)

def start (script : Script) : Dialogue := { line := { backend := script.backend } }

def fetch (dialogue : Dialogue) (expr : ResolvedExpr) (page : Nat) :
    Except SearchError (List UInt32) × Dialogue :=
  let (result, client, line) :=
    runOn (ClientM.fetchPage (Line.link schedule) config expr page) dialogue.client dialogue.line
  (result, ⟨client, line⟩)

def after (script : Script) (calls : List (ResolvedExpr × Nat)) : Dialogue :=
  calls.foldl (fun dialogue call => (dialogue.fetch schedule config call.1 call.2).2) (start script)

def keys (calls : List (ResolvedExpr × Nat)) : List Text :=
  Text.distinct (calls.map fun call => call.1.wire)

theorem fetch_run (dialogue : Dialogue) (expr : ResolvedExpr) (page : Nat) :
    ClientM.FetchRun (Line.link schedule) config expr.wire page dialogue.client.session
      dialogue.line (dialogue.fetch schedule config expr page).1
      (dialogue.fetch schedule config expr page).2.client.session
      (dialogue.fetch schedule config expr page).2.line :=
  ClientM.fetchPage_run (Line.link schedule) config expr page dialogue.client dialogue.line

theorem after_concat (script : Script) (calls : List (ResolvedExpr × Nat)) (expr : ResolvedExpr)
    (page : Nat) :
    after schedule config script (calls ++ [(expr, page)]) =
      ((after schedule config script calls).fetch schedule config expr page).2 := by
  simp only [after, List.foldl_append, List.foldl_cons, List.foldl_nil]

theorem keys_concat (calls : List (ResolvedExpr × Nat)) (expr : ResolvedExpr) (page : Nat) :
    keys (calls ++ [(expr, page)]) = Text.addDistinct (keys calls) expr.wire := by
  rw [keys, List.map_append, List.map_singleton, Text.distinct_concat]
  rfl

theorem after_induction {script : Script} {motive : List Text → Dialogue → Prop}
    (hstart : motive [] (start script))
    (hfetch : ∀ keys dialogue expr page, motive keys dialogue →
      motive (Text.addDistinct keys expr.wire) (dialogue.fetch schedule config expr page).2)
    (calls : List (ResolvedExpr × Nat)) :
    motive (keys calls) (after schedule config script calls) := by
  induction calls using List.reverseRecOn with
  | nil => exact hstart
  | append_singleton calls call ih =>
    obtain ⟨expr, page⟩ := call
    rw [after_concat, keys_concat]
    exact hfetch _ _ expr page ih

theorem recorded_after (script : Script) (calls : List (ResolvedExpr × Nat)) :
    (after schedule config script calls).line.Recorded schedule := by
  have h : (after schedule config script calls).line.backend.Follows script ∧
      (after schedule config script calls).line.Recorded schedule := by
    apply after_induction schedule config (motive := fun _ dialogue =>
      dialogue.line.backend.Follows script ∧ dialogue.line.Recorded schedule)
    · exact ⟨⟨rfl, rfl, rfl, rfl⟩, by simp [start, Line.Recorded]⟩
    · intro keys dialogue expr page h
      exact ClientM.FetchRun.preserves
        (P := fun line => line.backend.Follows script ∧ line.Recorded schedule)
        (fun _ _ _ _ hline hsent => Line.recorded_of_sent hline hsent) h
        (fetch_run schedule config dialogue expr page)
  exact h.2

end Dialogue

end BooleanSearch
