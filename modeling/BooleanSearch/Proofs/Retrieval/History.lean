import BooleanSearch.Error
import BooleanSearch.Text.Utf8

/-!
This module contains what happens to helpers, each of which goes on with its work until it comes to an
end, and what it means that there is never more than one of them at work.
-/

namespace BooleanSearch

inductive Deed where
  /-- Use the channels. -/
  | use
  /-- Come to an end, and leave a result or none. -/
  | finish (result : Option (Except SearchError Bytes))

inductive HelperEvent where
  | launched (helper : Nat) (request : Bytes)
  | did (helper : Nat) (deed : Deed)
  /-- The result that a helper left is taken, and is not there any more. -/
  | taken (helper : Nat)

namespace HelperEvent

def helper : HelperEvent → Nat
  | launched helper _ | did helper _ | taken helper => helper

def isLaunch : HelperEvent → Bool
  | launched _ _ => true
  | did _ _ | taken _ => false

def takesFrom (helper : Nat) : HelperEvent → Bool
  | taken other => other == helper
  | launched _ _ | did _ _ => false

def ending? (helper : Nat) : HelperEvent → Option (Option (Except SearchError Bytes))
  | did other (.finish result) => if other = helper then some result else none
  | did _ .use | launched _ _ | taken _ => none

end HelperEvent

abbrev History := List HelperEvent

namespace History

variable {history events : History} {helper : Nat}

def launches (history : History) : Nat := history.countP HelperEvent.isLaunch

def ending? (history : History) (helper : Nat) : Option (Option (Except SearchError Bytes)) :=
  history.findSome? (HelperEvent.ending? helper)

def AtWork (history : History) (helper : Nat) : Prop :=
  helper < history.launches ∧ history.ending? helper = none

instance (history : History) (helper : Nat) : Decidable (history.AtWork helper) :=
  inferInstanceAs (Decidable (_ ∧ _ = none))

def record (history : History) (helper : Nat) (deed : Deed) : History :=
  if history.AtWork helper then history ++ [.did helper deed] else history

/--
What may happen next if there is never more than one helper at work.
-/
def Allows (history : History) : HelperEvent → Prop
  | .launched helper _ => helper = history.launches ∧ ∀ other, ¬ history.AtWork other
  | .did helper _ => ∀ other, history.AtWork other ↔ other = helper
  | .taken helper => ¬ history.AtWork helper

/--
A helper is launched only when no other one is at work.
-/
def Exclusive (history : History) : Prop :=
  ∀ start event, start ++ [event] <+: history → Allows start event

@[simp]
theorem launches_append (history events : History) :
    launches (history ++ events) = history.launches + events.launches :=
  List.countP_append

theorem ending?_append (history events : History) (helper : Nat) :
    ending? (history ++ events) helper =
      (history.ending? helper).or (events.ending? helper) :=
  List.findSome?_append

theorem mem_of_ending? {result : Option (Except SearchError Bytes)}
    (h : history.ending? helper = some result) : .did helper (.finish result) ∈ history := by
  obtain ⟨event, hevent, hresult⟩ := List.exists_of_findSome?_eq_some h
  unfold HelperEvent.ending? at hresult
  split at hresult
  next =>
    split at hresult
    next hhelper =>
      cases hresult
      rwa [hhelper] at hevent
    next => cases hresult
  all_goals cases hresult

theorem not_finished_of_ending? (h : history.ending? helper = none)
    (result : Option (Except SearchError Bytes)) : .did helper (.finish result) ∉ history := by
  intro hevent
  have hnone := List.findSome?_eq_none_iff.mp h _ hevent
  simp [HelperEvent.ending?] at hnone

theorem AtWork.of_append (hlaunched : helper < history.launches)
    (h : AtWork (history ++ events) helper) : history.AtWork helper := by
  have hend := h.2
  rw [ending?_append, Option.or_eq_none_iff] at hend
  exact ⟨hlaunched, hend.1⟩

theorem exclusive_nil : Exclusive [] := by
  intro start event h
  simp at h

theorem exclusive_concat {event : HelperEvent} :
    Exclusive (history ++ [event]) ↔ history.Exclusive ∧ history.Allows event := by
  constructor
  · intro h
    exact ⟨fun start event hstart => h start event (hstart.trans (List.prefix_append _ _)),
      h history event (List.prefix_refl _)⟩
  · rintro ⟨hexclusive, hallows⟩ start next h
    obtain hnext | hstart := List.prefix_concat_iff.mp h
    · obtain ⟨rfl, hlast⟩ := List.append_inj' hnext rfl
      cases hlast
      exact hallows
    · exact hexclusive start next hstart

/--
The history goes on, but no helper is launched.
-/
def Quietly (history later : History) : Prop :=
  ∃ events : History, later = history ++ events ∧ events.launches = 0

namespace Quietly

variable {later last : History}

theorem refl (history : History) : history.Quietly history :=
  ⟨[], (List.append_nil history).symm, rfl⟩

theorem trans (h : history.Quietly later) (h' : later.Quietly last) : history.Quietly last := by
  obtain ⟨events, rfl, hquiet⟩ := h
  obtain ⟨events', rfl, hquiet'⟩ := h'
  refine ⟨events ++ events', List.append_assoc _ _ _, ?_⟩
  rw [launches_append, hquiet, hquiet']

theorem concat (history : History) {event : HelperEvent} (h : event.isLaunch = false) :
    history.Quietly (history ++ [event]) :=
  ⟨[event], rfl, by simp [launches, h]⟩

theorem record (history : History) (helper : Nat) (deed : Deed) :
    history.Quietly (history.record helper deed) := by
  unfold History.record
  split
  next => exact concat history rfl
  next => exact refl history

theorem atWork (h : history.Quietly later) (hwork : later.AtWork helper) :
    history.AtWork helper := by
  obtain ⟨events, rfl, hquiet⟩ := h
  refine hwork.of_append ?_
  have hlaunched := hwork.1
  rwa [launches_append, hquiet] at hlaunched

end Quietly

/--
Nothing is known of helpers that are not launched yet, and no helper but perhaps the given one is
at work.
-/
structure Orderly (history : History) (stalled : Option Nat) : Prop where
  exclusive : history.Exclusive
  numbered : ∀ event ∈ history, event.helper < history.launches
  launched : ∀ helper, stalled = some helper → helper < history.launches
  stalled : ∀ helper, history.AtWork helper → stalled = some helper

namespace Orderly

variable {stalled : Option Nat}

theorem start : Orderly [] none where
  exclusive := exclusive_nil
  numbered _ h := nomatch h
  launched _ h := nomatch h
  stalled _ h := absurd h.1 (Nat.not_lt_zero _)

theorem concat {event : HelperEvent} (h : Orderly history stalled) (hallows : history.Allows event)
    (hlaunch : event.isLaunch = false) (hhelper : event.helper < history.launches) :
    Orderly (history ++ [event]) stalled := by
  have hlaunches : launches (history ++ [event]) = history.launches := by
    simp [launches, hlaunch]
  constructor
  case exclusive => exact exclusive_concat.mpr ⟨h.exclusive, hallows⟩
  case numbered =>
    intro other hother
    rw [hlaunches]
    rcases List.mem_append.mp hother with hother | hother
    · exact h.numbered other hother
    · rwa [List.mem_singleton.mp hother]
  case launched =>
    rw [hlaunches]
    exact h.launched
  case stalled =>
    intro helper hwork
    have hknown : helper < history.launches := hlaunches ▸ hwork.1
    exact h.stalled helper (hwork.of_append hknown)

theorem record (h : Orderly history stalled) (helper : Nat) (deed : Deed) :
    Orderly (history.record helper deed) stalled := by
  unfold History.record
  split
  next hwork =>
    refine h.concat ?_ rfl hwork.1
    intro other
    constructor
    · intro hother
      have hsame := (h.stalled other hother).symm.trans (h.stalled helper hwork)
      exact Option.some.inj hsame
    · rintro rfl
      exact hwork
  next => exact h

theorem release (h : Orderly history (some helper)) {result : Option (Except SearchError Bytes)}
    (hend : history.ending? helper = some result) : Orderly history none where
  exclusive := h.exclusive
  numbered := h.numbered
  launched _ h := nomatch h
  stalled other hother := by
    cases h.stalled other hother
    rw [hother.2] at hend
    cases hend

theorem did_not (h : Orderly history stalled) (deed : Deed) :
    .did history.launches deed ∉ history :=
  fun hevent => Nat.lt_irrefl _ (h.numbered _ hevent)

theorem untaken (h : Orderly history stalled) :
    history.any (HelperEvent.takesFrom history.launches) = false := by
  rw [List.any_eq_false]
  intro event hevent htakes
  unfold HelperEvent.takesFrom at htakes
  split at htakes
  next =>
    have hknown := h.numbered _ hevent
    rw [beq_iff_eq.mp htakes] at hknown
    exact Nat.lt_irrefl _ hknown
  all_goals cases htakes

theorem launch (h : Orderly history none) (request : Bytes) :
    Orderly (history ++ [.launched history.launches request]) (some history.launches) := by
  have hlaunches : launches (history ++ [.launched history.launches request]) =
      history.launches + 1 := by
    simp [launches, HelperEvent.isLaunch]
  have hidle (other : Nat) : ¬ history.AtWork other := fun hother => nomatch h.stalled other hother
  constructor
  case exclusive => exact exclusive_concat.mpr ⟨h.exclusive, rfl, hidle⟩
  case numbered =>
    intro event hevent
    rw [hlaunches]
    rcases List.mem_append.mp hevent with hevent | hevent
    · exact Nat.lt_succ_of_lt (h.numbered event hevent)
    · rw [List.mem_singleton.mp hevent]
      exact Nat.lt_succ_self _
  case launched =>
    intro helper hhelper
    cases hhelper
    omega
  case stalled =>
    intro helper hwork
    by_cases hknown : helper < history.launches
    · exact absurd (hwork.of_append hknown) (hidle helper)
    · have := hwork.1
      rw [hlaunches] at this
      congr 1
      omega

end Orderly

end History

end BooleanSearch
