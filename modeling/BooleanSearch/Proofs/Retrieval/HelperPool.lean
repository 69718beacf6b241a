import BooleanSearch.Proofs.Retrieval.Helpers
import BooleanSearch.Proofs.Retrieval.History

/-!
This module contains helpers that do their work while their caller waits or goes on, and the theorem
that there is never more than one of them at work, and that no exchange has the response of another
one.
-/

namespace BooleanSearch

/--
What helpers do before an operation of their caller, and whether a helper can be launched then.
-/
structure Moment where
  deeds : List (Nat × Deed) := []
  refusal : Option IoFailure := none

structure Pool where
  history : History := []
  /-- The number of operations so far. -/
  time : Nat := 0

namespace Pool

def pass (schedule : Nat → Moment) (pool : Pool) : Pool where
  history := (schedule pool.time).deeds.foldl
    (fun history (helper, deed) => history.record helper deed) pool.history
  time := pool.time + 1

def look (helper : Nat) (pool : Pool) : Outcome × Pool :=
  match pool.history.ending? helper with
  | none => (.pending, pool)
  | some none => (.terminated, pool)
  | some (some result) =>
    if pool.history.any (HelperEvent.takesFrom helper) then
      (.terminated, pool)
    else
      (.finished result, { pool with history := pool.history ++ [.taken helper] })

def launch (request : Bytes) (pool : Pool) : Pool :=
  { pool with history := pool.history ++ [.launched pool.history.launches request] }

def helpers (schedule : Nat → Moment) : Helpers (StateM Pool) Nat where
  launch request := do
    let moment := schedule (← get).time
    modify (pass schedule)
    match moment.refusal with
    | some failure => return .error failure
    | none => modifyGet fun pool => (.ok pool.history.launches, pool.launch request)
  poll helper := do
    modify (pass schedule)
    modifyGet (look helper)
  await helper _ := do
    modify (pass schedule)
    modifyGet (look helper)

variable {schedule : Nat → Moment} {pool : Pool} {stalled : Option Nat} {helper : Nat}

theorem pass_induction {motive : History → Prop} (hstart : motive pool.history)
    (hrecord : ∀ history helper deed, motive history → motive (history.record helper deed)) :
    motive (pool.pass schedule).history := by
  unfold pass
  generalize pool.history = history at hstart ⊢
  dsimp only
  induction (schedule pool.time).deeds generalizing history with
  | nil => exact hstart
  | cons deed deeds ih => exact ih _ (hrecord _ _ _ hstart)

theorem quietly_pass (schedule : Nat → Moment) (pool : Pool) :
    pool.history.Quietly (pool.pass schedule).history :=
  pass_induction (.refl _) fun history helper deed h => h.trans (.record history helper deed)

theorem orderly_pass (schedule : Nat → Moment) (h : pool.history.Orderly stalled) :
    (pool.pass schedule).history.Orderly stalled := by
  apply pass_induction (motive := fun history => history.Orderly stalled) h
  intro history helper deed h
  exact h.record helper deed

theorem untaken_pass (schedule : Nat → Moment)
    (h : pool.history.any (HelperEvent.takesFrom helper) = false) :
    (pool.pass schedule).history.any (HelperEvent.takesFrom helper) = false := by
  apply pass_induction (motive := fun history => history.any (HelperEvent.takesFrom helper) = false)
    h
  intro history other deed h
  unfold History.record
  split
  next =>
    rw [List.any_append, h]
    rfl
  next => exact h

inductive Looked (helper : Nat) (pool : Pool) : Outcome → Pool → Prop
  | pending (hend : pool.history.ending? helper = none) : Looked helper pool .pending pool
  | terminated {left : Option (Except SearchError Bytes)}
      (hend : pool.history.ending? helper = some left)
      (hnone : pool.history.any (HelperEvent.takesFrom helper) = false → left = none) :
      Looked helper pool .terminated pool
  | finished {result : Except SearchError Bytes}
      (hend : pool.history.ending? helper = some (some result)) :
      Looked helper pool (.finished result)
        { pool with history := pool.history ++ [.taken helper] }

theorem looked (helper : Nat) (pool : Pool) :
    Looked helper pool (pool.look helper).1 (pool.look helper).2 := by
  unfold look
  split
  next hend => exact .pending hend
  next hend => exact .terminated hend fun _ => rfl
  next hend =>
    split
    next htaken => exact .terminated hend fun h => by simp [h] at htaken
    next => exact .finished hend

theorem orderly_taken (h : pool.history.Orderly (some helper))
    {left : Option (Except SearchError Bytes)} (hend : pool.history.ending? helper = some left) :
    History.Orderly (pool.history ++ [.taken helper]) none := by
  refine (h.release hend).concat ?_ rfl (h.launched helper rfl)
  intro hwork
  rw [hwork.2] at hend
  cases hend

inductive Checked (pool : Pool) : (Bool × Option Nat) × Pool → Prop
  | busy {helper : Nat} {later : Pool} (hquiet : pool.history.Quietly later.history)
      (horderly : later.history.Orderly (some helper)) (hwork : later.history.AtWork helper) :
      Checked pool ((true, some helper), later)
  | free {later : Pool} (hquiet : pool.history.Quietly later.history)
      (horderly : later.history.Orderly none) : Checked pool ((false, none), later)

theorem checked (schedule : Nat → Moment) (h : pool.history.Orderly stalled) :
    Checked pool (((helpers schedule).isStalled.run stalled).run pool) := by
  rw [Helpers.run_isStalled]
  cases stalled with
  | none => exact .free (.refl _) h
  | some helper =>
    have hpoll : ((helpers schedule).poll helper).run pool =
        (pool.pass schedule).look helper := rfl
    have hquiet := quietly_pass schedule pool
    have horderly := orderly_pass schedule h
    have hlooked := looked helper (pool.pass schedule)
    dsimp only
    rw [hpoll]
    rcases hlook : (pool.pass schedule).look helper with ⟨outcome, later⟩
    rw [hlook] at hlooked
    cases hlooked with
    | pending hend => exact .busy hquiet horderly ⟨horderly.launched helper rfl, hend⟩
    | terminated hend => exact .free hquiet (horderly.release hend)
    | finished hend => exact .free (hquiet.trans (.concat _ rfl)) (orderly_taken horderly hend)

theorem run_launch (schedule : Nat → Moment) (request : Bytes) (pool : Pool) :
    ((helpers schedule).launch request).run pool =
      match (schedule pool.time).refusal with
      | some failure => (.error failure, pool.pass schedule)
      | none => (.ok (pool.pass schedule).history.launches, (pool.pass schedule).launch request) := by
  rcases h : (schedule pool.time).refusal with _ | failure <;>
    simp [helpers, h, id_bind, id_pure]

end Pool

inductive Left (helper : Nat) (later : History) : Outcome → Prop
  | nothing (hnever : ∀ left, .did helper (.finish left) ∉ later) : Left helper later .pending
  | noResult (hend : .did helper (.finish none) ∈ later) : Left helper later .terminated
  | result {result : Except SearchError Bytes}
      (hend : .did helper (.finish (some result)) ∈ later) : Left helper later (.finished result)

def Outcome.answer (milliseconds : Nat) : Outcome → Except SearchError Bytes
  | pending => .error (.backendUnavailable (.noResponse milliseconds))
  | finished result => result
  | terminated => .error (.backendUnavailable .exchangeTerminated)

def Outcome.missed (helper : Nat) : Outcome → Option Nat
  | pending => some helper
  | finished _ | terminated => none

namespace Pool

variable {pool : Pool}

theorem history_launch_pass (schedule : Nat → Moment) (request : Bytes)
    (h : pool.history.Orderly none) :
    ∃ later : History,
      ((pool.launch request).pass schedule).history =
        pool.history ++ .launched pool.history.launches request :: later ∧
      later.launches = 0 ∧
      ∀ deed, .did pool.history.launches deed ∈ ((pool.launch request).pass schedule).history ↔
        .did pool.history.launches deed ∈ later := by
  obtain ⟨later, hlater, hquiet⟩ := quietly_pass schedule (pool.launch request)
  have hsplit : ((pool.launch request).pass schedule).history =
      pool.history ++ .launched pool.history.launches request :: later := by
    rw [hlater]
    exact (List.append_cons _ _ _).symm
  refine ⟨later, hsplit, hquiet, ?_⟩
  intro deed
  rw [hsplit]
  simp [h.did_not deed]

theorem untaken_launch_pass (schedule : Nat → Moment) (request : Bytes)
    (h : pool.history.Orderly none) :
    ((pool.launch request).pass schedule).history.any
      (HelperEvent.takesFrom pool.history.launches) = false := by
  apply untaken_pass
  unfold launch
  dsimp only
  rw [List.any_append, h.untaken]
  rfl

theorem left_of_look {schedule : Nat → Moment} {request : Bytes} {outcome : Outcome} {last : Pool}
    (h : pool.history.Orderly none)
    (hlook : ((pool.launch request).pass schedule).look pool.history.launches =
      (outcome, last)) :
    ∃ later : History,
      last.history = pool.history ++ .launched pool.history.launches request :: later ∧
      later.launches = 0 ∧ Left pool.history.launches later outcome ∧
      last.history.Orderly (outcome.missed pool.history.launches) := by
  obtain ⟨later, hlater, hquiet, hdid⟩ := history_launch_pass schedule request h
  have hpassed : ((pool.launch request).pass schedule).history.Orderly
      (some pool.history.launches) :=
    orderly_pass schedule (h.launch request)
  have hlooked := looked pool.history.launches ((pool.launch request).pass schedule)
  rw [hlook] at hlooked
  -- What is found depends on whether the helper has come to its end until now.
  cases hlooked with
  | pending hend =>
    refine ⟨later, hlater, hquiet, .nothing ?_, hpassed⟩
    intro left hleft
    exact History.not_finished_of_ending? hend left ((hdid _).mpr hleft)
  | terminated hend hnone =>
    cases hnone (untaken_launch_pass schedule request h)
    have hleft := (hdid _).mp (History.mem_of_ending? hend)
    exact ⟨later, hlater, hquiet, .noResult hleft, hpassed.release hend⟩
  | finished hend =>
    have hleft := (hdid _).mp (History.mem_of_ending? hend)
    refine ⟨later ++ [.taken pool.history.launches], ?_, ?_,
      .result (List.mem_append_left _ hleft), orderly_taken hpassed hend⟩
    · dsimp only
      rw [hlater, List.append_assoc, List.cons_append]
    · rw [History.launches_append, hquiet]
      rfl

end Pool

structure Caller where
  /-- The helper that missed its limit, if there is one. -/
  stalled : Option Nat := none
  pool : Pool := {}

namespace Caller

variable (schedule : Nat → Moment) (channels : Channels (StateM Pool))
  (pause : Nat → StateM Pool Unit) (milliseconds : Nat)

def exchange (caller : Caller) (request : Bytes) : Except SearchError Bytes × Caller :=
  let link := Link.overChannels channels (Pool.helpers schedule) pause milliseconds
  let ((result, stalled), pool) := ((link.exchange request).run caller.stalled).run caller.pool
  (result, { stalled, pool })

def after (requests : List Bytes) : Caller :=
  requests.foldl
    (fun caller request => (caller.exchange schedule channels pause milliseconds request).2) {}

/--
What came of an exchange, where `before` is what happened before it and `events` is what happened
while it went on.
-/
inductive Answered (request : Bytes) (milliseconds : Nat) (before : History) :
    History → Except SearchError Bytes → Prop
  | refused {events : History} {helper : Nat} (hquiet : events.launches = 0)
      (hbefore : before.AtWork helper) (hstill : (before ++ events).AtWork helper) :
      Answered request milliseconds before events (.error (.backendUnavailable .stillPending))
  | notLaunched {events : History} {failure : IoFailure} (hquiet : events.launches = 0)
      (hidle : ∀ helper, ¬ (before ++ events).AtWork helper) :
      Answered request milliseconds before events (.error (.requestNotDelivered failure))
  | launched {earlier later : History} {helper : Nat} {outcome : Outcome}
      (hearlier : earlier.launches = 0) (hlater : later.launches = 0)
      (hleft : Left helper later outcome) :
      Answered request milliseconds before (earlier ++ .launched helper request :: later)
        (outcome.answer milliseconds)

variable {milliseconds} {caller : Caller}

theorem exchange_step (hlimit : milliseconds ≠ 0)
    (h : caller.pool.history.Orderly caller.stalled) (request : Bytes) :
    let run := caller.exchange schedule channels pause milliseconds request
    run.2.pool.history.Orderly run.2.stalled ∧
      ∃ events, run.2.pool.history = caller.pool.history ++ events ∧
        Answered request milliseconds caller.pool.history events run.1 := by
  unfold exchange Link.overChannels
  dsimp only
  rw [if_neg hlimit, Helpers.run_exchange]
  have hchecked := Pool.checked schedule h
  generalize ((Pool.helpers schedule).isStalled.run caller.stalled).run caller.pool = found
    at hchecked
  cases hchecked with
  | busy hquiet horderly hwork =>
    have hbefore := hquiet.atWork hwork
    obtain ⟨events, hevents, hquiet⟩ := hquiet
    exact ⟨horderly, events, hevents, .refused hquiet hbefore (hevents ▸ hwork)⟩
  | @free later hquiet horderly =>
    -- A moment passes between the look at the old helper and the launch of the new one.
    have hpassed := Pool.orderly_pass schedule horderly
    obtain ⟨earlier, hearlier, hquiet⟩ := hquiet.trans (Pool.quietly_pass schedule later)
    dsimp only
    rw [Pool.run_launch]
    cases (schedule later.time).refusal with
    | some failure =>
      refine ⟨hpassed, earlier, hearlier, .notLaunched hquiet ?_⟩
      intro helper hwork
      rw [← hearlier] at hwork
      exact nomatch hpassed.stalled helper hwork
    | none =>
      rcases hlook : (((later.pass schedule).launch request).pass schedule).look
        (later.pass schedule).history.launches with ⟨outcome, last⟩
      obtain ⟨events, hevents, hnone, hleft, hlast⟩ := Pool.left_of_look hpassed hlook
      have hawait : ((Pool.helpers schedule).await (later.pass schedule).history.launches
          milliseconds).run ((later.pass schedule).launch request) = (outcome, last) := hlook
      rw [hearlier, List.append_assoc, ← hearlier] at hevents
      dsimp only
      rw [hawait]
      cases outcome
      all_goals exact ⟨hlast, _, hevents, .launched hquiet hnone hleft⟩

theorem orderly_after (hlimit : milliseconds ≠ 0) (requests : List Bytes) :
    (after schedule channels pause milliseconds requests).pool.history.Orderly
      (after schedule channels pause milliseconds requests).stalled := by
  unfold after
  apply List.foldlRecOn (motive := fun caller : Caller =>
    caller.pool.history.Orderly caller.stalled)
  · exact .start
  · intro caller h request _
    exact (exchange_step schedule channels pause hlimit h request).1

theorem Answered.refused_of_atWork {request : Bytes} {before events : History}
    {result : Except SearchError Bytes} {helper : Nat}
    (h : Answered request milliseconds before events result)
    (hexclusive : History.Exclusive (before ++ events)) (hbefore : before.AtWork helper)
    (hstill : (before ++ events).AtWork helper) :
    result = .error (.backendUnavailable .stillPending) ∧ events.launches = 0 := by
  cases h with
  | refused hquiet => exact ⟨rfl, hquiet⟩
  | notLaunched _ hidle => exact absurd hstill (hidle helper)
  | @launched earlier later own _ _ _ _ =>
    have hstart : before ++ earlier ++ [.launched own request] <+:
        before ++ (earlier ++ .launched own request :: later) := ⟨later, by simp⟩
    have hidle := (hexclusive _ _ hstart).2 helper
    have hknown : helper < History.launches (before ++ earlier) := by
      rw [History.launches_append]
      exact Nat.lt_add_right _ hbefore.1
    rw [← List.append_assoc] at hstill
    exact absurd (hstill.of_append hknown) hidle

/--
With a time limit there is never more than one helper at work. While it is, exchanges are refused and
launch nothing. What an exchange has from a helper, it has from the one that it launched itself.
-/
theorem answered_by_own_helper (hlimit : milliseconds ≠ 0) (requests : List Bytes)
    (request : Bytes) :
    let before := after schedule channels pause milliseconds requests
    let run := before.exchange schedule channels pause milliseconds request
    run.2.pool.history.Exclusive ∧ ∃ events : History,
      run.2.pool.history = before.pool.history ++ events ∧
      (∀ helper, before.pool.history.AtWork helper → run.2.pool.history.AtWork helper →
        run.1 = .error (.backendUnavailable .stillPending) ∧ events.launches = 0) ∧
      Answered request milliseconds before.pool.history events run.1 := by
  intro before run
  have hbefore := orderly_after schedule channels pause hlimit requests
  obtain ⟨horderly, events, hevents, hanswered⟩ :=
    exchange_step schedule channels pause hlimit hbefore request
  refine ⟨horderly.exclusive, events, hevents, ?_, hanswered⟩
  intro helper hwork hstill
  have hexclusive := horderly.exclusive
  rw [hevents] at hexclusive hstill
  exact hanswered.refused_of_atWork hexclusive hwork hstill

end Caller

/-!
A response that comes after the limit. The second exchange is refused, and the third one has the
response of its own helper.
-/
namespace LateResponse

def schedule : Nat → Moment
  | 2 => { deeds := [(0, .use)] }
  | 3 => { deeds := [(0, .finish (some (.ok [9])))] }
  | 5 => { deeds := [(1, .use), (1, .finish (some (.ok [7])))] }
  | _ => {}

def channels : Channels (StateM Pool) := ⟨fun _ => pure (.ok ()), pure (.ok [])⟩

def after (requests : List Bytes) : Caller :=
  .after schedule channels (fun _ => pure ()) 100 requests

def exchange (caller : Caller) (request : Bytes) : Except SearchError Bytes × Caller :=
  caller.exchange schedule channels (fun _ => pure ()) 100 request

theorem discarded :
    (exchange (after [[1]]) [2]).1 = .error (.backendUnavailable .stillPending) ∧
      (exchange (after [[1], [2]]) [3]).1 = .ok [7] ∧
      (exchange (after [[1], [2]]) [3]).2.pool.history.Exclusive := by
  have hlimit : 100 ≠ 0 := by decide
  have hrun := Caller.answered_by_own_helper schedule channels (fun _ => pure ()) hlimit
  refine ⟨?_, rfl, (hrun [[1], [2]] [3]).1⟩
  obtain ⟨-, events, -, hrefused, -⟩ := hrun [[1]] [2]
  exact (hrefused 0 (by decide) (by decide)).1

end LateResponse

end BooleanSearch
