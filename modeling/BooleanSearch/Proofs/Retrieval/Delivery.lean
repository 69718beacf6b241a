import BooleanSearch.Proofs.Retrieval.Disturbance
import BooleanSearch.Proofs.Retrieval.Steps

/-!
This module contains the exchanges of a client with a simulated backend under a schedule: what can come
of sending a request, and which attempts are made for it.
-/

namespace BooleanSearch

/--
No more than `retries` attempts in succession fail before the request is delivered.
-/
def Schedule.Delivers (schedule : Schedule) (retries : Nat) : Prop :=
  ∀ attempt received, ∃ k ≤ retries, schedule (attempt + k) received ≠ .undelivered

structure Line where
  backend : SimulatedBackend
  attempts : List (Received × Fate) := []

namespace Line

def exchange (schedule : Schedule) (bytes : Bytes) (line : Line) :
    Except SearchError Bytes × Line :=
  let received := Received.ofBytes bytes
  let fate := schedule line.attempts.length received
  let (result, backend) := (line.backend.withFate fate).exchange bytes
  (result, ⟨backend, line.attempts ++ [(received, fate)]⟩)

def link (schedule : Schedule) : Link (StateM Line) where
  exchange bytes := fun line => line.exchange schedule bytes
  pause _ := pure ()

def miss (line : Line) (request : Request) : Line where
  backend := line.backend.withFate .answered
  attempts := line.attempts ++ [(.request request, .undelivered)]

def serve (line : Line) (request : Request) (fate : Fate) : Line where
  backend := line.backend.serve request
  attempts := line.attempts ++ [(.request request, fate)]

def fate (line : Line) (schedule : Schedule) (request : Request) : Fate :=
  schedule line.attempts.length (.request request)

/--
What can come of sending a request that may be repeated a number of times.
-/
inductive Delivery (schedule : Schedule) (request : Request) :
    Line → (retries : Nat) → Except SearchError Response → Line → Prop where
  | refused {retries : Nat} {line : Line} {e : SearchError} (hencode : request.encode = .error e) :
      Delivery schedule request line retries (.error e) line
  | undelivered {line : Line} {failure : IoFailure}
      (hfate : line.fate schedule request = .undelivered) :
      Delivery schedule request line 0 (.error (.requestNotDelivered failure)) (line.miss request)
  | again {retries : Nat} {line line' : Line} {result : Except SearchError Response}
      (hfate : line.fate schedule request = .undelivered)
      (hrest : Delivery schedule request (line.miss request) retries result line') :
      Delivery schedule request line (retries + 1) result line'
  | lost {retries : Nat} {line : Line} {failure : IoFailure}
      (hfate : line.fate schedule request = .lost) :
      Delivery schedule request line retries (.error (.io failure)) (line.serve request .lost)
  | answered {retries : Nat} {line : Line} (hfate : line.fate schedule request = .answered) :
      Delivery schedule request line retries (.ok (line.backend.answer request).carried)
        (line.serve request .answered)

inductive Reply (schedule : Schedule) (request : Request) (line : Line) :
    Except SearchError Response → Line → Prop where
  | lost {failure : IoFailure} (hfate : line.fate schedule request = .lost) :
      Reply schedule request line (.error (.io failure)) (line.serve request .lost)
  | answered (hfate : line.fate schedule request = .answered) :
      Reply schedule request line (.ok (line.backend.answer request).carried)
        (line.serve request .answered)

def pageFates (line : Line) (handle : UInt32) : List Fate :=
  line.attempts.filterMap fun
    | (.request (.existing other), fate) =>
      if other = handle ∧ fate ≠ .undelivered then some fate else none
    | (.request (.new _), _) | (.invalid _, _) => none

/--
Every attempt had a fate that the schedule has for it.
-/
def Recorded (line : Line) (schedule : Schedule) : Prop :=
  ∀ attempt ∈ line.attempts, ∃ number, schedule number attempt.1 = attempt.2

variable {schedule : Schedule} {request : Request} {bytes : Bytes} {line : Line}

theorem exchange_of_undelivered (hencode : request.encode = .ok bytes)
    (hfate : line.fate schedule request = .undelivered) :
    ((link schedule).exchange bytes).run line =
      (.error (.requestNotDelivered (.other "scripted transport failure".toList)),
        line.miss request) := by
  unfold fate at hfate
  show line.exchange schedule bytes = _
  simp only [exchange, Received.ofBytes_of_encode hencode, hfate,
    SimulatedBackend.exchange_undelivered]
  rfl

theorem exchange_of_lost (hencode : request.encode = .ok bytes)
    (hfate : line.fate schedule request = .lost) :
    ((link schedule).exchange bytes).run line =
      (.error (.io (.other "scripted response failure".toList)), line.serve request .lost) := by
  unfold fate at hfate
  show line.exchange schedule bytes = _
  simp only [exchange, Received.ofBytes_of_encode hencode, hfate,
    SimulatedBackend.exchange_lost _ hencode]
  rfl

theorem exchange_of_answered (hencode : request.encode = .ok bytes)
    (hreplaced : line.backend.replaced = []) (hfate : line.fate schedule request = .answered) :
    ((link schedule).exchange bytes).run line =
      (.ok (line.backend.answer request).encode, line.serve request .answered) := by
  unfold fate at hfate
  show line.exchange schedule bytes = _
  simp only [exchange, Received.ofBytes_of_encode hencode, hfate,
    SimulatedBackend.exchange_answered hencode hreplaced]
  rfl

theorem delivery_of_deliver {line : Line} (hencode : request.encode = .ok bytes)
    (hreplaced : line.backend.replaced = []) (kind : Text) (backoff retries pause : Nat)
    (client : ClientState) :
    let run := runOn (ClientM.deliver (link schedule) kind bytes backoff retries pause) client line
    Delivery schedule request line retries (run.1 >>= Response.decode) run.2.2 := by
  dsimp only
  rw [ClientM.runOn_deliver]
  cases hfate : line.fate schedule request with
  | lost =>
    rw [exchange_of_lost hencode hfate]
    cases retries with
    | zero => exact .lost hfate
    | succ retries => exact .lost hfate
  | answered =>
    rw [exchange_of_answered hencode hreplaced hfate]
    show Delivery _ _ _ _ (Response.decode _) _
    rw [SimulatedBackend.decode_answer]
    exact .answered hfate
  | undelivered =>
    rw [exchange_of_undelivered hencode hfate]
    cases retries with
    | zero => exact .undelivered hfate
    | succ retries =>
      apply Delivery.again hfate
      have hmissed : (line.miss request).backend.replaced = [] := hreplaced
      exact delivery_of_deliver hencode hmissed kind backoff retries (pause + backoff) _

theorem delivery_of_sent {config : ClientConfig} (hreplaced : line.backend.replaced = [])
    {result : Except SearchError Response} {line' : Line}
    (hsent : ClientM.sent (link schedule) config request line = (result, line')) :
    Delivery schedule request line config.transportRetries result line' := by
  cases hencode : request.encode with
  | error e =>
    rw [ClientM.sent_of_encode_eq_error _ config hencode, Prod.mk.injEq] at hsent
    obtain ⟨rfl, rfl⟩ := hsent
    exact .refused hencode
  | ok bytes =>
    rw [ClientM.sent_of_encode_eq_ok _ config hencode, Prod.mk.injEq] at hsent
    obtain ⟨rfl, rfl⟩ := hsent
    exact delivery_of_deliver hencode hreplaced request.kind config.retryBackoffMs
      config.transportRetries config.retryBackoffMs {}

theorem sent_of_answered {config : ClientConfig} (hencode : request.encode = .ok bytes)
    (hreplaced : line.backend.replaced = []) (hfate : line.fate schedule request = .answered) :
    ClientM.sent (link schedule) config request line =
      (.ok (line.backend.answer request).carried, line.serve request .answered) := by
  rw [ClientM.sent_of_encode_eq_ok _ config hencode, ClientM.runOn_deliver,
    exchange_of_answered hencode hreplaced hfate, ← SimulatedBackend.decode_answer]
  rfl

theorem Delivery.follows {script : Script} {retries : Nat} {result : Except SearchError Response}
    {line' : Line} (hfollows : line.backend.Follows script)
    (hdelivery : line.Delivery schedule request retries result line') :
    line'.backend.Follows script := by
  induction hdelivery with
  | refused hencode => exact hfollows
  | undelivered hfate => exact hfollows.withFate .answered
  | again hfate hrest ih => exact ih (hfollows.withFate .answered)
  | lost hfate => exact hfollows.serve request
  | answered hfate => exact hfollows.serve request

theorem exists_number_of_fate {fate : Fate} (hfate : line.fate schedule request = fate) :
    ∀ attempt ∈ [((.request request : Received), fate)], attempt.1 = .request request ∧
      ∃ number, schedule number attempt.1 = attempt.2 := by
  intro attempt hattempt
  rw [List.mem_singleton.mp hattempt]
  exact ⟨rfl, line.attempts.length, hfate⟩

theorem Delivery.exists_made {retries : Nat} {result : Except SearchError Response} {line' : Line}
    (hdelivery : line.Delivery schedule request retries result line') :
    ∃ made, line'.attempts = line.attempts ++ made ∧
      ∀ attempt ∈ made, attempt.1 = .request request ∧
        ∃ number, schedule number attempt.1 = attempt.2 := by
  induction hdelivery with
  | refused hencode => exact ⟨[], (List.append_nil _).symm, by simp⟩
  | undelivered hfate => exact ⟨_, rfl, exists_number_of_fate hfate⟩
  | again hfate hrest ih =>
    obtain ⟨made, hmade, hfates⟩ := ih
    refine ⟨_ ++ made, hmade.trans (List.append_assoc _ _ _), ?_⟩
    intro attempt hattempt
    rw [List.mem_append] at hattempt
    cases hattempt with
    | inl hfirst => exact exists_number_of_fate hfate attempt hfirst
    | inr hlater => exact hfates attempt hlater
  | lost hfate => exact ⟨_, rfl, exists_number_of_fate hfate⟩
  | answered hfate => exact ⟨_, rfl, exists_number_of_fate hfate⟩

theorem Delivery.exists_reply {P : Line → Prop} (hdelivers : schedule.Delivers retries)
    (hencode : ∃ bytes, request.encode = .ok bytes)
    (hmiss : ∀ line, P line → P (line.miss request)) (h : P line)
    (hdelivery : line.Delivery schedule request retries result line') :
    ∃ served, P served ∧ served.Reply schedule request result line' := by
  -- The number of attempts that may still fail goes down with the retries that are left.
  replace hdelivers : ∃ k ≤ retries,
      schedule (line.attempts.length + k) (.request request) ≠ .undelivered :=
    hdelivers line.attempts.length (.request request)
  induction hdelivery with
  | refused hrefused =>
    obtain ⟨bytes, hencode⟩ := hencode
    rw [hencode] at hrefused
    cases hrefused
  | undelivered hfate =>
    obtain ⟨k, hk, hdelivered⟩ := hdelivers
    obtain rfl : k = 0 := by omega
    exact absurd hfate hdelivered
  | @again retries line line' result hfate hrest ih =>
    apply ih (hmiss line h)
    obtain ⟨k, hk, hdelivered⟩ := hdelivers
    cases k with
    | zero => exact absurd hfate hdelivered
    | succ k =>
      refine ⟨k, by omega, ?_⟩
      simp only [miss, List.length_append, List.length_singleton]
      rw [Nat.add_assoc, Nat.add_comm 1 k]
      exact hdelivered
  | @lost retries line failure hfate => exact ⟨line, h, .lost hfate⟩
  | @answered retries line hfate => exact ⟨line, h, .answered hfate⟩

theorem mem_pageFates {handle : UInt32} {fate : Fate} (h : fate ∈ line.pageFates handle) :
    (.request (.existing handle), fate) ∈ line.attempts ∧ fate ≠ .undelivered := by
  unfold pageFates at h
  rw [List.mem_filterMap] at h
  obtain ⟨⟨received, recorded⟩, hmem, hfate⟩ := h
  split at hfate
  next other recorded' heq =>
    split at hfate
    next hcond =>
      rw [Option.some.injEq] at hfate
      obtain ⟨rfl, hdelivered⟩ := hcond
      subst hfate
      rw [heq] at hmem
      exact ⟨hmem, hdelivered⟩
    next => cases hfate
  next => cases hfate
  next => cases hfate

theorem pageFates_miss (line : Line) (request : Request) (handle : UInt32) :
    (line.miss request).pageFates handle = line.pageFates handle := by
  unfold pageFates miss
  rw [List.filterMap_append]
  cases request <;> simp

theorem pageFates_serve_new (line : Line) (key : Text) (fate : Fate) (handle : UInt32) :
    (line.serve (.new key) fate).pageFates handle = line.pageFates handle := by
  unfold pageFates serve
  rw [List.filterMap_append]
  simp

theorem pageFates_serve_existing (line : Line) {fate : Fate} (hfate : fate ≠ .undelivered)
    (other handle : UInt32) :
    (line.serve (.existing other) fate).pageFates handle =
      if other = handle then line.pageFates handle ++ [fate] else line.pageFates handle := by
  unfold pageFates serve
  rw [List.filterMap_append]
  by_cases hhandle : other = handle
  · simp [hhandle, hfate]
  · simp [hhandle]

theorem Recorded.deliver {result : Except SearchError Response} (h : line.Recorded schedule)
    (hdelivery : line.Delivery schedule request retries result line') :
    line'.Recorded schedule := by
  obtain ⟨made, hmade, hfates⟩ := hdelivery.exists_made
  intro attempt hattempt
  rw [hmade, List.mem_append] at hattempt
  cases hattempt with
  | inl hbefore => exact h attempt hbefore
  | inr hnow => exact (hfates attempt hnow).2

theorem recorded_of_sent {script : Script} {config : ClientConfig}
    {result : Except SearchError Response}
    (h : line.backend.Follows script ∧ line.Recorded schedule)
    (hsent : ClientM.sent (link schedule) config request line = (result, line')) :
    line'.backend.Follows script ∧ line'.Recorded schedule := by
  have hdelivery := delivery_of_sent h.1.replaced hsent
  exact ⟨hdelivery.follows h.1, h.2.deliver hdelivery⟩

theorem Recorded.fate_eq_answered {handle : UInt32} (h : line.Recorded schedule)
    (hanswered : ∀ number, schedule number (.request (.existing handle)) ≠ .lost) :
    ∀ fate ∈ line.pageFates handle, fate = .answered := by
  intro fate hfate
  obtain ⟨hmem, hdelivered⟩ := mem_pageFates hfate
  obtain ⟨number, hnumber⟩ := h _ hmem
  cases fate with
  | undelivered => exact absurd rfl hdelivered
  | lost => exact absurd hnumber (hanswered number)
  | answered => rfl

end Line

end BooleanSearch
