import BooleanSearch.Proofs.Retrieval.Correspondence
import BooleanSearch.Proofs.Retrieval.SingleDelivery
import BooleanSearch.Simulated.Backend

/-!
This module contains the theorem that failures before delivery cannot be seen afterwards, unless there
are more of them than retries: then nothing has reached the backend.
-/

namespace BooleanSearch

namespace SimulatedBackend

def failing (backend : SimulatedBackend) (failures : Nat) : SimulatedBackend :=
  { backend with undelivered := failures }

theorem isRetriable_of_respond {backend : SimulatedBackend} {bytes : Bytes} {e : SearchError}
    (h : (backend.respond bytes).1 = .error e) : e.isRetriable = false := by
  unfold respond at h
  dsimp only at h
  split at h
  next =>
    cases h
    rfl
  next => cases h

theorem undelivered_respond (backend : SimulatedBackend) (bytes : Bytes) :
    (backend.respond bytes).2.undelivered = backend.undelivered := by
  have hact (backend : SimulatedBackend) (received : Received) :
      (act backend received).2.undelivered = backend.undelivered := by
    unfold act
    split
    · split <;> rfl
    · split <;> rfl
    · rfl
  unfold respond
  dsimp only
  split <;> exact hact _ _

theorem runOn_deliver_reached (backend : SimulatedBackend) (kind : Text) (bytes : Bytes)
    (backoff retries pause : Nat) (client : ClientState) :
    ∃ metrics,
      runOn (ClientM.deliver link kind bytes backoff retries pause) client (backend.failing 0) =
        (((backend.failing 0).respond bytes).1, { client with metrics },
          ((backend.failing 0).respond bytes).2) := by
  have hexchange : (link.exchange bytes).run (backend.failing 0) =
      (backend.failing 0).respond bytes := rfl
  rw [ClientM.runOn_deliver, hexchange]
  cases hresult : ((backend.failing 0).respond bytes).1 with
  | ok response => exact ⟨_, rfl⟩
  | error e =>
    have hfinal := isRetriable_of_respond hresult
    cases retries with
    | zero => exact ⟨_, rfl⟩
    | succ retries =>
      simp only [hfinal, Bool.false_eq_true, if_false]
      exact ⟨_, rfl⟩

theorem runOn_deliver_failing (backend : SimulatedBackend) (kind : Text) (bytes : Bytes)
    (backoff retries pause failures : Nat) (client : ClientState) :
    ∃ metrics,
      runOn (ClientM.deliver link kind bytes backoff retries pause) client
          (backend.failing failures) =
        if failures ≤ retries then
          (((backend.failing 0).respond bytes).1, { client with metrics },
            ((backend.failing 0).respond bytes).2)
        else
          (.error (.requestNotDelivered (.other "scripted transport failure".toList)),
            { client with metrics }, backend.failing (failures - (retries + 1))) := by
  induction retries generalizing pause failures client with
  | zero =>
    cases failures with
    | zero => exact runOn_deliver_reached backend kind bytes backoff 0 pause client
    | succ failures =>
      refine ⟨client.metrics.countRequest kind, ?_⟩
      rw [if_neg (by omega), ClientM.runOn_deliver]
      rfl
  | succ retries ih =>
    cases failures with
    | zero => exact runOn_deliver_reached backend kind bytes backoff (retries + 1) pause client
    | succ failures =>
      obtain ⟨metrics, hrest⟩ := ih (pause + backoff) failures
        { client with metrics := client.metrics.countRequest kind }
      refine ⟨metrics, ?_⟩
      simp only [Nat.add_le_add_iff_right, Nat.add_sub_add_right]
      rw [ClientM.runOn_deliver]
      exact hrest

theorem sent_failing (backend : SimulatedBackend) (config : ClientConfig) {request : Request}
    {bytes : Bytes} (hencode : request.encode = .ok bytes) (failures : Nat) :
    ClientM.sent link config request (backend.failing failures) =
      if failures ≤ config.transportRetries then
        (((backend.failing 0).respond bytes).1.bind Response.decode,
          ((backend.failing 0).respond bytes).2)
      else
        (.error (.requestNotDelivered (.other "scripted transport failure".toList)),
          backend.failing (failures - (config.transportRetries + 1))) := by
  obtain ⟨metrics, hdeliver⟩ := runOn_deliver_failing backend request.kind bytes
    config.retryBackoffMs config.transportRetries config.retryBackoffMs failures {}
  rw [ClientM.sent_of_encode_eq_ok link config hencode, hdeliver]
  split <;> rfl

/--
The second backend is the first one without the failures before delivery, and there are not too many.
-/
def Recovers (retries : Nat) (backend backend' : SimulatedBackend) : Prop :=
  backend.undelivered ≤ retries ∧ backend' = backend.failing 0

theorem recovers_failing {retries failures : Nat} (h : failures ≤ retries)
    (backend : SimulatedBackend) :
    Recovers retries (backend.failing failures) (backend.failing 0) :=
  ⟨h, rfl⟩

theorem recovers_self {backend : SimulatedBackend} (h : backend.undelivered = 0) (retries : Nat) :
    Recovers retries backend backend := by
  refine ⟨?_, ?_⟩
  · rw [h]
    exact Nat.zero_le _
  · rw [failing, ← h]

theorem recovers_sent (config : ClientConfig) (request : Request)
    (backend backend' : SimulatedBackend)
    (h : Recovers config.transportRetries backend backend') :
    (ClientM.sent link config request backend).1 = (ClientM.sent link config request backend').1 ∧
      Recovers config.transportRetries (ClientM.sent link config request backend).2
        (ClientM.sent link config request backend').2 := by
  obtain ⟨hfailures, rfl⟩ := h
  cases hencode : request.encode with
  | error e =>
    rw [ClientM.sent_of_encode_eq_error link config hencode,
      ClientM.sent_of_encode_eq_error link config hencode]
    exact ⟨rfl, hfailures, rfl⟩
  | ok bytes =>
    have hsent := sent_failing backend config hencode backend.undelivered
    rw [if_pos hfailures] at hsent
    have hsent' := sent_failing backend config hencode 0
    rw [if_pos (Nat.zero_le _), ← hsent] at hsent'
    have hreached : (ClientM.sent link config request backend).2.undelivered = 0 := by
      show (ClientM.sent link config request (backend.failing backend.undelivered)).2.undelivered = 0
      rw [hsent]
      exact undelivered_respond (backend.failing 0) bytes
    rw [hsent']
    exact ⟨rfl, recovers_self hreached _⟩

def Unreached (backend : SimulatedBackend) (e : SearchError) (backend' : SimulatedBackend) : Prop :=
  backend'.slots = backend.slots ∧ backend'.received = backend.received ∧
    (backend' = backend ∨ ∃ failure, e = .requestNotDelivered failure)

theorem sendFails_failing (backend : SimulatedBackend) (config : ClientConfig) {failures : Nat}
    (h : config.transportRetries < failures) :
    ClientM.SendFails link config (backend.failing failures) (Unreached (backend.failing failures)) := by
  intro request
  cases hencode : request.encode with
  | error e =>
    exact ⟨e, _, ClientM.sent_of_encode_eq_error link config hencode _, rfl, rfl, .inl rfl⟩
  | ok bytes =>
    have hsent := sent_failing backend config hencode failures
    rw [if_neg (Nat.not_le.mpr h)] at hsent
    exact ⟨_, _, hsent, rfl, rfl, .inr ⟨_, rfl⟩⟩

/--
What an action comes to is not changed by as many failures before delivery as there are retries. With
more failures than that, nothing reaches the backend.
-/
structure Masks (retries : Nat) {α : Type} (action : ClientM (StateM SimulatedBackend) α) : Prop where
  masked : ∀ client (backend : SimulatedBackend) failures, failures ≤ retries →
    let run := runOn action client (backend.failing failures)
    let run' := runOn action client (backend.failing 0)
    run.1 = run'.1 ∧ run.2.1.session = run'.2.1.session ∧ run.2.2.slots = run'.2.2.slots ∧
      run.2.2.received = run'.2.2.received
  unreached : ∀ client (backend : SimulatedBackend) failures, retries < failures →
    let run := runOn action client (backend.failing failures)
    run.2.2.slots = backend.slots ∧ run.2.2.received = backend.received ∧
      (run.2.2 = backend.failing failures ∨ ∃ failure, run.1 = .error (.requestNotDelivered failure))

theorem masked_of_agree {α : Type} {retries : Nat} {action : ClientM (StateM SimulatedBackend) α}
    (h : ClientM.Agree (Recovers retries) action action) (client : ClientState)
    (backend : SimulatedBackend) {failures : Nat} (hfailures : failures ≤ retries) :
    let run := runOn action client (backend.failing failures)
    let run' := runOn action client (backend.failing 0)
    run.1 = run'.1 ∧ run.2.1.session = run'.2.1.session ∧ run.2.2.slots = run'.2.2.slots ∧
      run.2.2.received = run'.2.2.received := by
  obtain ⟨hresult, hsession, -, hbackend⟩ :=
    h client client _ _ rfl (recovers_failing hfailures backend)
  dsimp only
  rw [hbackend]
  exact ⟨hresult, hsession, rfl, rfl⟩

theorem masks_send (config : ClientConfig) (request : Request) :
    Masks config.transportRetries (ClientM.send link config request) where
  masked client backend failures h :=
    masked_of_agree (.send (recovers_sent config request)) client backend h
  unreached client backend failures h := by
    obtain ⟨metrics, hrun⟩ :=
      ClientM.runOn_send link config request client (backend.failing failures)
    obtain ⟨e, backend', hsent, hslots, hreceived, hunreached⟩ :=
      sendFails_failing backend config h request
    rw [hrun, hsent]
    refine ⟨hslots, hreceived, hunreached.imp_right ?_⟩
    rintro ⟨failure, rfl⟩
    exact ⟨failure, rfl⟩

theorem send_unreached (config : ClientConfig) {request : Request} {bytes : Bytes}
    (hencode : request.encode = .ok bytes) (client : ClientState) (backend : SimulatedBackend)
    {failures : Nat} (h : config.transportRetries < failures) :
    ∃ failure, (runOn (ClientM.send link config request) client (backend.failing failures)).1 =
      .error (.requestNotDelivered failure) := by
  obtain ⟨metrics, hrun⟩ :=
    ClientM.runOn_send link config request client (backend.failing failures)
  rw [hrun, sent_failing backend config hencode, if_neg (Nat.not_le.mpr h)]
  exact ⟨_, rfl⟩

theorem masks_fetchPage (config : ClientConfig) (expr : ResolvedExpr) (page : Nat) :
    Masks config.transportRetries (ClientM.fetchPage link config expr page) where
  masked client backend failures h :=
    masked_of_agree ((ClientM.Agree.parametric (recovers_sent config)).fetchPage (.modifyMetrics _) expr page)
      client backend h
  unreached client backend failures h := by
    have hrun := ClientM.fetchPage_run link config expr page client (backend.failing failures)
    rcases hrun.of_sendFails (sendFails_failing backend config h) with
      hnone | ⟨e, hresult, hslots, hreceived, hunreached⟩
    · dsimp only
      rw [hnone]
      exact ⟨rfl, rfl, .inl rfl⟩
    · refine ⟨hslots, hreceived, hunreached.imp_right ?_⟩
      rintro ⟨failure, rfl⟩
      exact ⟨failure, hresult⟩

end SimulatedBackend

/--
On any link, a request is sent up to once more than there are retries, always with the same bytes, and
again only if it has not been delivered; and a query is registered at most once. On the link to a
simulated backend, failures before delivery change nothing while there are retries left; after that,
a request fails and the backend has seen nothing of it.
-/
theorem delivered_at_most_once (config : ClientConfig) :
    (∀ {σ : Type} (link : Link (StateM σ)) (request : Request) (client : ClientState)
      (record : Record σ),
      let run := runOn (ClientM.send link.recorded config request) client record
      ∃ made, run.2.2.exchanges = record.exchanges ++ made ∧
        made.length ≤ config.transportRetries + 1 ∧
        (∀ bytes, request.encode = .ok bytes → made ≠ []) ∧
        (∀ exchange ∈ made, request.encode = .ok exchange.request) ∧
        (∀ exchange ∈ made.dropLast,
          ∃ failure, exchange.result = .error (.requestNotDelivered failure)) ∧
        made.countP Exchange.isDelivered ≤ 1) ∧
    (∀ {σ : Type} (link : Link (StateM σ)) (s : σ) (calls : List (ResolvedExpr × Nat)) (key : Text),
      ((Connection.start s).after link config calls).record.exchanges.countP
        (Exchange.registers key) ≤ 1) ∧
    (∀ request, SimulatedBackend.Masks config.transportRetries
      (ClientM.send SimulatedBackend.link config request)) ∧
    (∀ request bytes client (backend : SimulatedBackend) failures, request.encode = .ok bytes →
      config.transportRetries < failures →
      ∃ failure, (runOn (ClientM.send SimulatedBackend.link config request) client
        (backend.failing failures)).1 = .error (.requestNotDelivered failure)) ∧
    ∀ expr page, SimulatedBackend.Masks config.transportRetries
      (ClientM.fetchPage SimulatedBackend.link config expr page) := by
  refine ⟨?_, ?_, SimulatedBackend.masks_send config, ?_, SimulatedBackend.masks_fetchPage config⟩
  · intro σ link request client record
    obtain ⟨metrics, hrun⟩ := ClientM.runOn_send link.recorded config request client record
    have hsent : ClientM.sent link.recorded config request record =
        ((ClientM.sent link.recorded config request record).1,
          (ClientM.sent link.recorded config request record).2) := rfl
    obtain ⟨made, hmade, hattempts⟩ := ClientM.attempts_of_sent link config hsent
    dsimp only
    rw [hrun]
    exact ⟨made, hmade, hattempts.length_le, fun _ => hattempts.ne_nil, hattempts.encode_eq,
      hattempts.undelivered_of_mem_dropLast, hattempts.countP_isDelivered_le⟩
  · intro σ link s calls key
    exact Connection.countP_registers_after_le link config s calls key
  · intro request bytes client backend failures hencode h
    exact SimulatedBackend.send_unreached config hencode client backend h

namespace LateDelivery

def query : ResolvedExpr := ⟨[.term 1]⟩

def backend : SimulatedBackend := { results := (∅ : Table _).insert query.wire [1, 2, 3] }

theorem fetched_after_one_failure :
    let run (failures : Nat) :=
      runOn (ClientM.fetchPage SimulatedBackend.link {} query 0) {} (backend.failing failures)
    (run 1).1 = .ok [1, 2, 3] ∧
      (run 1).2.2.received = [.request (.new query.wire), .request (.existing 0)] ∧
      (∃ failure, (run 2).1 = .error (.requestNotDelivered failure)) ∧
      (run 2).2.2.received = [] := by
  obtain ⟨-, -, -, -, hfetch⟩ := delivered_at_most_once {}
  obtain ⟨hmasked, hunreached⟩ := hfetch query 0
  obtain ⟨hresult, -, -, hreceived⟩ := hmasked {} backend 1 (by decide)
  obtain ⟨-, hnothing, hfailed⟩ := hunreached {} backend 2 (by decide)
  dsimp only at *
  refine ⟨?_, ?_, ?_, hnothing⟩
  · rw [hresult]
    apply eq_ok_of_toOption
    decide +kernel
  · rw [hreceived]
    decide +kernel
  · refine hfailed.resolve_left fun hunchanged => ?_
    have hcount := congrArg SimulatedBackend.undelivered hunchanged
    revert hcount
    decide +kernel

end LateDelivery

end BooleanSearch
