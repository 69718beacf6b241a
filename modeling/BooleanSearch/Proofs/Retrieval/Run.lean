import BooleanSearch.Retrieval.Client

/-!
This module contains what a client does when the other end of its link is a state, so that a run is a
function. A run gives the result, what became of the client, and the state of the other end.
-/

namespace BooleanSearch

theorem eq_ok_of_toOption {ε α : Type} {x : Except ε α} {a : α}
    (h : x.toOption = some a) : x = .ok a := by
  cases x with
  | ok b => simpa [Except.toOption] using h
  | error e => simp [Except.toOption] at h

section

variable {σ τ α β : Type}

/--
What comes of an action that works on two states, with the states afterwards.
-/
def runOn (x : ExceptT SearchError (StateT τ (StateM σ)) α) (state : τ) (s : σ) :
    Except SearchError α × τ × σ :=
  let ((result, state), s) := (x.run.run state).run s
  (result, state, s)

theorem runOn_bind (x : ExceptT SearchError (StateT τ (StateM σ)) α)
    (f : α → ExceptT SearchError (StateT τ (StateM σ)) β) (state : τ) (s : σ) :
    runOn (x >>= f) state s =
      match runOn x state s with
      | (.ok a, state, s) => runOn (f a) state s
      | (.error e, state, s) => (.error e, state, s) := by
  simp only [runOn, ExceptT.run_bind, StateT.run_bind]
  show _ = _
  rcases StateT.run (StateT.run (ExceptT.run x) state) s with ⟨⟨result, state'⟩, s'⟩
  cases result <;> rfl

theorem runOn_map (f : α → β) (x : ExceptT SearchError (StateT τ (StateM σ)) α) (state : τ)
    (s : σ) :
    runOn (f <$> x) state s = ((runOn x state s).1.map f, (runOn x state s).2) := by
  rw [← bind_pure_comp, runOn_bind]
  rcases runOn x state s with ⟨result, state, s⟩
  cases result <;> rfl

@[simp]
theorem runOn_get (state : τ) (s : σ) :
    runOn (get : ExceptT SearchError (StateT τ (StateM σ)) τ) state s = (.ok state, state, s) := rfl

@[simp]
theorem runOn_liftState (x : StateM σ α) (state : τ) (s : σ) :
    runOn (liftM x : ExceptT SearchError (StateT τ (StateM σ)) α) state s =
      (.ok (x.run s).1, state, (x.run s).2) := rfl

@[simp]
theorem runOn_liftExcept (x : Except SearchError α) (state : τ) (s : σ) :
    runOn (liftM x : ExceptT SearchError (StateT τ (StateM σ)) α) state s = (x, state, s) := by
  cases x <;> rfl

end

namespace ClientM

variable {σ α β : Type}

@[simp]
theorem runOn_modifySession (f : Session → Session) (client : ClientState) (s : σ) :
    runOn (modifySession f : ClientM (StateM σ) Unit) client s =
      (.ok (), { client with session := f client.session }, s) := rfl

@[simp]
theorem runOn_modifyMetrics (f : Metrics → Metrics) (client : ClientState) (s : σ) :
    runOn (modifyMetrics f : ClientM (StateM σ) Unit) client s =
      (.ok (), { client with metrics := f client.metrics }, s) := rfl

variable (link : Link (StateM σ)) (config : ClientConfig)

def sent (request : Request) (s : σ) : Except SearchError Response × σ :=
  let (result, _, s) := runOn (send link config request) {} s
  (result, s)

theorem sent_of_encode_eq_error {request : Request} {e : SearchError}
    (hencode : request.encode = .error e) (s : σ) : sent link config request s = (.error e, s) := by
  unfold sent send
  simp only [runOn_bind, runOn_liftExcept, hencode]

theorem sent_of_encode_eq_ok {request : Request} {bytes : Bytes}
    (hencode : request.encode = .ok bytes) (s : σ) :
    sent link config request s =
      let run := runOn (deliver link request.kind bytes config.retryBackoffMs
        config.transportRetries config.retryBackoffMs) {} s
      (run.1.bind Response.decode, run.2.2) := by
  unfold sent send
  simp only [runOn_bind, runOn_liftExcept, hencode]
  rcases runOn (deliver link request.kind bytes config.retryBackoffMs config.transportRetries
    config.retryBackoffMs) {} s with ⟨response, client, s'⟩
  cases response <;> rfl

theorem runOn_deliver (kind : Text) (bytes : Bytes) (backoff retries pause : Nat)
    (client : ClientState) (s : σ) :
    runOn (deliver link kind bytes backoff retries pause) client s =
      let client := { client with metrics := client.metrics.countRequest kind }
      match ((link.exchange bytes).run s).1, retries with
      | .ok response, _ => (.ok response, client, ((link.exchange bytes).run s).2)
      | .error e, 0 => (.error e, client, ((link.exchange bytes).run s).2)
      | .error e, retries + 1 =>
        if e.isRetriable then
          runOn (deliver link kind bytes backoff retries (pause + backoff)) client
            ((link.pause pause).run ((link.exchange bytes).run s).2).2
        else
          (.error e, client, ((link.exchange bytes).run s).2) := by
  rw [deliver]
  simp only [runOn_bind, runOn_modifyMetrics, runOn_liftState]
  cases h : ((link.exchange bytes).run s).1 with
  | ok response => rfl
  | error e =>
    cases retries with
    | zero => rfl
    | succ retries =>
      by_cases hretriable : e.isRetriable = true
      · simp only [hretriable, ↓reduceIte, runOn_bind, runOn_liftState]
      · simp only [hretriable]
        rfl

theorem runOn_deliver_congr (kind : Text) (bytes : Bytes) (backoff retries pause : Nat)
    (client other : ClientState) (s : σ) :
    ∃ metrics,
      runOn (deliver link kind bytes backoff retries pause) client s =
        ((runOn (deliver link kind bytes backoff retries pause) other s).1,
          { client with metrics },
          (runOn (deliver link kind bytes backoff retries pause) other s).2.2) := by
  induction retries generalizing pause client other s with
  | zero =>
    rw [runOn_deliver, runOn_deliver]
    cases ((link.exchange bytes).run s).1 with
    | ok response => exact ⟨_, rfl⟩
    | error e => exact ⟨_, rfl⟩
  | succ retries ih =>
    rw [runOn_deliver, runOn_deliver]
    cases ((link.exchange bytes).run s).1 with
    | ok response => exact ⟨_, rfl⟩
    | error e =>
      by_cases hretriable : e.isRetriable = true
      · simp only [hretriable, ↓reduceIte]
        obtain ⟨metrics, h⟩ := ih (pause + backoff)
          { client with metrics := client.metrics.countRequest kind }
          { other with metrics := other.metrics.countRequest kind }
          ((link.pause pause).run ((link.exchange bytes).run s).2).2
        exact ⟨metrics, h⟩
      · simp only [hretriable]
        exact ⟨_, rfl⟩

theorem runOn_send (request : Request) (client : ClientState) (s : σ) :
    ∃ metrics,
      runOn (send link config request) client s =
        ((sent link config request s).1, { client with metrics },
          (sent link config request s).2) := by
  unfold sent send
  simp only [runOn_bind, runOn_liftExcept]
  cases request.encode with
  | error e => exact ⟨_, rfl⟩
  | ok bytes =>
    obtain ⟨metrics, h⟩ := runOn_deliver_congr link request.kind bytes config.retryBackoffMs
      config.transportRetries config.retryBackoffMs client {} s
    refine ⟨metrics, ?_⟩
    simp only [h]
    rcases runOn (deliver link request.kind bytes config.retryBackoffMs config.transportRetries
      config.retryBackoffMs) {} s with ⟨result, client', s'⟩
    cases result <;> rfl

end ClientM

end BooleanSearch
