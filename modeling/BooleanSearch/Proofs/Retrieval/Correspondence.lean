import BooleanSearch.Proofs.Retrieval.Run

/-!
This module contains the comparison of two runs of a client, each with another end of its own. If the
other ends correspond to each other and requests are answered alike, fetches go alike. Metrics are not
compared, since a request may have been sent more often in one run than in the other.
-/

namespace BooleanSearch

namespace ClientM

def askFor {m : Type → Type} [Monad m] (link : Link m) (config : ClientConfig) (key : Text)
    (handle : UInt32) (covered page : Nat) : ClientM m (List UInt32) := do
  fetchFurther link config key handle (page + 1 - covered) covered
  match ((← get).session.cached key).page? page config.fullPage with
  | some ids => return ids
  | none => throw (.noResults page)

/--
A relation that is kept by the steps of which the work of a client is made up. What a step does next may
depend on the session, but on nothing else that the client keeps.
-/
structure Parametric {m n : Type → Type} [Monad m] [Monad n] (link : Link m) (link' : Link n)
    (config : ClientConfig) (R : {α : Type} → ClientM m α → ClientM n α → Prop) : Prop where
  pure {α : Type} (a : α) : R (pure a) (pure a)
  throw {α : Type} (e : SearchError) : R (throw e : ClientM m α) (throw e)
  bind {α β : Type} {x : ClientM m α} {y : ClientM n α} {f : α → ClientM m β} {g : α → ClientM n β}
    (hx : R x y) (hf : ∀ a, R (f a) (g a)) : R (x >>= f) (y >>= g)
  get_bind {α : Type} {f : ClientState → ClientM m α} {g : ClientState → ClientM n α}
    (hf : ∀ client client', client.session = client'.session → R (f client) (g client')) :
    R (get >>= f) (get >>= g)
  modifySession (f : Session → Session) : R (modifySession f) (modifySession f)
  send (request : Request) : R (send link config request) (send link' config request)

namespace Parametric

variable {m n : Type → Type} [Monad m] [Monad n] {link : Link m} {link' : Link n}
variable {config : ClientConfig} {R : {α : Type} → ClientM m α → ClientM n α → Prop}

theorem handleOf (h : Parametric link link' config R) (key : Text) :
    R (handleOf link config key) (handleOf link' config key) := by
  unfold ClientM.handleOf
  apply h.get_bind
  intro client client' hsession
  rw [hsession]
  cases client'.session.handle? key with
  | some handle => exact h.pure handle
  | none =>
    apply h.get_bind
    intro client client' hsession
    rw [hsession]
    apply h.bind (h.modifySession _)
    intro _
    apply h.bind (h.send (.new key))
    intro response
    cases response with
    | bad => exact h.throw _
    | ok | payload | unrecognized => exact h.bind (h.modifySession _) fun _ => h.pure _

theorem fetchFurther (h : Parametric link link' config R) (key : Text) (handle : UInt32)
    (count page : Nat) :
    R (fetchFurther link config key handle count page)
      (fetchFurther link' config key handle count page) := by
  induction count generalizing page with
  | zero => exact h.pure ()
  | succ count ih =>
    unfold ClientM.fetchFurther
    apply h.bind (h.send (.existing handle))
    intro response
    cases response with
    | bad => exact h.throw _
    | ok | unrecognized => exact h.pure ()
    | payload ids =>
      dsimp only
      split
      · exact h.pure ()
      · apply h.bind (h.modifySession _)
        intro _
        split
        · exact h.pure ()
        · exact ih (page + 1)

theorem askFor (h : Parametric link link' config R) (key : Text) (handle : UInt32)
    (covered page : Nat) :
    R (askFor link config key handle covered page) (askFor link' config key handle covered page) := by
  apply h.bind (h.fetchFurther key handle _ _)
  intro _
  apply h.get_bind
  intro client client' hsession
  rw [hsession]
  cases (client'.session.cached key).page? page config.fullPage with
  | some ids => exact h.pure ids
  | none => exact h.throw _

theorem fetchPage (h : Parametric link link' config R)
    (hhit : R (modifyMetrics (·.countCacheHit)) (modifyMetrics (·.countCacheHit)))
    (expr : ResolvedExpr) (page : Nat) :
    R (fetchPage link config expr page) (fetchPage link' config expr page) := by
  unfold ClientM.fetchPage
  apply h.bind (h.handleOf expr.wire)
  intro handle
  apply h.bind (h.modifySession _)
  intro _
  apply h.get_bind
  intro client client' hsession
  rw [hsession]
  dsimp only
  cases (client'.session.cached expr.wire).page? page config.fullPage with
  | some ids => exact h.bind hhit fun _ => h.pure ids
  | none =>
    dsimp only
    split
    · exact h.throw _
    · exact h.askFor expr.wire handle _ page

end Parametric

variable {σ τ α β : Type} {related : σ → τ → Prop}

structure Matches (related : σ → τ → Prop) (run : Except SearchError α × ClientState × σ)
    (run' : Except SearchError α × ClientState × τ) : Prop where
  result : run.1 = run'.1
  session : run.2.1.session = run'.2.1.session
  other : related run.2.2 run'.2.2

/--
Two actions match whenever they are run from the same session and from other ends that correspond.
-/
def Agree (related : σ → τ → Prop) (x : ClientM (StateM σ) α) (y : ClientM (StateM τ) α) : Prop :=
  ∀ client client' s t, client.session = client'.session → related s t →
    Matches related (runOn x client s) (runOn y client' t)

namespace Agree

theorem pure (a : α) : Agree related (pure a) (pure a) :=
  fun _ _ _ _ hsession hrelated => ⟨rfl, hsession, hrelated⟩

theorem throw (e : SearchError) :
    Agree related (throw e : ClientM (StateM σ) α) (throw e : ClientM (StateM τ) α) :=
  fun _ _ _ _ hsession hrelated => ⟨rfl, hsession, hrelated⟩

theorem modifySession (f : Session → Session) :
    Agree related (ClientM.modifySession f) (ClientM.modifySession f) :=
  fun _ _ _ _ hsession hrelated => ⟨rfl, congrArg f hsession, hrelated⟩

theorem modifyMetrics (f : Metrics → Metrics) :
    Agree related (ClientM.modifyMetrics f) (ClientM.modifyMetrics f) :=
  fun _ _ _ _ hsession hrelated => ⟨rfl, hsession, hrelated⟩

theorem bind {x : ClientM (StateM σ) α} {y : ClientM (StateM τ) α}
    {f : α → ClientM (StateM σ) β} {g : α → ClientM (StateM τ) β} (hx : Agree related x y)
    (hf : ∀ a, Agree related (f a) (g a)) : Agree related (x >>= f) (y >>= g) := by
  intro client client' s t hsession hrelated
  have hfirst := hx client client' s t hsession hrelated
  rw [runOn_bind, runOn_bind]
  revert hfirst
  rcases runOn x client s with ⟨result, client, s⟩
  rcases runOn y client' t with ⟨result', client', t⟩
  rintro ⟨hresult, hsession, hrelated⟩
  obtain rfl : result = result' := hresult
  cases result with
  | error e => exact ⟨rfl, hsession, hrelated⟩
  | ok a => exact hf a client client' s t hsession hrelated

theorem get_bind {f : ClientState → ClientM (StateM σ) α} {g : ClientState → ClientM (StateM τ) α}
    (hf : ∀ client client', client.session = client'.session → Agree related (f client) (g client')) :
    Agree related (get >>= f) (get >>= g) := by
  intro client client' s t hsession hrelated
  rw [runOn_bind, runOn_bind, runOn_get, runOn_get]
  exact hf client client' hsession client client' s t hsession hrelated

variable {link : Link (StateM σ)} {link' : Link (StateM τ)} {config : ClientConfig}

theorem send {request : Request}
    (hsent : ∀ s t, related s t →
      (sent link config request s).1 = (sent link' config request t).1 ∧
        related (sent link config request s).2 (sent link' config request t).2) :
    Agree related (send link config request) (send link' config request) := by
  intro client client' s t hsession hrelated
  obtain ⟨metrics, hrun⟩ := runOn_send link config request client s
  obtain ⟨metrics', hrun'⟩ := runOn_send link' config request client' t
  obtain ⟨hresult, hother⟩ := hsent s t hrelated
  rw [hrun, hrun']
  exact ⟨hresult, hsession, hother⟩

theorem parametric
    (hsent : ∀ request s t, related s t →
      (sent link config request s).1 = (sent link' config request t).1 ∧
        related (sent link config request s).2 (sent link' config request t).2) :
    Parametric link link' config (fun x y => Agree related x y) where
  pure := pure
  throw := throw
  bind := bind
  get_bind := get_bind
  modifySession := modifySession
  send := fun request => send (hsent request)

end Agree

end ClientM

end BooleanSearch
