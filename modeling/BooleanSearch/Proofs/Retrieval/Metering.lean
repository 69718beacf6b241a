import BooleanSearch.Proofs.Retrieval.Correspondence
import BooleanSearch.Proofs.Retrieval.SingleDelivery

/-!
This module contains what a client counts. Each exchange is counted under the kind of its request when
it is made, and a page counts as cached if and only if it is answered without any exchange.
-/

namespace BooleanSearch

variable {σ τ α β : Type}

/--
`Q` is kept by an action that works on a state, next to another end of its own.
-/
def Keeps (Q : τ → σ → Prop) (x : StateT τ (StateM σ) α) : Prop :=
  ∀ t s, Q t s → Q ((x.run t).run s).1.2 ((x.run t).run s).2

namespace Keeps

variable {Q : τ → σ → Prop}

theorem pure (a : α) : Keeps Q (pure a) := fun _ _ h => h

theorem bind {x : StateT τ (StateM σ) α} {f : α → StateT τ (StateM σ) β} (hx : Keeps Q x)
    (hf : ∀ a, Keeps Q (f a)) : Keeps Q (x >>= f) :=
  fun t s h => hf _ _ _ (hx t s h)

theorem throw (e : SearchError) :
    Keeps Q (throw e : ExceptT SearchError (StateT τ (StateM σ)) α).run := fun _ _ h => h

theorem bindExcept {x : ExceptT SearchError (StateT τ (StateM σ)) α}
    {f : α → ExceptT SearchError (StateT τ (StateM σ)) β} (hx : Keeps Q x.run)
    (hf : ∀ a, Keeps Q (f a).run) : Keeps Q (x >>= f).run := by
  rw [ExceptT.run_bind]
  apply hx.bind
  intro result
  cases result with
  | ok a => exact hf a
  | error e => exact .pure _

theorem get_bind {f : τ → ExceptT SearchError (StateT τ (StateM σ)) β}
    (hf : ∀ t, Keeps Q (f t).run) : Keeps Q (get >>= f).run :=
  fun t s h => hf t t s h

theorem modify {f : τ → τ} (hf : ∀ t s, Q t s → Q (f t) s) :
    Keeps Q (modify f : ExceptT SearchError (StateT τ (StateM σ)) Unit).run :=
  fun t s h => hf t s h

theorem lift {x : StateM σ α} (hx : ∀ t s, Q t s → Q t (x.run s).2) :
    Keeps Q (liftM x : ExceptT SearchError (StateT τ (StateM σ)) α).run :=
  fun t s h => hx t s h

theorem liftExcept (x : Except SearchError α) :
    Keeps Q (liftM x : ExceptT SearchError (StateT τ (StateM σ)) α).run := by
  intro t s h
  cases x <;> exact h

theorem liftExcept_bind {x : Except SearchError α}
    {f : α → ExceptT SearchError (StateT τ (StateM σ)) β}
    (hf : ∀ a, x = .ok a → Keeps Q (f a).run) :
    Keeps Q (liftM x >>= f : ExceptT SearchError (StateT τ (StateM σ)) β).run := by
  intro t s h
  cases x with
  | ok a => exact hf a rfl t s h
  | error e => exact h

end Keeps

def Exchange.kind (exchange : Exchange) : Text :=
  ((Request.decode? exchange.request).map Request.kind).getD []

theorem Exchange.kind_of_encode {request : Request} {bytes : Bytes}
    (hencode : request.encode = .ok bytes) (result : Except SearchError Bytes) :
    kind ⟨bytes, result⟩ = request.kind := by
  have hdecode := Request.decode?_of_encode hencode []
  rw [List.append_nil] at hdecode
  unfold kind
  rw [hdecode]
  rfl

def Metrics.countExchanges (metrics : Metrics) (made : List Exchange) : Metrics :=
  made.foldl (fun metrics exchange => metrics.countRequest exchange.kind) metrics

namespace ClientM

/--
`Q` is kept by all that a client does while it looks for a page, one thing at a time. A request is
counted just before its exchange, and only afterwards `Q` holds again.
-/
structure Endures (link : Link (StateM σ)) (Q : ClientState → σ → Prop) : Prop where
  exchange {request : Request} {bytes : Bytes} (hencode : request.encode = .ok bytes)
    (client : ClientState) (s : σ) (h : Q client s) :
    Q { client with metrics := client.metrics.countRequest request.kind }
      ((link.exchange bytes).run s).2
  pause (milliseconds : Nat) (client : ClientState) (s : σ) (h : Q client s) :
    Q client ((link.pause milliseconds).run s).2
  session (session : Session) (client : ClientState) (s : σ) (h : Q client s) :
    Q { client with session } s

namespace Endures

variable {link : Link (StateM σ)} {config : ClientConfig} {Q : ClientState → σ → Prop}

theorem modifySession (hQ : Endures link Q) (f : Session → Session) :
    Keeps Q (modifySession f).run :=
  .modify fun client s h => hQ.session (f client.session) client s h

theorem countRequest (hQ : Endures link Q) {request : Request} {bytes : Bytes}
    (hencode : request.encode = .ok bytes) {f : Except SearchError Bytes → ClientM (StateM σ) α}
    (hf : ∀ result, Keeps Q (f result).run) :
    Keeps Q (do
      modifyMetrics (·.countRequest request.kind)
      f (← link.exchange bytes) : ClientM (StateM σ) α).run :=
  fun client s h => hf _ _ _ (hQ.exchange hencode client s h)

theorem deliver (hQ : Endures link Q) {request : Request} {bytes : Bytes}
    (hencode : request.encode = .ok bytes) (backoff retries pause : Nat) :
    Keeps Q (deliver link request.kind bytes backoff retries pause).run := by
  induction retries generalizing pause with
  | zero =>
    rw [ClientM.deliver]
    apply hQ.countRequest hencode
    intro result
    cases result with
    | ok response => exact .pure _
    | error e => exact .throw e
  | succ retries ih =>
    rw [ClientM.deliver]
    apply hQ.countRequest hencode
    intro result
    cases result with
    | ok response => exact .pure _
    | error e =>
      dsimp only
      split
      · exact (Keeps.lift (hQ.pause pause)).bindExcept fun _ => ih (pause + backoff)
      · exact .throw e

theorem send (hQ : Endures link Q) (request : Request) : Keeps Q (send link config request).run := by
  unfold ClientM.send
  apply Keeps.liftExcept_bind
  intro bytes hencode
  exact (hQ.deliver hencode _ _ _).bindExcept fun response => .liftExcept _

theorem parametric (hQ : Endures link Q) :
    Parametric link link config (fun x _ => Keeps Q x.run) where
  pure := fun _ => .pure _
  throw := .throw
  bind := fun hx hf => hx.bindExcept hf
  get_bind := fun hf => .get_bind fun client => hf client client rfl
  modifySession := hQ.modifySession
  send := hQ.send

end Endures

/--
A client has made some exchanges and counted them, and has counted nothing else.
-/
def Meters (metrics : Metrics) (exchanges : List Exchange) (client : ClientState)
    (record : Record σ) : Prop :=
  ∃ made, record.exchanges = exchanges ++ made ∧ client.metrics = metrics.countExchanges made

theorem Meters.refl (client : ClientState) (record : Record σ) :
    Meters client.metrics record.exchanges client record :=
  ⟨[], (List.append_nil _).symm, rfl⟩

theorem endures_meters (link : Link (StateM σ)) (metrics : Metrics) (exchanges : List Exchange) :
    Endures link.recorded (Meters metrics exchanges) where
  exchange := by
    rintro request bytes hencode client record ⟨made, hexchanges, hmetrics⟩
    rw [Link.run_exchange_recorded]
    refine ⟨made ++ [⟨bytes, ((link.exchange bytes).run record.other).1⟩], ?_, ?_⟩
    · rw [hexchanges, List.append_assoc]
    · unfold Metrics.countExchanges at hmetrics ⊢
      rw [List.foldl_append, hmetrics, ← Exchange.kind_of_encode hencode]
      rfl
  pause := fun _ _ _ h => h
  session := fun _ _ _ h => h

variable {link : Link (StateM σ)} {config : ClientConfig} {client : ClientState} {record : Record σ}

theorem HandleRun.cached_eq {key : Text} {session session' : Session} {s s' : σ}
    {result : Except SearchError UInt32}
    (hrun : HandleRun link config key session s result session' s') (other : Text) :
    session'.cached other = session.cached other := by
  cases hrun with
  | known hknown => rfl
  | failed hnew hsent | rejected hnew hsent => exact Session.cached_register _ _ _
  | accepted hnew hsent hresponse =>
    rw [Session.cached_beginResults, Session.cached_register]

theorem HandleRun.isSome_handle? {key : Text} {session session' : Session} {s s' : σ}
    {result : Except SearchError UInt32}
    (hrun : HandleRun link config key session s result session' s') :
    (session'.handle? key).isSome := by
  cases hrun with
  | known hknown => rw [hknown]; rfl
  | failed hnew hsent | rejected hnew hsent =>
    rw [Session.handle?_register, if_pos rfl]
    rfl
  | accepted hnew hsent hresponse =>
    rw [Session.handle?_beginResults, Session.handle?_register, if_pos rfl]
    rfl

end ClientM

/--
Nothing has been fetched for a query without a handle.
-/
def Session.Owned (session : Session) : Prop :=
  ∀ key, session.handle? key = none → session.cached key = []

namespace ClientM

variable {link : Link (StateM σ)} {config : ClientConfig} {client : ClientState} {record : Record σ}
variable {session session' : Session} {record' : Record σ}

theorem FetchRun.isSome_handle? {key : Text} {page : Nat}
    {result : Except SearchError (List UInt32)}
    (hrun : FetchRun link.recorded config key page session record result session' record') :
    (session'.handle? key).isSome := by
  cases hrun with
  | refused hhandle => exact hhandle.isSome_handle?
  | handled hhandle hpage =>
    rw [hpage.handle?_eq, Session.handle?_beginResults]
    exact hhandle.isSome_handle?

theorem FetchRun.owned {key : Text} {page : Nat} {result : Except SearchError (List UInt32)}
    (howned : session.Owned)
    (hrun : FetchRun link.recorded config key page session record result session' record') :
    session'.Owned := by
  intro other hnone
  obtain ⟨_, -, hlearns⟩ := hrun.learnsFrom
  have hne : key ≠ other := by
    rintro rfl
    have hsome := hrun.isSome_handle?
    rw [hnone] at hsome
    cases hsome
  rw [hlearns.cached, if_neg hne]
  rw [hlearns.unchanged other hne] at hnone
  exact howned other hnone

theorem runOn_fetchPage_of_cached {expr : ResolvedExpr} {page : Nat} {ids : List UInt32}
    (howned : client.session.Owned)
    (hpage : (client.session.cached expr.wire).page? page config.fullPage = some ids) :
    runOn (fetchPage link.recorded config expr page) client record =
      (.ok ids,
        { session := client.session.beginResults expr.wire
          metrics := client.metrics.countCacheHit },
        record) := by
  cases hhandle : client.session.handle? expr.wire with
  | none =>
    rw [howned _ hhandle] at hpage
    simp [CachedResults.page?] at hpage
  | some handle =>
    have hhandleOf : runOn (handleOf link.recorded config expr.wire) client record =
        (.ok handle, client, record) := by
      unfold handleOf
      rw [runOn_bind, runOn_get]
      dsimp only
      rw [hhandle]
      rfl
    unfold fetchPage
    simp only [runOn_bind, hhandleOf, runOn_modifySession, runOn_get, Session.cached_beginResults,
      hpage, runOn_modifyMetrics]
    rfl

theorem meters_fetchPage_of_new {expr : ResolvedExpr} {page : Nat}
    (hpage : (client.session.cached expr.wire).page? page config.fullPage = none) :
    Meters client.metrics record.exchanges
      (runOn (fetchPage link.recorded config expr page) client record).2.1
      (runOn (fetchPage link.recorded config expr page) client record).2.2 := by
  have hmeters : Meters client.metrics record.exchanges
      (runOn (handleOf link.recorded config expr.wire) client record).2.1
      (runOn (handleOf link.recorded config expr.wire) client record).2.2 :=
    (endures_meters link _ _).parametric.handleOf expr.wire client record (.refl client record)
  have hcached := (handleOf_run link.recorded config expr.wire client record).cached_eq
    expr.wire
  unfold fetchPage
  rw [runOn_bind]
  revert hmeters hcached
  rcases runOn (handleOf link.recorded config expr.wire) client record with
    ⟨e | handle, client', record'⟩
  · exact fun hmeters _ => hmeters
  · intro hmeters hcached
    simp only [runOn_bind, runOn_modifySession, runOn_get, Session.cached_beginResults]
    dsimp only at hcached
    rw [hcached, hpage]
    dsimp only
    split
    · exact hmeters
    · exact (endures_meters link _ _).parametric.askFor expr.wire handle _ page
        { client' with session := client'.session.beginResults expr.wire } record' hmeters

theorem exists_made_of_fetchPage (link : Link (StateM σ)) (config : ClientConfig)
    (expr : ResolvedExpr) (page : Nat) (howned : client.session.Owned) (record : Record σ) :
    let run := runOn (fetchPage link.recorded config expr page) client record
    ∃ made, run.2.2.exchanges = record.exchanges ++ made ∧
      run.2.1.metrics =
        if run.1.isOk ∧ made = [] then
          client.metrics.countCacheHit
        else
          client.metrics.countExchanges made := by
  dsimp only
  cases hpage : (client.session.cached expr.wire).page? page config.fullPage with
  | some ids =>
    rw [runOn_fetchPage_of_cached howned hpage]
    exact ⟨[], (List.append_nil _).symm, rfl⟩
  | none =>
    have hmeters : Meters client.metrics record.exchanges
        (runOn (fetchPage link.recorded config expr page) client record).2.1
        (runOn (fetchPage link.recorded config expr page) client record).2.2 :=
      meters_fetchPage_of_new hpage
    obtain ⟨made, hmade, hmetrics⟩ := hmeters
    refine ⟨made, hmade, ?_⟩
    rw [hmetrics, if_neg]
    rintro ⟨hok, rfl⟩
    -- A page that was missing must have come with an exchange.
    have hrun := fetchPage_run link.recorded config expr page client record
    obtain ⟨ids, hids⟩ : ∃ ids,
        (runOn (fetchPage link.recorded config expr page) client record).1 = .ok ids := by
      revert hok
      cases (runOn (fetchPage link.recorded config expr page) client record).1 with
      | ok ids => exact fun _ => ⟨ids, rfl⟩
      | error e => exact nofun
    obtain ⟨brought, hbrought, hlearns⟩ := hrun.learnsFrom
    rw [hmade, List.append_cancel_left_eq] at hbrought
    subst hbrought
    have hcached := hlearns.cached expr.wire
    rw [if_pos rfl, List.flatMap_nil, List.append_nil] at hcached
    rw [hids] at hrun
    have hfound := hrun.page_of_ok
    rw [hcached, hpage] at hfound
    cases hfound

end ClientM

end BooleanSearch
