import BooleanSearch.Proofs.Retrieval.Steps
import BooleanSearch.Proofs.Wire.RoundTrip

/-!
This module contains links that keep a record of all exchanges. Nothing is assumed about the other
end: whatever it answers, a call adds to the list of its query what the responses to its requests
for pages hold, and changes nothing else that the client knows.
-/

namespace BooleanSearch

structure Exchange where
  request : Bytes
  result : Except SearchError Bytes

def Exchange.payload (exchange : Exchange) : List UInt32 :=
  match Request.decode? exchange.request, exchange.result with
  | some (.existing _), .ok bytes =>
    match Response.decode bytes with
    | .ok (.payload ids) => ids
    | _ => []
  | _, _ => []

structure Record (σ : Type) where
  other : σ
  exchanges : List Exchange := []

def Link.recorded {σ : Type} (link : Link (StateM σ)) : Link (StateM (Record σ)) where
  exchange request := fun record =>
    let (result, other) := (link.exchange request).run record.other
    (result, { other, exchanges := record.exchanges ++ [⟨request, result⟩] })
  pause milliseconds := fun record =>
    ((), { record with other := ((link.pause milliseconds).run record.other).2 })

theorem Link.run_exchange_recorded {σ : Type} (link : Link (StateM σ)) (request : Bytes)
    (record : Record σ) :
    (link.recorded.exchange request).run record =
      (((link.exchange request).run record.other).1,
        { other := ((link.exchange request).run record.other).2
          exchanges := record.exchanges ++ [⟨request, ((link.exchange request).run record.other).1⟩] }) :=
  rfl

def Request.brings (request : Request) (result : Except SearchError Response) : List UInt32 :=
  match request, result with
  | .existing _, .ok (.payload ids) => ids
  | _, _ => []

namespace Exchange

theorem payload_of_encode {request : Request} {bytes : Bytes} (hencode : request.encode = .ok bytes)
    (result : Except SearchError Bytes) :
    payload ⟨bytes, result⟩ = request.brings (result.bind Response.decode) := by
  have hdecode := Request.decode?_of_encode hencode []
  rw [List.append_nil] at hdecode
  unfold payload Request.brings
  simp only [hdecode]
  cases request with
  | new key => rfl
  | existing handle =>
    cases result with
    | error e => rfl
    | ok raw =>
      simp only [Except.bind]
      rcases Response.decode raw with e | _ | ids | _ | code <;> rfl

theorem payload_of_error {exchange : Exchange} {e : SearchError} (h : exchange.result = .error e) :
    exchange.payload = [] := by
  unfold payload
  split
  next hresult =>
    rw [hresult] at h
    cases h
  next => rfl

end Exchange

/--
The exchanges that are made to send a request with a number of retries, and what comes of it: the last
one decides the result, and the ones before it have the same request, which was not delivered.
-/
inductive Attempts (request : Request) (retries : Nat) :
    List Exchange → Except SearchError Response → Prop where
  | refused {e : SearchError} (hencode : request.encode = .error e) :
      Attempts request retries [] (.error e)
  | made {bytes : Bytes} {failed : List Exchange} {raw : Except SearchError Bytes}
      (hencode : request.encode = .ok bytes) (hlength : failed.length ≤ retries)
      (hfailed : ∀ exchange ∈ failed, exchange.request = bytes ∧
        ∃ failure, exchange.result = .error (.requestNotDelivered failure)) :
      Attempts request retries (failed ++ [⟨bytes, raw⟩]) (raw.bind Response.decode)

namespace ClientM

variable {σ : Type} (link : Link (StateM σ)) (config : ClientConfig)

theorem exchanges_deliver (kind : Text) (bytes : Bytes) (backoff retries pause : Nat)
    (client : ClientState) (record : Record σ) :
    ∃ failed,
      (runOn (deliver link.recorded kind bytes backoff retries pause) client record).2.2.exchanges =
        record.exchanges ++ (failed ++
          [⟨bytes, (runOn (deliver link.recorded kind bytes backoff retries pause) client record).1⟩]) ∧
      failed.length ≤ retries ∧
      ∀ exchange ∈ failed, exchange.request = bytes ∧
        ∃ failure, exchange.result = .error (.requestNotDelivered failure) := by
  induction retries generalizing pause client record with
  | zero =>
    refine ⟨[], ?_, Nat.le_refl 0, by simp⟩
    rw [runOn_deliver, Link.run_exchange_recorded]
    cases ((link.exchange bytes).run record.other).1 with
    | ok response => rfl
    | error e => rfl
  | succ retries ih =>
    rw [runOn_deliver, Link.run_exchange_recorded]
    cases ((link.exchange bytes).run record.other).1 with
    | ok response => exact ⟨[], rfl, Nat.zero_le _, by simp⟩
    | error e =>
      by_cases hretriable : e.isRetriable = true
      · simp only [hretriable, ↓reduceIte]
        obtain ⟨failed, hexchanges, hlength, hfailed⟩ := ih (pause + backoff)
          { client with metrics := client.metrics.countRequest kind }
          ((link.recorded.pause pause).run
            { other := ((link.exchange bytes).run record.other).2
              exchanges := record.exchanges ++ [⟨bytes, .error e⟩] }).2
        refine ⟨⟨bytes, .error e⟩ :: failed, ?_, Nat.succ_le_succ hlength, ?_⟩
        · rw [hexchanges]
          exact List.append_assoc _ _ _
        · rw [List.forall_mem_cons]
          refine ⟨⟨rfl, ?_⟩, hfailed⟩
          cases e with
          | requestNotDelivered failure => exact ⟨failure, rfl⟩
          | _ => cases hretriable
      · simp only [hretriable]
        exact ⟨[], rfl, Nat.zero_le _, by simp⟩

theorem attempts_of_sent {request : Request} {record record' : Record σ}
    {result : Except SearchError Response}
    (h : sent link.recorded config request record = (result, record')) :
    ∃ made, record'.exchanges = record.exchanges ++ made ∧
      Attempts request config.transportRetries made result := by
  cases hencode : request.encode with
  | error e =>
    rw [sent_of_encode_eq_error link.recorded config hencode, Prod.mk.injEq] at h
    obtain ⟨rfl, rfl⟩ := h
    exact ⟨[], (List.append_nil _).symm, .refused hencode⟩
  | ok bytes =>
    obtain ⟨failed, hexchanges, hlength, hfailed⟩ := exchanges_deliver link request.kind bytes
      config.retryBackoffMs config.transportRetries config.retryBackoffMs {} record
    rw [sent_of_encode_eq_ok link.recorded config hencode, Prod.mk.injEq] at h
    obtain ⟨rfl, rfl⟩ := h
    exact ⟨_, hexchanges, .made hencode hlength hfailed⟩

theorem exchanges_of_sent {request : Request} {record record' : Record σ}
    {result : Except SearchError Response}
    (h : sent link.recorded config request record = (result, record')) :
    ∃ exchanges, record'.exchanges = record.exchanges ++ exchanges ∧
      exchanges.flatMap Exchange.payload = request.brings result := by
  obtain ⟨made, hmade, hattempts⟩ := attempts_of_sent link config h
  refine ⟨made, hmade, ?_⟩
  cases hattempts with
  | refused hencode => cases request <;> rfl
  | @made bytes failed raw hencode hlength hfailed =>
    have hnone : failed.flatMap Exchange.payload = [] := by
      rw [List.flatMap_eq_nil_iff]
      intro exchange hmem
      obtain ⟨-, failure, hresult⟩ := hfailed exchange hmem
      exact Exchange.payload_of_error hresult
    rw [List.flatMap_append, hnone, List.nil_append, List.flatMap_singleton,
      Exchange.payload_of_encode hencode]

end ClientM

/--
A session knows every handle that another one knows. It has a further list of document IDs for one
query, and may have a handle for this query that the other one lacks.
-/
structure Session.Learns (session : Session) (key : Text) (ids : List UInt32)
    (session' : Session) : Prop where
  known : ∀ other handle, session.handle? other = some handle → session'.handle? other = some handle
  unchanged : ∀ other, key ≠ other → session'.handle? other = session.handle? other
  cached : ∀ other, session'.cached other =
    if key = other then session.cached key ++ ids else session.cached other

namespace Session

theorem Extends.learns {session session' : Session} {key : Text} {ids : List UInt32}
    (h : session.Extends key ids session') : session.Learns key ids session' where
  known := by
    intro other handle hhandle
    rw [h.handle?]
    exact hhandle
  unchanged := fun other _ => h.handle? other
  cached := h.cached

theorem learns_register {session : Session} {key : Text} (hnew : session.handle? key = none) :
    session.Learns key [] (session.register key).2 where
  known := by
    intro other handle hhandle
    rw [handle?_register]
    split
    next heq =>
      rw [← heq, hnew] at hhandle
      cases hhandle
    next => exact hhandle
  unchanged := by
    intro other hne
    rw [handle?_register, if_neg hne]
  cached := by
    intro other
    rw [cached_register]
    split <;> simp [*]

theorem Learns.trans {session session' session'' : Session} {key : Text} {ids ids' : List UInt32}
    (h : session.Learns key ids session') (h' : session'.Learns key ids' session'') :
    session.Learns key (ids ++ ids') session'' where
  known := fun other handle hhandle => h'.known other handle (h.known other handle hhandle)
  unchanged := fun other hne => (h'.unchanged other hne).trans (h.unchanged other hne)
  cached := by
    intro other
    rw [h'.cached, h.cached, h.cached, if_pos rfl, List.append_assoc]
    split <;> rfl

end Session

namespace ClientM

variable {σ : Type} {link : Link (StateM σ)} {config : ClientConfig}
variable {key : Text} {session session' : Session} {record record' : Record σ}

/--
What a session learns about a query is what the exchanges that were made bring.
-/
def LearnsFrom (key : Text) (session : Session) (record : Record σ) (session' : Session)
    (record' : Record σ) : Prop :=
  ∃ exchanges, record'.exchanges = record.exchanges ++ exchanges ∧
    session.Learns key (exchanges.flatMap Exchange.payload) session'

theorem LearnsFrom.refl (key : Text) (session : Session) (record : Record σ) :
    LearnsFrom key session record session record :=
  ⟨[], (List.append_nil _).symm, (session.extends_nil key).learns⟩

theorem learnsFrom_beginResults (key : Text) (session : Session) (record : Record σ) :
    LearnsFrom key session record (session.beginResults key) record :=
  ⟨[], (List.append_nil _).symm, (session.extends_beginResults key).learns⟩

theorem LearnsFrom.trans {session'' : Session} {record'' : Record σ}
    (h : LearnsFrom key session record session' record')
    (h' : LearnsFrom key session' record' session'' record'') :
    LearnsFrom key session record session'' record'' := by
  obtain ⟨exchanges, hexchanges, hlearns⟩ := h
  obtain ⟨exchanges', hexchanges', hlearns'⟩ := h'
  refine ⟨exchanges ++ exchanges', ?_, ?_⟩
  · rw [hexchanges', hexchanges, List.append_assoc]
  · rw [List.flatMap_append]
    exact hlearns.trans hlearns'

theorem learnsFrom_of_sent {request : Request} {result : Except SearchError Response}
    (hsent : sent link.recorded config request record = (result, record'))
    (hlearns : session.Learns key (request.brings result) session') :
    LearnsFrom key session record session' record' := by
  obtain ⟨exchanges, hexchanges, hpayload⟩ := exchanges_of_sent link config hsent
  refine ⟨exchanges, hexchanges, ?_⟩
  rw [hpayload]
  exact hlearns

theorem HandleRun.learnsFrom {result : Except SearchError UInt32}
    (hrun : HandleRun link.recorded config key session record result session' record') :
    LearnsFrom key session record session' record' := by
  cases hrun with
  | known hknown => exact .refl key session record
  | failed hnew hsent => exact learnsFrom_of_sent hsent (Session.learns_register hnew)
  | rejected hnew hsent => exact learnsFrom_of_sent hsent (Session.learns_register hnew)
  | accepted hnew hsent hresponse =>
    apply learnsFrom_of_sent hsent
    exact (Session.learns_register hnew).trans (Session.extends_beginResults _ key).learns

theorem FurtherRun.learnsFrom {handle : UInt32} {count page : Nat} {result : Except SearchError Unit}
    (hrun : FurtherRun link.recorded config key handle count page session record result session'
      record') :
    LearnsFrom key session record session' record' := by
  induction hrun with
  | enough => exact .refl key _ _
  | failed hsent => exact learnsFrom_of_sent hsent (Session.extends_nil _ key).learns
  | rejected hsent => exact learnsFrom_of_sent hsent (Session.extends_nil _ key).learns
  | @ended count page session record record' response hsent hbad hresponse =>
    apply learnsFrom_of_sent hsent
    -- The only payload that ends a list without being kept is an empty one.
    have hnone : (Request.existing handle).brings (.ok response) = [] := by
      cases response with
      | payload ids => exact hresponse ids rfl
      | ok | bad | unrecognized => rfl
    rw [hnone]
    exact (session.extends_nil key).learns
  | short hsent hids hshort =>
    exact learnsFrom_of_sent hsent (Session.extends_appendPage _ key _).learns
  | full hsent hids hfull hrest ih =>
    exact (learnsFrom_of_sent hsent (Session.extends_appendPage _ key _).learns).trans ih

theorem PageRun.learnsFrom {handle : UInt32} {page : Nat}
    {result : Except SearchError (List UInt32)}
    (hrun : PageRun link.recorded config key handle page session record result session' record') :
    LearnsFrom key session record session' record' := by
  obtain ⟨_, _, _, hfurther⟩ := hrun.exists_further
  exact hfurther.learnsFrom

theorem FetchRun.learnsFrom {page : Nat} {result : Except SearchError (List UInt32)}
    (hrun : FetchRun link.recorded config key page session record result session' record') :
    LearnsFrom key session record session' record' := by
  cases hrun with
  | refused hhandle => exact hhandle.learnsFrom
  | handled hhandle hpage =>
    exact (hhandle.learnsFrom.trans (learnsFrom_beginResults key _ _)).trans hpage.learnsFrom

end ClientM

end BooleanSearch
