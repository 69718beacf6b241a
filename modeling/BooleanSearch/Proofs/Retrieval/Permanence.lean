import BooleanSearch.Proofs.Retrieval.Record

/-!
This module contains the theorem that what a client has learnt and answered is permanent: handles do
not change, lists of document IDs only grow at their ends, and a page that was answered once is
answered in the same way from then on, without a further exchange. The other end of the link may do
anything.
-/

namespace BooleanSearch

theorem CachedResults.page?_append {ids slice : List UInt32} {page pageSize : Nat}
    (hopen : CachedResults.isExhausted ids pageSize = false)
    (hpage : CachedResults.page? ids page pageSize = some slice) (further : List UInt32) :
    CachedResults.page? (ids ++ further) page pageSize = some slice := by
  rw [isExhausted_eq_false_iff] at hopen
  rw [page?_eq_some_iff] at hpage ⊢
  obtain ⟨⟨hsize, hlength⟩, hslice⟩ := hpage
  -- The list consists of full pages, so that nothing is added to this one.
  have hfull : page * pageSize + pageSize ≤ ids.length := by
    obtain ⟨pages, hpages⟩ := Nat.dvd_of_mod_eq_zero hopen
    rw [hpages, Nat.mul_comm pageSize pages] at hlength ⊢
    have hlt : page < pages := Nat.lt_of_mul_lt_mul_right hlength
    rw [← Nat.succ_mul]
    exact Nat.mul_le_mul_right pageSize hlt
  refine ⟨⟨hsize, ?_⟩, ?_⟩
  · rw [List.length_append]
    omega
  · rw [hslice, List.drop_append_of_le_length (by omega), List.take_append_of_le_length]
    rw [List.length_drop]
    omega

/--
A page of a query that a client can answer with what it knows.
-/
structure Session.Settles (session : Session) (pageSize : Nat) (key : Text) (page : Nat)
    (ids : List UInt32) : Prop where
  handle : ∃ handle, session.handle? key = some handle
  page : (session.cached key).page? page pageSize = some ids

namespace ClientM

variable {σ : Type} {link : Link (StateM σ)} {config : ClientConfig}
variable {key : Text} {page : Nat} {ids : List UInt32} {session session' : Session}
variable {result : Except SearchError (List UInt32)}

theorem FetchRun.answers_settled {s s' : σ} (h : session.Settles config.fullPage key page ids)
    (hrun : FetchRun link config key page session s result session' s') :
    result = .ok ids ∧ s' = s := by
  obtain ⟨⟨handle, hhandle⟩, hsettled⟩ := h
  rw [← Session.cached_beginResults session key key] at hsettled
  cases hrun.page_of_known hhandle with
  | cached hcached =>
    rw [hsettled, Option.some.injEq] at hcached
    exact ⟨congrArg _ hcached.symm, rfl⟩
  | exhausted hmissing | failed hmissing | found hmissing | missing hmissing =>
    rw [hsettled] at hmissing
    cases hmissing

theorem FetchRun.settles_of_ok {s s' : σ}
    (hrun : FetchRun link config key page session s (.ok ids) session' s') :
    session'.Settles config.fullPage key page ids := by
  refine ⟨?_, hrun.page_of_ok⟩
  cases hrun with
  | handled hhandle hpage =>
    rw [hpage.handle?_eq, Session.handle?_beginResults]
    cases hhandle with
    | known hknown => exact ⟨_, hknown⟩
    | accepted hnew hsent hresponse =>
      rw [Session.handle?_beginResults, Session.handle?_register, if_pos rfl]
      exact ⟨_, rfl⟩

theorem PageRun.keeps_page {record record' : Record σ} {handle : UInt32} {other : Nat}
    (hsettled : (session.cached key).page? page config.fullPage = some ids)
    (hrun : PageRun link.recorded config key handle other session record result session' record') :
    (session'.cached key).page? page config.fullPage = some ids := by
  have happended (hopen : (session.cached key).isExhausted config.fullPage = false) :
      (session'.cached key).page? page config.fullPage = some ids := by
    obtain ⟨exchanges, -, hlearns⟩ := hrun.learnsFrom
    rw [hlearns.cached, if_pos rfl]
    exact CachedResults.page?_append hopen hsettled _
  cases hrun with
  | cached hpage | exhausted hpage hexhausted => exact hsettled
  | failed hpage hopen hfurther | found hpage hopen hfurther hfound
  | missing hpage hopen hfurther hmissing => exact happended hopen

theorem FetchRun.keeps_settled {record record' : Record σ} {other : Text} {otherPage : Nat}
    (h : session.Settles config.fullPage key page ids)
    (hrun : FetchRun link.recorded config other otherPage session record result session' record') :
    session'.Settles config.fullPage key page ids := by
  obtain ⟨exchanges, -, hlearns⟩ := hrun.learnsFrom
  obtain ⟨⟨handle, hhandle⟩, hsettled⟩ := h
  refine ⟨⟨handle, hlearns.known key handle hhandle⟩, ?_⟩
  by_cases hkey : other = key
  · subst hkey
    rw [← Session.cached_beginResults session other other] at hsettled
    exact (hrun.page_of_known hhandle).keeps_page hsettled
  · rw [hlearns.cached, if_neg hkey]
    exact hsettled

end ClientM

structure Connection (σ : Type) where
  client : ClientState := {}
  record : Record σ

namespace Connection

variable {σ : Type} (link : Link (StateM σ)) (config : ClientConfig)

def fetch (connection : Connection σ) (expr : ResolvedExpr) (page : Nat) :
    Except SearchError (List UInt32) × Connection σ :=
  let (result, client, record) :=
    runOn (ClientM.fetchPage link.recorded config expr page) connection.client connection.record
  (result, ⟨client, record⟩)

def after (connection : Connection σ) (calls : List (ResolvedExpr × Nat)) : Connection σ :=
  calls.foldl (fun connection call => (connection.fetch link config call.1 call.2).2) connection

theorem fetch_run (connection : Connection σ) (expr : ResolvedExpr) (page : Nat) :
    ClientM.FetchRun link.recorded config expr.wire page connection.client.session
      connection.record (connection.fetch link config expr page).1
      (connection.fetch link config expr page).2.client.session
      (connection.fetch link config expr page).2.record :=
  ClientM.fetchPage_run link.recorded config expr page connection.client connection.record

variable {link config}

theorem after_preserves {motive : Connection σ → Prop}
    (hfetch : ∀ connection expr page, motive connection →
      motive (connection.fetch link config expr page).2)
    {connection : Connection σ} (h : motive connection) (calls : List (ResolvedExpr × Nat)) :
    motive (connection.after link config calls) := by
  induction calls generalizing connection with
  | nil => exact h
  | cons call calls ih => exact ih (hfetch connection call.1 call.2 h)

theorem handle?_after {connection : Connection σ} {key : Text} {handle : UInt32}
    (h : connection.client.session.handle? key = some handle) (calls : List (ResolvedExpr × Nat)) :
    (connection.after link config calls).client.session.handle? key = some handle := by
  apply after_preserves (motive := fun connection =>
    connection.client.session.handle? key = some handle) _ h
  intro connection expr page h
  obtain ⟨exchanges, -, hlearns⟩ := (fetch_run link config connection expr page).learnsFrom
  exact hlearns.known key handle h

theorem cached_prefix_fetch (link : Link (StateM σ)) (config : ClientConfig)
    (connection : Connection σ) (expr : ResolvedExpr) (page : Nat) (key : Text) :
    connection.client.session.cached key <+:
      (connection.fetch link config expr page).2.client.session.cached key := by
  obtain ⟨exchanges, -, hlearns⟩ := (fetch_run link config connection expr page).learnsFrom
  rw [hlearns.cached]
  split
  next heq =>
    rw [heq]
    exact List.prefix_append _ _
  next => exact List.prefix_rfl

theorem cached_prefix_after (connection : Connection σ) (calls : List (ResolvedExpr × Nat))
    (key : Text) :
    connection.client.session.cached key <+:
      (connection.after link config calls).client.session.cached key := by
  apply after_preserves (motive := fun later =>
    connection.client.session.cached key <+: later.client.session.cached key) _ List.prefix_rfl
  intro later expr page h
  exact h.trans (cached_prefix_fetch link config later expr page key)

theorem settles_after (link : Link (StateM σ)) {connection : Connection σ} {key : Text}
    {page : Nat} {ids : List UInt32}
    (h : connection.client.session.Settles config.fullPage key page ids)
    (calls : List (ResolvedExpr × Nat)) :
    (connection.after link config calls).client.session.Settles config.fullPage key page ids := by
  apply after_preserves (motive := fun connection =>
    connection.client.session.Settles config.fullPage key page ids) _ h
  intro connection expr page h
  exact (fetch_run link config connection expr page).keeps_settled h

/--
A call appends to the list of its query what the responses to its requests for pages hold, and
leaves all other queries alone. Whatever is called for afterwards, no handle changes, no list loses
anything, and a page that the call was answered with is answered again without a further exchange.
-/
theorem fetch_appends_payloads_and_settles_page (link : Link (StateM σ)) (config : ClientConfig)
    (connection : Connection σ) (expr : ResolvedExpr) (page : Nat) :
    let answer := connection.fetch link config expr page
    (∃ exchanges, answer.2.record.exchanges = connection.record.exchanges ++ exchanges ∧
      answer.2.client.session.cached expr.wire =
        connection.client.session.cached expr.wire ++ exchanges.flatMap Exchange.payload) ∧
    (∀ key, expr.wire ≠ key →
      answer.2.client.session.handle? key = connection.client.session.handle? key ∧
      answer.2.client.session.cached key = connection.client.session.cached key) ∧
    ∀ calls,
      let last := answer.2.after link config calls
      (∀ key handle, connection.client.session.handle? key = some handle →
        last.client.session.handle? key = some handle) ∧
      (∀ key, connection.client.session.cached key <+: last.client.session.cached key) ∧
      ∀ ids, answer.1 = .ok ids →
        ∃ client, last.fetch link config expr page = (.ok ids, ⟨client, last.record⟩) := by
  dsimp only
  have hrun := fetch_run link config connection expr page
  obtain ⟨exchanges, hexchanges, hlearns⟩ := hrun.learnsFrom
  refine ⟨⟨exchanges, hexchanges, ?_⟩, ?_, ?_⟩
  · rw [hlearns.cached, if_pos rfl]
  · intro key hkey
    refine ⟨hlearns.unchanged key hkey, ?_⟩
    rw [hlearns.cached, if_neg hkey]
  · intro calls
    refine ⟨?_, ?_, ?_⟩
    · intro key handle hhandle
      exact handle?_after (hlearns.known key handle hhandle) calls
    · intro key
      exact (cached_prefix_fetch link config connection expr page key).trans
        (cached_prefix_after _ calls key)
    · intro ids hok
      rw [hok] at hrun
      have hsettled := settles_after link hrun.settles_of_ok calls
      obtain ⟨hresult, hrecord⟩ := (fetch_run link config _ expr page).answers_settled hsettled
      exact ⟨_, Prod.ext hresult (congrArg (Connection.mk _) hrecord)⟩

end Connection

namespace OverlongPage

def link : Link (StateM (List Bytes)) where
  exchange _ := fun answers =>
    match answers with
    | [] => (.error (.io .unexpectedEnd), [])
    | answer :: answers => (.ok answer, answers)
  pause _ := pure ()

def config : ClientConfig := { pageSize := 2 }

def query (id : UInt32) : ResolvedExpr := ⟨[.term id]⟩

/--
The first request for a page is answered with three documents where two would fill a page, the
second one in an unknown way. The next registration gets an empty answer.
-/
def start : Connection (List Bytes) where
  record :=
    { other :=
        [Response.encode .ok, Response.encode (.payload [7, 8, 9]),
          Response.encode (.unrecognized 9), []] }

theorem rest_of_page_is_settled :
    ∃ client, ((start.fetch link config (query 1) 1).2.after link config
      [(query 2, 0), (query 1, 2)]).fetch link config (query 1) 1 =
        (.ok [9], ⟨client, ((start.fetch link config (query 1) 1).2.after link config
          [(query 2, 0), (query 1, 2)]).record⟩) := by
  have hok : (start.fetch link config (query 1) 1).1 = .ok [9] := by
    apply eq_ok_of_toOption
    decide +kernel
  obtain ⟨-, -, hcalls⟩ :=
    Connection.fetch_appends_payloads_and_settles_page link config start (query 1) 1
  exact (hcalls [(query 2, 0), (query 1, 2)]).2.2 [9] hok

end OverlongPage

end BooleanSearch
