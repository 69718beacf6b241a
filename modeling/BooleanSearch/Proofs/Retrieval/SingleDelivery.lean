import BooleanSearch.Proofs.Retrieval.Identity

/-!
This module contains the theorem that nothing is delivered twice. A request is sent again only while it
has not been delivered, and a query that has a handle is never registered again, whatever came of its
registration. The other end of the link may do anything.
-/

namespace BooleanSearch

namespace Exchange

def isDelivered (exchange : Exchange) : Bool :=
  match exchange.result with
  | .error (.requestNotDelivered _) => false
  | _ => true

def registers (key : Text) (exchange : Exchange) : Bool :=
  Request.decode? exchange.request == some (.new key) && exchange.isDelivered

theorem isDelivered_eq_false_iff {exchange : Exchange} :
    exchange.isDelivered = false ↔
      ∃ failure, exchange.result = .error (.requestNotDelivered failure) := by
  unfold isDelivered
  split
  next failure hresult => simp [hresult]
  next hother => simpa using hother

end Exchange

namespace Attempts

variable {request : Request} {retries : Nat} {made : List Exchange}
variable {result : Except SearchError Response}

theorem length_le (h : Attempts request retries made result) : made.length ≤ retries + 1 := by
  cases h with
  | refused hencode => exact Nat.zero_le _
  | made hencode hlength hfailed =>
    rw [List.length_append]
    exact Nat.succ_le_succ hlength

theorem encode_eq (h : Attempts request retries made result) :
    ∀ exchange ∈ made, request.encode = .ok exchange.request := by
  cases h with
  | refused hencode => simp
  | made hencode hlength hfailed =>
    intro exchange hexchange
    rcases List.mem_append.mp hexchange with hmem | hmem
    · rw [(hfailed exchange hmem).1, hencode]
    · rw [List.mem_singleton.mp hmem, hencode]

theorem ne_nil (h : Attempts request retries made result) {bytes : Bytes}
    (hencode : request.encode = .ok bytes) : made ≠ [] := by
  cases h with
  | refused hrefused =>
    rw [hencode] at hrefused
    cases hrefused
  | made hencode hlength hfailed => simp

theorem undelivered_of_mem_dropLast (h : Attempts request retries made result) :
    ∀ exchange ∈ made.dropLast,
      ∃ failure, exchange.result = .error (.requestNotDelivered failure) := by
  cases h with
  | refused hencode => simp
  | made hencode hlength hfailed =>
    rw [List.dropLast_concat]
    exact fun exchange hmem => (hfailed exchange hmem).2

theorem countP_isDelivered_le (h : Attempts request retries made result) :
    made.countP Exchange.isDelivered ≤ 1 := by
  cases h with
  | refused hencode => exact Nat.zero_le _
  | @made bytes failed raw hencode hlength hfailed =>
    have hnone : failed.countP Exchange.isDelivered = 0 := by
      rw [List.countP_eq_zero]
      intro exchange hmem
      rw [Exchange.isDelivered_eq_false_iff.mpr (hfailed exchange hmem).2]
      exact Bool.false_ne_true
    rw [List.countP_append, hnone, Nat.zero_add]
    exact List.countP_le_length

theorem countP_registers_le (h : Attempts request retries made result) (key : Text) :
    made.countP (Exchange.registers key) ≤ if request = .new key then 1 else 0 := by
  split
  next hkey =>
    refine Nat.le_trans (List.countP_mono_left fun exchange _ hregisters => ?_)
      h.countP_isDelivered_le
    exact (Bool.and_eq_true_iff.mp hregisters).2
  next hkey =>
    rw [Nat.le_zero, List.countP_eq_zero]
    intro exchange hmem hregisters
    have hdecode := Request.decode?_of_encode (h.encode_eq exchange hmem) []
    rw [List.append_nil] at hdecode
    simp only [Exchange.registers, hdecode, Bool.and_eq_true, beq_iff_eq, Option.some.injEq]
      at hregisters
    exact hkey hregisters.1

end Attempts

/--
A query has been registered at most once, and not at all while it has no handle.
-/
structure RegisteredOnce (key : Text) (session : Session) (exchanges : List Exchange) : Prop where
  le_one : exchanges.countP (Exchange.registers key) ≤ 1
  eq_zero : session.handle? key = none → exchanges.countP (Exchange.registers key) = 0

theorem RegisteredOnce.of_handle?_eq {key : Text} {session session' : Session}
    {exchanges : List Exchange} (h : RegisteredOnce key session exchanges)
    (heq : session'.handle? key = session.handle? key) : RegisteredOnce key session' exchanges where
  le_one := h.le_one
  eq_zero := by
    rw [heq]
    exact h.eq_zero

namespace ClientM

variable {σ : Type} {link : Link (StateM σ)} {config : ClientConfig}
variable {key other : Text} {session session' : Session} {record record' : Record σ}

theorem registeredOnce_of_sent_existing {handle : UInt32} {result : Except SearchError Response}
    (h : RegisteredOnce key session record.exchanges)
    (hsent : sent link.recorded config (.existing handle) record = (result, record')) :
    RegisteredOnce key session record'.exchanges := by
  obtain ⟨made, hmade, hattempts⟩ := attempts_of_sent link config hsent
  have hnone : made.countP (Exchange.registers key) = 0 :=
    Nat.le_zero.mp (hattempts.countP_registers_le key)
  rw [hmade]
  constructor
  · rw [List.countP_append, hnone]
    exact h.le_one
  · rw [List.countP_append, hnone]
    exact h.eq_zero

theorem registeredOnce_of_sent_new {result : Except SearchError Response}
    (h : RegisteredOnce key session record.exchanges) (hnew : session.handle? other = none)
    (hsent : sent link.recorded config (.new other) record = (result, record')) :
    RegisteredOnce key (session.register other).2 record'.exchanges := by
  obtain ⟨made, hmade, hattempts⟩ := attempts_of_sent link config hsent
  have hcount := hattempts.countP_registers_le key
  rw [hmade]
  by_cases hkey : other = key
  · subst hkey
    rw [if_pos rfl] at hcount
    constructor
    · rw [List.countP_append, h.eq_zero hnew, Nat.zero_add]
      exact hcount
    · intro hnone
      rw [Session.handle?_register, if_pos rfl] at hnone
      cases hnone
  · rw [if_neg (by simpa using hkey), Nat.le_zero] at hcount
    constructor
    · rw [List.countP_append, hcount]
      exact h.le_one
    · intro hnone
      rw [Session.handle?_register, if_neg hkey] at hnone
      rw [List.countP_append, hcount]
      exact h.eq_zero hnone

theorem HandleRun.registeredOnce {result : Except SearchError UInt32}
    (h : RegisteredOnce key session record.exchanges)
    (hrun : HandleRun link.recorded config other session record result session' record') :
    RegisteredOnce key session' record'.exchanges := by
  cases hrun with
  | known hknown => exact h
  | failed hnew hsent => exact registeredOnce_of_sent_new h hnew hsent
  | rejected hnew hsent => exact registeredOnce_of_sent_new h hnew hsent
  | accepted hnew hsent hresponse =>
    exact (registeredOnce_of_sent_new h hnew hsent).of_handle?_eq rfl

theorem PageRun.registeredOnce {handle : UInt32} {page : Nat}
    {result : Except SearchError (List UInt32)} (h : RegisteredOnce key session record.exchanges)
    (hrun : PageRun link.recorded config other handle page session record result session' record') :
    RegisteredOnce key session' record'.exchanges := by
  have hfetched := hrun.preserves (P := fun record => RegisteredOnce key session record.exchanges)
    (fun _ _ _ h hsent => registeredOnce_of_sent_existing h hsent) h
  exact hfetched.of_handle?_eq (hrun.handle?_eq key)

theorem FetchRun.registeredOnce {page : Nat} {result : Except SearchError (List UInt32)}
    (h : RegisteredOnce key session record.exchanges)
    (hrun : FetchRun link.recorded config other page session record result session' record') :
    RegisteredOnce key session' record'.exchanges := by
  cases hrun with
  | refused hhandle => exact hhandle.registeredOnce h
  | handled hhandle hpage =>
    apply hpage.registeredOnce
    exact (hhandle.registeredOnce h).of_handle?_eq rfl

end ClientM

namespace Connection

variable {σ : Type}

theorem countP_registers_after_le (link : Link (StateM σ)) (config : ClientConfig) (s : σ)
    (calls : List (ResolvedExpr × Nat)) (key : Text) :
    ((start s).after link config calls).record.exchanges.countP (Exchange.registers key) ≤ 1 := by
  have honce : RegisteredOnce key ((start s).after link config calls).client.session
      ((start s).after link config calls).record.exchanges := by
    apply after_preserves (motive := fun connection =>
      RegisteredOnce key connection.client.session connection.record.exchanges)
    · intro connection expr page h
      exact (fetch_run link config connection expr page).registeredOnce h
    · exact ⟨Nat.zero_le 1, fun _ => rfl⟩
  exact honce.le_one

end Connection

end BooleanSearch
