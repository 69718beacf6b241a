import BooleanSearch.Proofs.Retrieval.Permanence
import BooleanSearch.Proofs.Vocabulary.WireText

/-!
This module contains the theorem that the text of an expression identifies it. A client finds
handles and lists of document IDs by these texts, so that two expressions share them only if they
are the same.
-/

namespace BooleanSearch

/--
Handles are different and have been given out in order.
-/
structure Session.Counted (session : Session) : Prop where
  lt : ∀ key handle, session.handle? key = some handle → handle.toNat < session.queryCount
  inj : ∀ key other handle, session.handle? key = some handle →
    session.handle? other = some handle → key = other

namespace Session

variable {session session' : Session} {key : Text}

theorem Counted.of_handles_eq (h : session.Counted) (heq : session'.handles = session.handles) :
    session'.Counted := by
  obtain ⟨hlt, hinj⟩ := h
  unfold handle? queryCount at hlt
  unfold handle? at hinj
  constructor
  · unfold handle? queryCount
    rw [heq]
    exact hlt
  · unfold handle?
    rw [heq]
    exact hinj

theorem Counted.register (h : session.Counted) (hnew : session.handle? key = none)
    (hcount : session.queryCount < UInt32.size) : (session.register key).2.Counted := by
  have hhandle : (session.register key).1.toNat = session.queryCount := by
    rw [register_of_handle?_eq_none hnew]
    exact UInt32.toNat_ofNat_of_lt' hcount
  have hold : ∀ other handle, session.handle? other = some handle →
      handle ≠ (session.register key).1 := by
    rintro other handle hother rfl
    have hlt := h.lt other _ hother
    omega
  constructor
  · intro other handle hother
    rw [queryCount_register hnew]
    rw [handle?_register] at hother
    split at hother
    next =>
      rw [Option.some.injEq] at hother
      rw [← hother]
      omega
    next => exact Nat.lt_succ_of_lt (h.lt other handle hother)
  · intro first second handle hfirst hsecond
    rw [handle?_register] at hfirst hsecond
    split at hfirst
    next heq =>
      rw [Option.some.injEq] at hfirst
      split at hsecond
      next heq' => exact heq.symm.trans heq'
      next => exact absurd hfirst.symm (hold second handle hsecond)
    next =>
      split at hsecond
      next =>
        rw [Option.some.injEq] at hsecond
        exact absurd hsecond.symm (hold first handle hfirst)
      next => exact h.inj first second handle hfirst hsecond

end Session

namespace ClientM

variable {σ : Type} {link : Link (StateM σ)} {config : ClientConfig}
variable {key : Text} {session session' : Session} {s s' : σ}

theorem HandleRun.counted {result : Except SearchError UInt32}
    (h : session.queryCount ≤ UInt32.size → session.Counted)
    (hrun : HandleRun link config key session s result session' s') :
    session'.queryCount ≤ UInt32.size → session'.Counted := by
  have hregister (hnew : session.handle? key = none)
      (hcount : (session.register key).2.queryCount ≤ UInt32.size) :
      (session.register key).2.Counted := by
    rw [Session.queryCount_register hnew] at hcount
    exact (h (by omega)).register hnew hcount
  cases hrun with
  | known hknown => exact h
  | failed hnew hsent => exact hregister hnew
  | rejected hnew hsent => exact hregister hnew
  | accepted hnew hsent hresponse =>
    intro hcount
    exact (hregister hnew hcount).of_handles_eq rfl

theorem FetchRun.counted {page : Nat} {result : Except SearchError (List UInt32)}
    (h : session.queryCount ≤ UInt32.size → session.Counted)
    (hrun : FetchRun link config key page session s result session' s') :
    session'.queryCount ≤ UInt32.size → session'.Counted := by
  cases hrun with
  | refused hhandle => exact hhandle.counted h
  | handled hhandle hpage =>
    intro hcount
    unfold Session.queryCount at hcount
    rw [hpage.handles_eq] at hcount
    exact (hhandle.counted h hcount).of_handles_eq hpage.handles_eq

end ClientM

namespace Connection

variable {σ : Type}

def start (s : σ) : Connection σ := { record := { other := s } }

theorem counted_after (link : Link (StateM σ)) (config : ClientConfig) (s : σ)
    (calls : List (ResolvedExpr × Nat)) :
    let session := ((start s).after link config calls).client.session
    session.queryCount ≤ UInt32.size → session.Counted := by
  apply after_preserves (motive := fun connection =>
    connection.client.session.queryCount ≤ UInt32.size → connection.client.session.Counted)
  · intro connection expr page h
    exact (fetch_run link config connection expr page).counted h
  · intro hcount
    constructor <;> simp [start, Session.handle?]

end Connection

end BooleanSearch
