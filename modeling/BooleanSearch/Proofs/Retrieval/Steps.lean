import BooleanSearch.Proofs.Retrieval.Run

/-!
This module contains the ways in which the parts of a fetch can go, one constructor for each, and the
theorems that they go in no other way. Sessions and the other end of the link are all that appears
here, so that invariants of a run are shown by cases on it.
-/

namespace BooleanSearch

structure Session.Extends (session : Session) (key : Text) (ids : List UInt32)
    (session' : Session) : Prop where
  handle? : ∀ other, session'.handle? other = session.handle? other
  queryCount : session'.queryCount = session.queryCount
  cached : ∀ other, session'.cached other =
    if key = other then session.cached key ++ ids else session.cached other

theorem Session.extends_appendPage (session : Session) (key : Text) (ids : List UInt32) :
    session.Extends key ids (session.appendPage key ids) where
  handle? := fun _ => rfl
  queryCount := rfl
  cached := fun other => session.cached_appendPage key other ids

theorem Session.extends_beginResults (session : Session) (key : Text) :
    session.Extends key [] (session.beginResults key) where
  handle? := fun _ => rfl
  queryCount := rfl
  cached := by
    intro other
    rw [Session.cached_beginResults]
    split <;> simp [*]

theorem Session.extends_nil (session : Session) (key : Text) : session.Extends key [] session where
  handle? := fun _ => rfl
  queryCount := rfl
  cached := by
    intro other
    split <;> simp [*]

namespace ClientM

variable {σ : Type} (link : Link (StateM σ)) (config : ClientConfig)

inductive HandleRun (key : Text) : Session → σ → Except SearchError UInt32 → Session → σ → Prop where
  | known {session : Session} {s : σ} {handle : UInt32}
      (hknown : session.handle? key = some handle) :
      HandleRun key session s (.ok handle) session s
  | failed {session : Session} {s s' : σ} {e : SearchError}
      (hnew : session.handle? key = none)
      (hsent : sent link config (.new key) s = (.error e, s')) :
      HandleRun key session s (.error e) (session.register key).2 s'
  | rejected {session : Session} {s s' : σ}
      (hnew : session.handle? key = none)
      (hsent : sent link config (.new key) s = (.ok .bad, s')) :
      HandleRun key session s (.error (.backendError .rejectedQuery)) (session.register key).2 s'
  | accepted {session : Session} {s s' : σ} {response : Response}
      (hnew : session.handle? key = none)
      (hsent : sent link config (.new key) s = (.ok response, s'))
      (hresponse : response ≠ .bad) :
      HandleRun key session s (.ok (session.register key).1)
        ((session.register key).2.beginResults key) s'

inductive FurtherRun (key : Text) (handle : UInt32) :
    (count page : Nat) → Session → σ → Except SearchError Unit → Session → σ → Prop where
  | enough {page : Nat} {session : Session} {s : σ} :
      FurtherRun key handle 0 page session s (.ok ()) session s
  | failed {count page : Nat} {session : Session} {s s' : σ} {e : SearchError}
      (hsent : sent link config (.existing handle) s = (.error e, s')) :
      FurtherRun key handle (count + 1) page session s (.error e) session s'
  | rejected {count page : Nat} {session : Session} {s s' : σ}
      (hsent : sent link config (.existing handle) s = (.ok .bad, s')) :
      FurtherRun key handle (count + 1) page session s
        (.error (.backendError (.rejectedPage page handle))) session s'
  | ended {count page : Nat} {session : Session} {s s' : σ} {response : Response}
      (hsent : sent link config (.existing handle) s = (.ok response, s'))
      (hbad : response ≠ .bad) (hresponse : ∀ ids, response = .payload ids → ids = []) :
      FurtherRun key handle (count + 1) page session s (.ok ()) session s'
  | short {count page : Nat} {session : Session} {s s' : σ} {ids : List UInt32}
      (hsent : sent link config (.existing handle) s = (.ok (.payload ids), s'))
      (hids : ids ≠ []) (hshort : ids.length < config.fullPage) :
      FurtherRun key handle (count + 1) page session s (.ok ()) (session.appendPage key ids) s'
  | full {count page : Nat} {session session' : Session} {s s' s'' : σ} {ids : List UInt32}
      {result : Except SearchError Unit}
      (hsent : sent link config (.existing handle) s = (.ok (.payload ids), s'))
      (hids : ids ≠ []) (hfull : config.fullPage ≤ ids.length)
      (hrest : FurtherRun key handle count (page + 1) (session.appendPage key ids) s' result
        session' s'') :
      FurtherRun key handle (count + 1) page session s result session' s''

inductive PageRun (key : Text) (handle : UInt32) (page : Nat) :
    Session → σ → Except SearchError (List UInt32) → Session → σ → Prop where
  | cached {session : Session} {s : σ} {ids : List UInt32}
      (hpage : (session.cached key).page? page config.fullPage = some ids) :
      PageRun key handle page session s (.ok ids) session s
  | exhausted {session : Session} {s : σ}
      (hpage : (session.cached key).page? page config.fullPage = none)
      (hexhausted : (session.cached key).isExhausted config.fullPage = true) :
      PageRun key handle page session s (.error (.noResults page)) session s
  | failed {session session' : Session} {s s' : σ} {e : SearchError}
      (hpage : (session.cached key).page? page config.fullPage = none)
      (hopen : (session.cached key).isExhausted config.fullPage = false)
      (hfurther : FurtherRun link config key handle
        (page + 1 - (session.cached key).pagesCovered config.fullPage)
        ((session.cached key).pagesCovered config.fullPage) session s (.error e) session' s') :
      PageRun key handle page session s (.error e) session' s'
  | found {session session' : Session} {s s' : σ} {ids : List UInt32}
      (hpage : (session.cached key).page? page config.fullPage = none)
      (hopen : (session.cached key).isExhausted config.fullPage = false)
      (hfurther : FurtherRun link config key handle
        (page + 1 - (session.cached key).pagesCovered config.fullPage)
        ((session.cached key).pagesCovered config.fullPage) session s (.ok ()) session' s')
      (hfound : (session'.cached key).page? page config.fullPage = some ids) :
      PageRun key handle page session s (.ok ids) session' s'
  | missing {session session' : Session} {s s' : σ}
      (hpage : (session.cached key).page? page config.fullPage = none)
      (hopen : (session.cached key).isExhausted config.fullPage = false)
      (hfurther : FurtherRun link config key handle
        (page + 1 - (session.cached key).pagesCovered config.fullPage)
        ((session.cached key).pagesCovered config.fullPage) session s (.ok ()) session' s')
      (hmissing : (session'.cached key).page? page config.fullPage = none) :
      PageRun key handle page session s (.error (.noResults page)) session' s'

inductive FetchRun (key : Text) (page : Nat) :
    Session → σ → Except SearchError (List UInt32) → Session → σ → Prop where
  | refused {session session' : Session} {s s' : σ} {e : SearchError}
      (hhandle : HandleRun link config key session s (.error e) session' s') :
      FetchRun key page session s (.error e) session' s'
  | handled {session session' session'' : Session} {s s' s'' : σ} {handle : UInt32}
      {result : Except SearchError (List UInt32)}
      (hhandle : HandleRun link config key session s (.ok handle) session' s')
      (hpage : PageRun link config key handle page (session'.beginResults key) s' result
        session'' s'') :
      FetchRun key page session s result session'' s''

theorem FetchRun.page_of_ok {key : Text} {page : Nat} {session session' : Session} {s s' : σ}
    {ids : List UInt32} (hrun : FetchRun link config key page session s (.ok ids) session' s') :
    (session'.cached key).page? page config.fullPage = some ids := by
  cases hrun with
  | handled hhandle hpage =>
    cases hpage with
    | cached hpage => exact hpage
    | found hpage hopen hfurther hfound => exact hfound

section

variable {link config} {P : σ → Prop} {key : Text} {session session' : Session} {s s' : σ}

theorem HandleRun.preserves {result : Except SearchError UInt32}
    (hsent : ∀ request s result s', P s → sent link config request s = (result, s') → P s')
    (h : P s) (hrun : HandleRun link config key session s result session' s') : P s' := by
  cases hrun with
  | known hknown => exact h
  | failed hnew hfailed => exact hsent _ _ _ _ h hfailed
  | rejected hnew hrejected => exact hsent _ _ _ _ h hrejected
  | accepted hnew haccepted hresponse => exact hsent _ _ _ _ h haccepted

theorem FurtherRun.preserves {handle : UInt32} {count page : Nat} {result : Except SearchError Unit}
    (hsent : ∀ s result s', P s → sent link config (.existing handle) s = (result, s') → P s')
    (h : P s) (hrun : FurtherRun link config key handle count page session s result session' s') :
    P s' := by
  induction hrun with
  | enough => exact h
  | failed hfailed => exact hsent _ _ _ h hfailed
  | rejected hrejected => exact hsent _ _ _ h hrejected
  | ended hended hbad hresponse => exact hsent _ _ _ h hended
  | short hshort hids hlength => exact hsent _ _ _ h hshort
  | full hfull hids hlength hrest ih => exact ih (hsent _ _ _ h hfull)

theorem FurtherRun.handles_eq {handle : UInt32} {count page : Nat} {result : Except SearchError Unit}
    (hrun : FurtherRun link config key handle count page session s result session' s') :
    session'.handles = session.handles := by
  induction hrun with
  | enough => rfl
  | failed hfailed => rfl
  | rejected hrejected => rfl
  | ended hended hbad hresponse => rfl
  | short hshort hids hlength => rfl
  | full hfull hids hlength hrest ih => exact ih

theorem PageRun.exists_further {handle : UInt32} {page : Nat}
    {result : Except SearchError (List UInt32)}
    (hrun : PageRun link config key handle page session s result session' s') :
    ∃ count first ending, FurtherRun link config key handle count first session s ending session' s' := by
  cases hrun with
  | cached hpage | exhausted hpage hexhausted => exact ⟨0, 0, _, .enough⟩
  | failed hpage hopen hfurther | found hpage hopen hfurther hfound
  | missing hpage hopen hfurther hmissing => exact ⟨_, _, _, hfurther⟩

theorem PageRun.handles_eq {handle : UInt32} {page : Nat} {result : Except SearchError (List UInt32)}
    (hrun : PageRun link config key handle page session s result session' s') :
    session'.handles = session.handles := by
  obtain ⟨_, _, _, hfurther⟩ := hrun.exists_further
  exact hfurther.handles_eq

theorem PageRun.handle?_eq {handle : UInt32} {page : Nat} {result : Except SearchError (List UInt32)}
    (hrun : PageRun link config key handle page session s result session' s') (other : Text) :
    session'.handle? other = session.handle? other := by
  unfold Session.handle?
  rw [hrun.handles_eq]

theorem PageRun.preserves {handle : UInt32} {page : Nat}
    {result : Except SearchError (List UInt32)}
    (hsent : ∀ s result s', P s → sent link config (.existing handle) s = (result, s') → P s')
    (h : P s) (hrun : PageRun link config key handle page session s result session' s') : P s' := by
  obtain ⟨_, _, _, hfurther⟩ := hrun.exists_further
  exact hfurther.preserves hsent h

theorem FetchRun.preserves {page : Nat} {result : Except SearchError (List UInt32)}
    (hsent : ∀ request s result s', P s → sent link config request s = (result, s') → P s')
    (h : P s) (hrun : FetchRun link config key page session s result session' s') : P s' := by
  cases hrun with
  | refused hhandle => exact hhandle.preserves hsent h
  | handled hhandle hpage => exact hpage.preserves (hsent _) (hhandle.preserves hsent h)

theorem FetchRun.page_of_known {page : Nat} {handle : UInt32}
    {result : Except SearchError (List UInt32)} (hknown : session.handle? key = some handle)
    (hrun : FetchRun link config key page session s result session' s') :
    PageRun link config key handle page (session.beginResults key) s result session' s' := by
  cases hrun with
  | refused hrefused =>
    cases hrefused with
    | failed hnew | rejected hnew =>
      rw [hknown] at hnew
      cases hnew
  | handled hhandled hpage =>
    cases hhandled with
    | accepted hnew =>
      rw [hknown] at hnew
      cases hnew
    | known hhandle =>
      rw [hknown, Option.some.injEq] at hhandle
      subst hhandle
      exact hpage

/--
Whatever is sent now fails, and `Q` says how.
-/
def SendFails (link : Link (StateM σ)) (config : ClientConfig) (s : σ) (Q : SearchError → σ → Prop) :
    Prop :=
  ∀ request, ∃ e s', sent link config request s = (.error e, s') ∧ Q e s'

variable {Q : SearchError → σ → Prop}

theorem HandleRun.of_sendFails {result : Except SearchError UInt32}
    (hfails : SendFails link config s Q)
    (hrun : HandleRun link config key session s result session' s') :
    s' = s ∨ ∃ e, result = .error e ∧ Q e s' := by
  obtain ⟨e, after, hfail, hQ⟩ := hfails (.new key)
  cases hrun with
  | known hknown => exact .inl rfl
  | failed hnew hsent =>
    rw [hfail] at hsent
    cases hsent
    exact .inr ⟨e, rfl, hQ⟩
  | rejected hnew hsent | accepted hnew hsent =>
    rw [hfail] at hsent
    cases hsent

theorem FurtherRun.of_sendFails {handle : UInt32} {count page : Nat}
    {result : Except SearchError Unit} (hfails : SendFails link config s Q)
    (hrun : FurtherRun link config key handle count page session s result session' s') :
    s' = s ∨ ∃ e, result = .error e ∧ Q e s' := by
  obtain ⟨e, after, hfail, hQ⟩ := hfails (.existing handle)
  cases hrun with
  | enough => exact .inl rfl
  | failed hsent =>
    rw [hfail] at hsent
    cases hsent
    exact .inr ⟨e, rfl, hQ⟩
  | rejected hsent | ended hsent | short hsent | full hsent =>
    rw [hfail] at hsent
    cases hsent

theorem PageRun.of_sendFails {handle : UInt32} {page : Nat}
    {result : Except SearchError (List UInt32)} (hfails : SendFails link config s Q)
    (hrun : PageRun link config key handle page session s result session' s') :
    s' = s ∨ ∃ e, result = .error e ∧ Q e s' := by
  cases hrun with
  | cached hpage => exact .inl rfl
  | exhausted hpage hexhausted => exact .inl rfl
  | failed hpage hopen hfurther =>
    rcases hfurther.of_sendFails hfails with rfl | ⟨e, he, hQ⟩
    · exact .inl rfl
    · cases he
      exact .inr ⟨_, rfl, hQ⟩
  | found hpage hopen hfurther | missing hpage hopen hfurther =>
    rcases hfurther.of_sendFails hfails with rfl | ⟨e, he, -⟩
    · exact .inl rfl
    · cases he

theorem FetchRun.of_sendFails {page : Nat} {result : Except SearchError (List UInt32)}
    (hfails : SendFails link config s Q)
    (hrun : FetchRun link config key page session s result session' s') :
    s' = s ∨ ∃ e, result = .error e ∧ Q e s' := by
  cases hrun with
  | refused hhandle =>
    rcases hhandle.of_sendFails hfails with rfl | ⟨e, he, hQ⟩
    · exact .inl rfl
    · cases he
      exact .inr ⟨_, rfl, hQ⟩
  | handled hhandle hpage =>
    rcases hhandle.of_sendFails hfails with rfl | ⟨e, he, -⟩
    · exact hpage.of_sendFails hfails
    · cases he

end

theorem handleOf_run (key : Text) (client : ClientState) (s : σ) :
    HandleRun link config key client.session s
      (runOn (handleOf link config key) client s).1
      (runOn (handleOf link config key) client s).2.1.session
      (runOn (handleOf link config key) client s).2.2 := by
  unfold handleOf
  simp only [runOn_bind, runOn_get]
  cases hhandle : client.session.handle? key with
  | some handle => exact .known hhandle
  | none =>
    obtain ⟨metrics, hsend⟩ := runOn_send link config (.new key)
      { client with session := (client.session.register key).2 } s
    simp only [runOn_bind, runOn_get, runOn_modifySession, hsend]
    rcases hsent : sent link config (.new key) s with ⟨e | response, s'⟩
    · exact .failed hhandle hsent
    · cases response with
      | bad => exact .rejected hhandle hsent
      | ok => exact .accepted hhandle hsent (by simp)
      | payload ids => exact .accepted hhandle hsent (by simp)
      | unrecognized code => exact .accepted hhandle hsent (by simp)

theorem fetchFurther_run (key : Text) (handle : UInt32) (count page : Nat) (client : ClientState)
    (s : σ) :
    FurtherRun link config key handle count page client.session s
      (runOn (fetchFurther link config key handle count page) client s).1
      (runOn (fetchFurther link config key handle count page) client s).2.1.session
      (runOn (fetchFurther link config key handle count page) client s).2.2 := by
  induction count generalizing page client s with
  | zero => exact .enough
  | succ count ih =>
    unfold fetchFurther
    obtain ⟨metrics, hsend⟩ := runOn_send link config (.existing handle) client s
    simp only [runOn_bind, hsend]
    rcases hsent : sent link config (.existing handle) s with ⟨e | response, s'⟩
    · exact .failed hsent
    · cases response with
      | bad => exact .rejected hsent
      | ok => exact .ended hsent (by simp) (by simp)
      | unrecognized code => exact .ended hsent (by simp) (by simp)
      | payload ids =>
        by_cases hids : ids = []
        · subst hids
          exact .ended hsent (by simp) (by simp)
        · have hempty : ids.isEmpty = false := by
            rw [List.isEmpty_eq_false_iff]
            exact hids
          simp only [hempty, Bool.false_eq_true, ↓reduceIte, runOn_bind, runOn_modifySession]
          by_cases hshort : ids.length < config.fullPage
          · rw [if_pos hshort]
            exact .short hsent hids hshort
          · rw [if_neg hshort]
            have hrest := ih (page + 1) ⟨client.session.appendPage key ids, metrics⟩ s'
            exact .full hsent hids (by omega) hrest

theorem fetchPage_run (expr : ResolvedExpr) (page : Nat) (client : ClientState) (s : σ) :
    FetchRun link config expr.wire page client.session s
      (runOn (fetchPage link config expr page) client s).1
      (runOn (fetchPage link config expr page) client s).2.1.session
      (runOn (fetchPage link config expr page) client s).2.2 := by
  unfold fetchPage
  have hhandle := handleOf_run link config expr.wire client s
  simp only [runOn_bind]
  revert hhandle
  rcases runOn (handleOf link config expr.wire) client s with ⟨e | handle, client', s'⟩
  · intro hhandle
    exact .refused hhandle
  · intro hhandle
    apply FetchRun.handled hhandle
    simp only [runOn_modifySession, runOn_get]
    generalize client'.session.beginResults expr.wire = session
    cases hpage : (session.cached expr.wire).page? page config.fullPage with
    | some ids => exact .cached hpage
    | none =>
      cases hopen : (session.cached expr.wire).isExhausted config.fullPage with
      | true => exact .exhausted hpage hopen
      | false =>
        have hfurther := fetchFurther_run link config expr.wire handle
          (page + 1 - (session.cached expr.wire).pagesCovered config.fullPage)
          ((session.cached expr.wire).pagesCovered config.fullPage)
          { client' with session := session } s'
        simp only [Bool.false_eq_true, ↓reduceIte, runOn_bind]
        revert hfurther
        rcases runOn (fetchFurther link config expr.wire handle _ _) _ s' with
          ⟨e | _, client'', s''⟩
        · intro hfurther
          exact .failed hpage hopen hfurther
        · intro hfurther
          simp only [runOn_get]
          cases hfound : (client''.session.cached expr.wire).page? page config.fullPage with
          | some ids => exact .found hpage hopen hfurther hfound
          | none => exact .missing hpage hopen hfurther hfound

end ClientM

end BooleanSearch
