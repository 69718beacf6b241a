import BooleanSearch.Proofs.Retrieval.Dialogue

/-!
This module contains the relation between the two numberings of queries. The client numbers every
expression when it is first called for, the backend numbers the ones that it learns of, and a page that
is fetched under a handle comes from the list of the expression that has this number in the backend.
This holds under every schedule.
-/

namespace BooleanSearch

/--
A document that the backend can give out under a handle.
-/
def SimulatedBackend.Lists (backend : SimulatedBackend) (script : Script) (handle : UInt32)
    (id : UInt32) : Prop :=
  ∃ owner, backend.registered[handle.toNat]? = some owner ∧ id ∈ script.listOf owner

theorem SimulatedBackend.Lists.serve_existing {backend : SimulatedBackend} {script : Script}
    {handle id : UInt32} (hlists : backend.Lists script handle id) (other : UInt32) :
    (backend.serve (.existing other)).Lists script handle id := by
  unfold Lists
  rw [registered_serve_existing]
  exact hlists

theorem SimulatedBackend.Lists.serve_new {backend : SimulatedBackend} {script : Script}
    {handle id : UInt32} (hlists : backend.Lists script handle id) (key : Text) :
    (backend.serve (.new key)).Lists script handle id := by
  obtain ⟨owner, howner, hid⟩ := hlists
  refine ⟨owner, ?_, hid⟩
  rw [registered_serve_new, List.getElem?_append_left]
  · exact howner
  · exact (List.getElem?_eq_some_iff.mp howner).1

/--
The state of a client that was called for the given expressions, in the order of their first calls.
-/
structure Numbered (script : Script) (keys : List Text) (session : Session)
    (backend : SimulatedBackend) : Prop where
  follows : backend.Follows script
  nodup : keys.Nodup
  queryCount : session.queryCount = keys.length
  handle? : ∀ key, session.handle? key =
    if key ∈ keys then some (.ofNat (keys.idxOf key)) else none
  registered : backend.registered.Sublist keys
  slots : backend.slots.map (Option.map Cursor.ids) =
    backend.registered.map fun key => (script.firstSlot key).map Cursor.ids
  cached : ∀ key, ∀ id ∈ session.cached key, ∃ handle,
    session.handle? key = some handle ∧ backend.Lists script handle id

namespace Numbered

variable {script : Script} {keys : List Text} {session : Session} {backend : SimulatedBackend}
variable {key : Text} {handle : UInt32}

theorem start (script : Script) : Numbered script [] {} script.backend where
  follows := ⟨rfl, rfl, rfl, rfl⟩
  nodup := List.nodup_nil
  queryCount := rfl
  handle? := by
    intro key
    simp [Session.handle?]
  registered := List.Sublist.refl _
  slots := rfl
  cached := by
    intro key id hid
    simp [Session.cached, Session.results?] at hid

theorem not_mem_of_new (h : Numbered script keys session backend)
    (hnew : session.handle? key = none) : key ∉ keys := by
  rw [h.handle?] at hnew
  split at hnew
  next => cases hnew
  next hkey => exact hkey

theorem addDistinct_of_new (h : Numbered script keys session backend)
    (hnew : session.handle? key = none) : Text.addDistinct keys key = keys ++ [key] := by
  unfold Text.addDistinct
  rw [if_neg (h.not_mem_of_new hnew)]

theorem addDistinct_of_known (h : Numbered script keys session backend)
    (hknown : session.handle? key = some handle) : Text.addDistinct keys key = keys := by
  rw [h.handle?] at hknown
  split at hknown
  next hkey =>
    unfold Text.addDistinct
    rw [if_pos hkey]
  next => cases hknown

theorem getElem?_toNat (h : Numbered script keys session backend)
    (hcount : keys.length ≤ UInt32.size) (hhandle : session.handle? key = some handle) :
    keys[handle.toNat]? = some key := by
  rw [h.handle?] at hhandle
  split at hhandle
  next hkey =>
    have hlt : keys.idxOf key < keys.length := List.idxOf_lt_length_of_mem hkey
    rw [Option.some.injEq] at hhandle
    rw [← hhandle, UInt32.toNat_ofNat_of_lt' (by omega), List.getElem?_eq_getElem hlt]
    simp
  next => cases hhandle

theorem handle?_eq_some_iff (h : Numbered script keys session backend)
    (hcount : keys.length ≤ UInt32.size) :
    session.handle? key = some handle ↔ keys[handle.toNat]? = some key := by
  constructor
  · exact h.getElem?_toNat hcount
  · intro hkey
    obtain ⟨hlt, hget⟩ := List.getElem?_eq_some_iff.mp hkey
    have hmem : key ∈ keys := List.mem_of_getElem? hkey
    rw [h.handle?, if_pos hmem, ← hget, h.nodup.idxOf_getElem, UInt32.ofNat_toNat]

theorem withFate (h : Numbered script keys session backend) (fate : Fate) :
    Numbered script keys session (backend.withFate fate) := by
  cases fate <;> exact { h with follows := h.follows.withFate _ }

theorem lists_of_slot (h : Numbered script keys session backend) {cursor : Cursor} {id : UInt32}
    (hslot : backend.slots[handle.toNat]? = some (some cursor)) (hid : id ∈ cursor.ids) :
    backend.Lists script handle id := by
  have hslots := congrArg (·[handle.toNat]?) h.slots
  simp only [List.getElem?_map, hslot] at hslots
  cases howner : backend.registered[handle.toNat]? with
  | none => simp [howner] at hslots
  | some owner =>
    refine ⟨owner, howner, ?_⟩
    simp only [howner, Option.map_some, Script.firstSlot] at hslots
    split at hslots
    · simp at hslots
    · simp only [Option.map_some, Option.some.injEq] at hslots
      rw [← hslots]
      exact hid

theorem cached_eq_nil (h : Numbered script keys session backend)
    (hnew : session.handle? key = none) : session.cached key = [] := by
  rw [List.eq_nil_iff_forall_not_mem]
  intro id hid
  obtain ⟨handle, hhandle, -⟩ := h.cached key id hid
  rw [hnew] at hhandle
  cases hhandle

theorem serve_existing (h : Numbered script keys session backend) (handle : UInt32) :
    Numbered script keys session (backend.serve (.existing handle)) where
  follows := h.follows.serve _
  nodup := h.nodup
  queryCount := h.queryCount
  handle? := h.handle?
  registered := by
    rw [SimulatedBackend.registered_serve_existing]
    exact h.registered
  slots := by
    rw [SimulatedBackend.registered_serve_existing, ← h.slots]
    apply List.ext_getElem?
    intro i
    rw [List.getElem?_map, List.getElem?_map, SimulatedBackend.slot_serve_existing]
    split
    · rcases backend.slots[i]? with _ | _ | cursor <;> rfl
    · rfl
  cached := by
    intro key id hid
    obtain ⟨handle, hhandle, hlists⟩ := h.cached key id hid
    exact ⟨handle, hhandle, hlists.serve_existing _⟩

theorem extend (h : Numbered script keys session backend) {ids : List UInt32}
    {session' : Session} (hextends : session.Extends key ids session')
    (hids : ∀ id ∈ ids, ∃ handle, session.handle? key = some handle ∧
      backend.Lists script handle id) :
    Numbered script keys session' backend where
  follows := h.follows
  nodup := h.nodup
  queryCount := by
    rw [hextends.queryCount]
    exact h.queryCount
  handle? := by
    intro other
    rw [hextends.handle?]
    exact h.handle? other
  registered := h.registered
  slots := h.slots
  cached := by
    intro other id hid
    rw [hextends.handle?]
    rw [hextends.cached] at hid
    by_cases hkey : key = other
    · subst hkey
      rw [if_pos rfl, List.mem_append] at hid
      cases hid with
      | inl hold => exact h.cached key id hold
      | inr hnew => exact hids id hnew
    · rw [if_neg hkey] at hid
      exact h.cached other id hid

theorem beginResults (h : Numbered script keys session backend) (key : Text) :
    Numbered script keys (session.beginResults key) backend := by
  apply h.extend (session.extends_beginResults key)
  intro id hid
  cases hid

theorem appendPage (h : Numbered script keys session backend) {ids : List UInt32}
    (hhandle : session.handle? key = some handle)
    (hids : ∀ id ∈ ids, backend.Lists script handle id) :
    Numbered script keys (session.appendPage key ids) backend := by
  apply h.extend (session.extends_appendPage key ids)
  intro id hid
  exact ⟨handle, hhandle, hids id hid⟩

theorem register (h : Numbered script keys session backend)
    (hnew : session.handle? key = none) :
    Numbered script (keys ++ [key]) (session.register key).2 backend := by
  have hkey := h.not_mem_of_new hnew
  refine { h with nodup := ?_, queryCount := ?_, handle? := ?_, registered := ?_, cached := ?_ }
  · rw [List.nodup_append]
    refine ⟨h.nodup, List.pairwise_singleton _ key, ?_⟩
    intro other hother last hlast heq
    rw [List.mem_singleton.mp hlast] at heq
    exact hkey (heq ▸ hother)
  · rw [Session.queryCount_register hnew, h.queryCount, List.length_append]
    rfl
  · intro other
    rw [Session.handle?_register, Session.register_of_handle?_eq_none hnew, h.queryCount,
      h.handle?, List.idxOf_append]
    by_cases heq : key = other
    · subst heq
      simp [hkey]
    · by_cases hother : other ∈ keys <;> simp [heq, hother, Ne.symm heq]
  · exact h.registered.trans (List.sublist_append_left keys [key])
  · intro other id hid
    rw [Session.cached_register] at hid
    obtain ⟨handle, hhandle, hlists⟩ := h.cached other id hid
    -- Nothing is cached for an expression that has no handle.
    have hne : key ≠ other := by
      rintro rfl
      rw [hnew] at hhandle
      cases hhandle
    refine ⟨handle, ?_, hlists⟩
    rw [Session.handle?_register, if_neg hne]
    exact hhandle

theorem register_serve (h : Numbered script keys session backend)
    (hnew : session.handle? key = none) :
    Numbered script (keys ++ [key]) (session.register key).2 (backend.serve (.new key)) := by
  refine { h.register hnew with follows := ?_, registered := ?_, slots := ?_, cached := ?_ }
  · exact h.follows.serve _
  · rw [SimulatedBackend.registered_serve_new]
    exact h.registered.append (List.Sublist.refl _)
  · rw [h.follows.slots_serve_new, SimulatedBackend.registered_serve_new, List.map_append,
      List.map_append, h.slots]
    rfl
  · intro other id hid
    obtain ⟨handle, hhandle, hlists⟩ := (h.register hnew).cached other id hid
    exact ⟨handle, hhandle, hlists.serve_new key⟩

variable {schedule : Schedule} {config : ClientConfig} {line line' : Line} {session' : Session}

theorem deliver_new {retries : Nat} {result : Except SearchError Response}
    (h : Numbered script keys session line.backend) (hnew : session.handle? key = none)
    (hdelivery : line.Delivery schedule (.new key) retries result line') :
    Numbered script (keys ++ [key]) (session.register key).2 line'.backend := by
  induction hdelivery with
  | refused hencode => exact h.register hnew
  | undelivered hfate => exact (h.withFate .answered).register hnew
  | again hfate hrest ih => exact ih (h.withFate .answered)
  | lost hfate => exact h.register_serve hnew
  | answered hfate => exact h.register_serve hnew

theorem deliver_existing {retries : Nat} {result : Except SearchError Response}
    (h : Numbered script keys session line.backend)
    (hdelivery : line.Delivery schedule (.existing handle) retries result line') :
    Numbered script keys session line'.backend ∧
      ∀ ids, result = .ok (.payload ids) → ∀ id ∈ ids, line'.backend.Lists script handle id := by
  induction hdelivery with
  | refused hencode => exact ⟨h, by simp⟩
  | undelivered hfate => exact ⟨h.withFate .answered, by simp⟩
  | again hfate hrest ih => exact ih (h.withFate .answered)
  | lost hfate => exact ⟨h.serve_existing handle, by simp⟩
  | @answered retries line hfate =>
    have hserved := h.serve_existing handle
    refine ⟨hserved, ?_⟩
    intro ids hids id hid
    rw [Except.ok.injEq] at hids
    obtain ⟨cursor, hslot, rfl⟩ := SimulatedBackend.slot_of_carried_answer hids
    have hmem : id ∈ cursor.ids :=
      List.mem_of_mem_take (List.mem_of_mem_drop (List.mem_of_mem_take hid))
    exact (h.lists_of_slot hslot hmem).serve_existing handle

theorem handle_run {result : Except SearchError UInt32}
    (h : Numbered script keys session line.backend)
    (hrun : ClientM.HandleRun (Line.link schedule) config key session line result session' line') :
    Numbered script (Text.addDistinct keys key) session' line'.backend ∧
      ∀ handle, result = .ok handle → session'.handle? key = some handle := by
  have hdelivered {result : Except SearchError Response} {line' : Line}
      (hnew : session.handle? key = none)
      (hsent : ClientM.sent (Line.link schedule) config (.new key) line = (result, line')) :
      Numbered script (Text.addDistinct keys key) (session.register key).2 line'.backend := by
    have hdelivery := Line.delivery_of_sent h.follows.replaced hsent
    rw [h.addDistinct_of_new hnew]
    exact h.deliver_new hnew hdelivery
  cases hrun with
  | @known handle hknown =>
    rw [h.addDistinct_of_known hknown]
    refine ⟨h, ?_⟩
    intro other hother
    rw [Except.ok.injEq] at hother
    rw [hknown, hother]
  | failed hnew hsent => exact ⟨hdelivered hnew hsent, by simp⟩
  | rejected hnew hsent => exact ⟨hdelivered hnew hsent, by simp⟩
  | accepted hnew hsent hresponse =>
    refine ⟨(hdelivered hnew hsent).beginResults key, ?_⟩
    intro other hother
    rw [Except.ok.injEq] at hother
    rw [Session.handle?_beginResults, Session.handle?_register, if_pos rfl, hother]

theorem further_run {count page : Nat} {result : Except SearchError Unit}
    (h : Numbered script keys session line.backend) (hhandle : session.handle? key = some handle)
    (hrun : ClientM.FurtherRun (Line.link schedule) config key handle count page session line result
      session' line') :
    Numbered script keys session' line'.backend := by
  induction hrun with
  | enough => exact h
  | failed hsent => exact (h.deliver_existing (Line.delivery_of_sent h.follows.replaced hsent)).1
  | rejected hsent => exact (h.deliver_existing (Line.delivery_of_sent h.follows.replaced hsent)).1
  | ended hsent hbad hresponse =>
    exact (h.deliver_existing (Line.delivery_of_sent h.follows.replaced hsent)).1
  | short hsent hids hshort =>
    obtain ⟨hserved, hlists⟩ :=
      h.deliver_existing (Line.delivery_of_sent h.follows.replaced hsent)
    exact hserved.appendPage hhandle (hlists _ rfl)
  | full hsent hids hfull hrest ih =>
    obtain ⟨hserved, hlists⟩ :=
      h.deliver_existing (Line.delivery_of_sent h.follows.replaced hsent)
    exact ih (hserved.appendPage hhandle (hlists _ rfl)) hhandle

theorem page_run {page : Nat} {result : Except SearchError (List UInt32)}
    (h : Numbered script keys session line.backend) (hhandle : session.handle? key = some handle)
    (hrun : ClientM.PageRun (Line.link schedule) config key handle page session line result session'
      line') :
    Numbered script keys session' line'.backend := by
  obtain ⟨_, _, _, hfurther⟩ := hrun.exists_further
  exact h.further_run hhandle hfurther

theorem fetch_run {page : Nat} {result : Except SearchError (List UInt32)}
    (h : Numbered script keys session line.backend)
    (hrun : ClientM.FetchRun (Line.link schedule) config key page session line result session'
      line') :
    Numbered script (Text.addDistinct keys key) session' line'.backend := by
  cases hrun with
  | refused hhandle => exact (h.handle_run hhandle).1
  | handled hhandle hpage =>
    obtain ⟨hnumbered, hknown⟩ := h.handle_run hhandle
    exact (hnumbered.beginResults key).page_run (hknown _ rfl) hpage

theorem after (schedule : Schedule) (config : ClientConfig) (script : Script)
    (calls : List (ResolvedExpr × Nat)) :
    Numbered script (Dialogue.keys calls)
      (Dialogue.after schedule config script calls).client.session
      (Dialogue.after schedule config script calls).line.backend := by
  apply Dialogue.after_induction schedule config (motive := fun keys dialogue =>
    Numbered script keys dialogue.client.session dialogue.line.backend)
  · exact start script
  · intro keys dialogue expr page h
    exact h.fetch_run (Dialogue.fetch_run schedule config dialogue expr page)

end Numbered

end BooleanSearch
