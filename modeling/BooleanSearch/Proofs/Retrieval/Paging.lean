import BooleanSearch.Proofs.Retrieval.Numbering
import BooleanSearch.Proofs.Retrieval.Pages

/-!
This module contains the relation between what a client has cached and what the backend has handed out
when every request is delivered. The cursor of an expression has gone over as many pages as were asked
for under its handle, and the cache has those of them whose answers arrived.
-/

namespace BooleanSearch

def Script.slot (script : Script) (key : Text) (pages : Nat) : Option Cursor :=
  (script.firstSlot key).map fun cursor =>
    { cursor with position := min (pages * script.pageSize) cursor.ids.length }

theorem Script.slot_advance (script : Script) (key : Text) (pages : Nat) :
    (script.slot key pages).map (·.advance script.pageSize) = script.slot key (pages + 1) := by
  unfold slot firstSlot
  split
  · rfl
  · simp only [Option.map_some]
    rw [Cursor.advance_eq]

/--
The number of IDs of a page is written with 32 bits.
-/
def Script.FitsWire (script : Script) (key : Text) : Prop :=
  min script.pageSize (script.listOf key).length < UInt32.size

structure Paged (script : Script) (keys : List Text) (session : Session) (line : Line) : Prop where
  numbered : Numbered script keys session line.backend
  count : keys.length ≤ UInt32.size
  registered : line.backend.registered = keys
  fresh : ∀ handle, keys.length ≤ handle.toNat → line.pageFates handle = []
  slot : ∀ key handle, session.handle? key = some handle →
    line.backend.slots[handle.toNat]? = some (script.slot key (line.pageFates handle).length)
  rejected : ∀ key ∈ script.rejected, session.cached key = []
  cached : ∀ key handle, session.handle? key = some handle → key ∉ script.rejected →
    script.FitsWire key →
    session.cached key = kept (script.listOf key) script.pageSize 0 (line.pageFates handle)

theorem Script.FitsWire.length_pageOf_lt {script : Script} {key : Text} (h : script.FitsWire key)
    (page : Nat) : (pageOf (script.listOf key) page script.pageSize).length < UInt32.size := by
  unfold FitsWire at h
  rw [length_pageOf]
  omega

namespace Paged

variable {script : Script} {keys : List Text} {session session' : Session} {line line' : Line}
variable {key : Text} {handle : UInt32} {fate : Fate}

theorem start (script : Script) : Paged script [] {} { backend := script.backend } where
  numbered := Numbered.start script
  count := Nat.zero_le _
  registered := rfl
  fresh := by
    intro handle hhandle
    rfl
  slot := by
    intro key handle hhandle
    rw [(Numbered.start script).handle?] at hhandle
    cases hhandle
  rejected := by
    intro key hkey
    simp [Session.cached, Session.results?]
  cached := by
    intro key handle hhandle
    rw [(Numbered.start script).handle?] at hhandle
    cases hhandle

theorem miss (h : Paged script keys session line) (request : Request) :
    Paged script keys session (line.miss request) where
  numbered := h.numbered.withFate .answered
  count := h.count
  registered := h.registered
  fresh := by
    intro handle hhandle
    rw [Line.pageFates_miss]
    exact h.fresh handle hhandle
  slot := by
    intro key handle hhandle
    rw [Line.pageFates_miss]
    exact h.slot key handle hhandle
  rejected := h.rejected
  cached := by
    intro key handle hhandle
    rw [Line.pageFates_miss]
    exact h.cached key handle hhandle

theorem eq_of_handle? (h : Paged script keys session line) {other : Text}
    (hkey : session.handle? key = some handle) (hother : session.handle? other = some handle) :
    key = other := by
  have hkey := h.numbered.getElem?_toNat h.count hkey
  rw [h.numbered.getElem?_toNat h.count hother, Option.some.injEq] at hkey
  exact hkey.symm

theorem handle_lt (h : Paged script keys session line) (hkey : session.handle? key = some handle) :
    handle.toNat < keys.length :=
  (List.getElem?_eq_some_iff.mp (h.numbered.getElem?_toNat h.count hkey)).1

theorem length_slots (h : Paged script keys session line) :
    line.backend.slots.length = keys.length := by
  have hlength := congrArg List.length h.numbered.slots
  rw [List.length_map, List.length_map, h.registered] at hlength
  exact hlength

theorem register_serve (h : Paged script keys session line) (hnew : session.handle? key = none)
    (hcount : keys.length < UInt32.size) (fate : Fate) :
    Paged script (keys ++ [key]) (session.register key).2 (line.serve (.new key) fate) := by
  have hnumbered := h.numbered.register_serve hnew
  have hhandle : (session.register key).1.toNat = keys.length := by
    rw [Session.register_of_handle?_eq_none hnew, h.numbered.queryCount]
    exact UInt32.toNat_ofNat_of_lt' hcount
  have hfresh : line.pageFates (session.register key).1 = [] := h.fresh _ (by omega)
  have hslots : (line.serve (.new key) fate).backend.slots =
      line.backend.slots ++ [script.firstSlot key] :=
    h.numbered.follows.slots_serve_new key
  refine ⟨hnumbered, ?_, ?_, ?_, ?_, ?_, ?_⟩
  · rw [List.length_append, List.length_singleton]
    omega
  · rw [← h.registered]
    exact SimulatedBackend.registered_serve_new line.backend key
  · intro handle hle
    rw [List.length_append] at hle
    rw [Line.pageFates_serve_new]
    exact h.fresh handle (by omega)
  · intro other otherHandle hother
    rw [Session.handle?_register] at hother
    rw [Line.pageFates_serve_new, hslots]
    by_cases heq : key = other
    · subst heq
      rw [if_pos rfl, Option.some.injEq] at hother
      -- Both numberings go on with the same number, under which no page was asked for.
      rw [← hother, hfresh, hhandle, ← h.length_slots, List.getElem?_concat_length]
      unfold Script.slot Script.firstSlot
      split <;> simp
    · rw [if_neg heq] at hother
      have hlt := h.handle_lt hother
      rw [← h.length_slots] at hlt
      rw [List.getElem?_append_left hlt]
      exact h.slot other otherHandle hother
  · intro other hother
    rw [Session.cached_register]
    exact h.rejected other hother
  · intro other otherHandle hother hrejected hfits
    rw [Session.handle?_register] at hother
    rw [Line.pageFates_serve_new, Session.cached_register]
    by_cases heq : key = other
    · subst heq
      rw [if_pos rfl, Option.some.injEq] at hother
      rw [← hother, hfresh]
      exact h.numbered.cached_eq_nil hnew
    · rw [if_neg heq] at hother
      exact h.cached other otherHandle hother hrejected hfits

theorem serve_existing (h : Paged script keys session line)
    (hhandle : session.handle? key = some handle) (hfate : fate ≠ .undelivered)
    {ids : List UInt32} (hextends : session.Extends key ids session')
    (hlists : ∀ id ∈ ids, line.backend.Lists script handle id)
    (hrejected : key ∈ script.rejected → ids = [])
    (hids : key ∉ script.rejected → script.FitsWire key →
      ids = if fate = .answered then
        pageOf (script.listOf key) (line.pageFates handle).length script.pageSize else []) :
    Paged script keys session' (line.serve (.existing handle) fate) := by
  have hnumbered : Numbered script keys session' (line.backend.serve (.existing handle)) := by
    apply (h.numbered.serve_existing handle).extend hextends
    intro id hid
    exact ⟨handle, hhandle, (hlists id hid).serve_existing handle⟩
  refine ⟨hnumbered, h.count, ?_, ?_, ?_, ?_, ?_⟩
  · rw [← h.registered]
    exact SimulatedBackend.registered_serve_existing line.backend handle
  · intro other hle
    have hlt := h.handle_lt hhandle
    have hne : handle ≠ other := by
      rintro rfl
      omega
    rw [Line.pageFates_serve_existing line hfate, if_neg hne]
    exact h.fresh other hle
  · intro other otherHandle hother
    rw [hextends.handle?] at hother
    have hslot := h.slot other otherHandle hother
    show (line.backend.serve (.existing handle)).slots[otherHandle.toNat]? = _
    rw [SimulatedBackend.slot_serve_existing, Line.pageFates_serve_existing line hfate, hslot,
      h.numbered.follows.pageSize]
    by_cases heq : handle = otherHandle
    · rw [if_pos (congrArg UInt32.toNat heq), if_pos heq, List.length_append]
      exact congrArg some (script.slot_advance other _)
    · have hne : handle.toNat ≠ otherHandle.toNat := fun h => heq (UInt32.toNat_inj.mp h)
      rw [if_neg hne, if_neg heq]
  · intro other hother
    rw [hextends.cached]
    by_cases heq : key = other
    · subst heq
      rw [if_pos rfl, h.rejected key hother, hrejected hother]
      rfl
    · rw [if_neg heq]
      exact h.rejected other hother
  · intro other otherHandle hother hallowed hfits
    rw [hextends.handle?] at hother
    rw [hextends.cached, Line.pageFates_serve_existing line hfate]
    have hcached := h.cached other otherHandle hother hallowed hfits
    by_cases heq : key = other
    · subst heq
      rw [hhandle, Option.some.injEq] at hother
      subst hother
      rw [if_pos rfl, if_pos rfl, kept_concat, Nat.zero_add, hids hallowed hfits, hcached]
    · have hne : handle ≠ otherHandle := by
        rintro rfl
        exact heq (h.eq_of_handle? hhandle hother)
      rw [if_neg heq, if_neg hne]
      exact hcached

inductive PageReply (script : Script) (keys : List Text) (session : Session) (key : Text)
    (handle : UInt32) (schedule : Schedule) (line line' : Line) :
    Except SearchError Response → Prop where
  | lost {failure : IoFailure}
      (hfate : ∃ attempt, schedule attempt (.request (.existing handle)) = .lost)
      (hpaged : Paged script keys session line') :
      PageReply script keys session key handle schedule line line' (.error (.io failure))
  | rejected (hrejected : key ∈ script.rejected) (hpaged : Paged script keys session line') :
      PageReply script keys session key handle schedule line line' (.ok .bad)
  | answered {ids : List UInt32} (hallowed : key ∉ script.rejected)
      (hids : script.FitsWire key →
        ids = pageOf (script.listOf key) (line.pageFates handle).length script.pageSize)
      (hextends : ∀ session', session.Extends key ids session' → Paged script keys session' line') :
      PageReply script keys session key handle schedule line line' (.ok (.payload ids))

variable {schedule : Schedule} {config : ClientConfig} {retries : Nat}

theorem deliver_existing {result : Except SearchError Response}
    (h : Paged script keys session line) (hhandle : session.handle? key = some handle)
    (hdelivers : schedule.Delivers retries)
    (hdelivery : line.Delivery schedule (.existing handle) retries result line') :
    PageReply script keys session key handle schedule line line' result := by
  obtain ⟨served, ⟨hserved, hfates⟩, hreply⟩ := hdelivery.exists_reply
    (P := fun other => Paged script keys session other ∧
      other.pageFates handle = line.pageFates handle)
    hdelivers ⟨_, rfl⟩
    (fun other hother => ⟨hother.1.miss _, (other.pageFates_miss _ handle).trans hother.2⟩)
    ⟨h, rfl⟩
  cases hreply with
  | lost hfate =>
    apply PageReply.lost ⟨_, hfate⟩
    exact hserved.serve_existing hhandle (by simp) (session.extends_nil key) (by simp) (by simp)
      (by simp)
  | answered hfate =>
    have hslot := hserved.slot key handle hhandle
    have hpageSize := hserved.numbered.follows.pageSize
    rw [SimulatedBackend.answer_existing, hslot]
    by_cases hrejected : key ∈ script.rejected
    · have hnone : script.slot key (served.pageFates handle).length = none := by
        simp [Script.slot, Script.firstSlot, hrejected]
      rw [hnone]
      apply PageReply.rejected hrejected
      exact hserved.serve_existing hhandle (by simp) (session.extends_nil key) (by simp)
        (by simp) (by simp [hrejected])
    · have hsome : script.slot key (served.pageFates handle).length =
          some ⟨script.listOf key,
            min ((served.pageFates handle).length * script.pageSize) (script.listOf key).length⟩ := by
        simp [Script.slot, Script.firstSlot, hrejected]
      rw [hsome] at hslot ⊢
      simp only [hpageSize, Cursor.nextPage_eq_pageOf, hfates, Response.carried]
      -- The number of IDs is carried modulo 2^32, so only a shorter page arrives as it is.
      have hids (hfits : script.FitsWire key) :
          (pageOf (script.listOf key) (line.pageFates handle).length script.pageSize).take
              ((pageOf (script.listOf key) (line.pageFates handle).length
                script.pageSize).length % UInt32.size) =
            pageOf (script.listOf key) (line.pageFates handle).length script.pageSize := by
        rw [Nat.mod_eq_of_lt (hfits.length_pageOf_lt _), List.take_length]
      apply PageReply.answered hrejected hids
      intro session' hextends
      apply hserved.serve_existing hhandle (by simp) hextends
      · intro id hid
        have hmem := List.mem_of_mem_take hid
        unfold pageOf at hmem
        exact hserved.numbered.lists_of_slot hslot
          (List.mem_of_mem_drop (List.mem_of_mem_take hmem))
      · intro hmem
        exact absurd hmem hrejected
      · intro _ hfits
        rw [if_pos rfl, hfates]
        exact hids hfits

theorem beginResults (h : Paged script keys session line) (key : Text) :
    Paged script keys (session.beginResults key) line where
  numbered := h.numbered.beginResults key
  count := h.count
  registered := h.registered
  fresh := h.fresh
  slot := h.slot
  rejected := by
    intro other hother
    rw [Session.cached_beginResults]
    exact h.rejected other hother
  cached := by
    intro other handle hother
    rw [Session.cached_beginResults]
    exact h.cached other handle hother

inductive NewReply (script : Script) (key : Text) (made : List (Received × Fate)) :
    Except SearchError Response → Prop where
  | lost {failure : IoFailure} (hlost : (.request (.new key), .lost) ∈ made) :
      NewReply script key made (.error (.io failure))
  | rejected (hrejected : key ∈ script.rejected)
      (hanswered : (.request (.new key), .lost) ∉ made) :
      NewReply script key made (.ok .bad)
  | accepted (hallowed : key ∉ script.rejected)
      (hanswered : (.request (.new key), .lost) ∉ made) :
      NewReply script key made (.ok .ok)

theorem deliver_new {result : Except SearchError Response} (h : Paged script keys session line)
    (hnew : session.handle? key = none) (hcount : keys.length < UInt32.size)
    (hencode : ∃ bytes, (Request.new key).encode = .ok bytes)
    (hdelivers : schedule.Delivers retries)
    (hdelivery : line.Delivery schedule (.new key) retries result line') :
    Paged script (keys ++ [key]) (session.register key).2 line' ∧
      ∃ made, line'.attempts = line.attempts ++ made ∧ NewReply script key made result := by
  -- An attempt that is not delivered changes neither side and loses no response.
  have hmiss : ∀ other : Line,
      (Paged script keys session other ∧ ∃ missed, other.attempts = line.attempts ++ missed ∧
        (.request (.new key), .lost) ∉ missed) →
      Paged script keys session (other.miss (.new key)) ∧
        ∃ missed, (other.miss (.new key)).attempts = line.attempts ++ missed ∧
          (.request (.new key), .lost) ∉ missed := by
    intro other hother
    obtain ⟨hother, missed, hmissed, hfates⟩ := hother
    refine ⟨hother.miss _, missed ++ [(.request (.new key), .undelivered)], ?_, ?_⟩
    · rw [← List.append_assoc, ← hmissed]
      rfl
    · simp [hfates]
  obtain ⟨served, ⟨hserved, missed, hmissed, hfates⟩, hreply⟩ :=
    hdelivery.exists_reply hdelivers hencode hmiss ⟨h, [], (List.append_nil _).symm, by simp⟩
  cases hreply with
  | lost hfate =>
    refine ⟨hserved.register_serve hnew hcount .lost, missed ++ [(.request (.new key), .lost)],
      ?_, ?_⟩
    · rw [← List.append_assoc, ← hmissed]
      rfl
    · apply NewReply.lost
      simp
  | answered hfate =>
    have hanswered : (.request (.new key), .lost) ∉ missed ++
        [((.request (.new key) : Received), Fate.answered)] := by
      simp [hfates]
    refine ⟨hserved.register_serve hnew hcount .answered,
      missed ++ [(.request (.new key), .answered)], ?_, ?_⟩
    · rw [← List.append_assoc, ← hmissed]
      rfl
    · rw [hserved.numbered.follows.answer_new]
      by_cases hrejected : key ∈ script.rejected
      · rw [if_pos hrejected]
        exact .rejected hrejected hanswered
      · rw [if_neg hrejected]
        exact .accepted hrejected hanswered

inductive HandleReply (script : Script) (key : Text) (session : Session)
    (made : List (Received × Fate)) : Except SearchError UInt32 → Prop where
  | lost {failure : IoFailure} (hlost : (.request (.new key), .lost) ∈ made) :
      HandleReply script key session made (.error (.io failure))
  | rejected {fault : BackendFault} (hrejected : key ∈ script.rejected)
      (hanswered : (.request (.new key), .lost) ∉ made) :
      HandleReply script key session made (.error (.backendError fault))
  | known {handle : UInt32} (hhandle : session.handle? key = some handle)
      (hanswered : (.request (.new key), .lost) ∉ made) :
      HandleReply script key session made (.ok handle)

theorem handle_run {result : Except SearchError UInt32} (h : Paged script keys session line)
    (hcount : (Text.addDistinct keys key).length ≤ UInt32.size)
    (hencode : ∃ bytes, (Request.new key).encode = .ok bytes)
    (hdelivers : schedule.Delivers config.transportRetries)
    (hrun : ClientM.HandleRun (Line.link schedule) config key session line result session' line') :
    Paged script (Text.addDistinct keys key) session' line' ∧
      ∃ made, line'.attempts = line.attempts ++ made ∧
        HandleReply script key session' made result := by
  have hdelivered {result : Except SearchError Response} {line' : Line}
      (hnew : session.handle? key = none)
      (hsent : ClientM.sent (Line.link schedule) config (.new key) line = (result, line')) :
      Paged script (Text.addDistinct keys key) (session.register key).2 line' ∧
        ∃ made, line'.attempts = line.attempts ++ made ∧ NewReply script key made result := by
    rw [h.numbered.addDistinct_of_new hnew] at hcount ⊢
    rw [List.length_append, List.length_singleton] at hcount
    exact h.deliver_new hnew hcount hencode hdelivers
      (Line.delivery_of_sent h.numbered.follows.replaced hsent)
  cases hrun with
  | @known handle hknown =>
    rw [h.numbered.addDistinct_of_known hknown]
    exact ⟨h, [], (List.append_nil _).symm, .known hknown (by simp)⟩
  | failed hnew hsent =>
    obtain ⟨hpaged, made, hmade, hreply⟩ := hdelivered hnew hsent
    refine ⟨hpaged, made, hmade, ?_⟩
    cases hreply with
    | lost hlost => exact .lost hlost
  | rejected hnew hsent =>
    obtain ⟨hpaged, made, hmade, hreply⟩ := hdelivered hnew hsent
    refine ⟨hpaged, made, hmade, ?_⟩
    cases hreply with
    | rejected hrejected hanswered => exact .rejected hrejected hanswered
  | accepted hnew hsent hresponse =>
    obtain ⟨hpaged, made, hmade, hreply⟩ := hdelivered hnew hsent
    refine ⟨hpaged.beginResults key, made, hmade, ?_⟩
    cases hreply with
    | rejected hrejected hanswered => exact absurd rfl hresponse
    | accepted hallowed hanswered =>
      apply HandleReply.known
      · rw [Session.handle?_beginResults, Session.handle?_register, if_pos rfl]
      · exact hanswered

theorem send_existing {result : Except SearchError Response} (h : Paged script keys session line)
    (hhandle : session.handle? key = some handle)
    (hdelivers : schedule.Delivers config.transportRetries)
    (hsent : ClientM.sent (Line.link schedule) config (.existing handle) line = (result, line')) :
    PageReply script keys session key handle schedule line line' result :=
  h.deliver_existing hhandle hdelivers (Line.delivery_of_sent h.numbered.follows.replaced hsent)

theorem further_run {count page : Nat} {result : Except SearchError Unit}
    (h : Paged script keys session line) (hhandle : session.handle? key = some handle)
    (hdelivers : schedule.Delivers config.transportRetries)
    (hrun : ClientM.FurtherRun (Line.link schedule) config key handle count page session line result
      session' line') :
    Paged script keys session' line' := by
  induction hrun with
  | enough => exact h
  | failed hsent =>
    cases h.send_existing hhandle hdelivers hsent with
    | lost hfate hpaged => exact hpaged
  | rejected hsent =>
    cases h.send_existing hhandle hdelivers hsent with
    | rejected hrejected hpaged => exact hpaged
  | @ended count page session line line' response hsent hbad hresponse =>
    cases h.send_existing hhandle hdelivers hsent with
    | rejected hrejected hpaged => exact hpaged
    | answered hallowed hids hextends =>
      apply hextends
      rw [hresponse _ rfl]
      exact session.extends_nil key
  | @short count page session line line' ids hsent hids hshort =>
    cases h.send_existing hhandle hdelivers hsent with
    | answered hallowed hpage hextends => exact hextends _ (session.extends_appendPage key ids)
  | @full count page session session' line line' line'' ids result hsent hids hfull hrest ih =>
    cases h.send_existing hhandle hdelivers hsent with
    | answered hallowed hpage hextends =>
      exact ih (hextends _ (session.extends_appendPage key ids)) hhandle

theorem page_run {page : Nat} {result : Except SearchError (List UInt32)}
    (h : Paged script keys session line) (hhandle : session.handle? key = some handle)
    (hdelivers : schedule.Delivers config.transportRetries)
    (hrun : ClientM.PageRun (Line.link schedule) config key handle page session line result session'
      line') :
    Paged script keys session' line' := by
  obtain ⟨_, _, _, hfurther⟩ := hrun.exists_further
  exact h.further_run hhandle hdelivers hfurther

theorem fetch_run {page : Nat} {result : Except SearchError (List UInt32)}
    (h : Paged script keys session line)
    (hcount : (Text.addDistinct keys key).length ≤ UInt32.size)
    (hencode : ∃ bytes, (Request.new key).encode = .ok bytes)
    (hdelivers : schedule.Delivers config.transportRetries)
    (hrun : ClientM.FetchRun (Line.link schedule) config key page session line result session'
      line') :
    Paged script (Text.addDistinct keys key) session' line' := by
  cases hrun with
  | refused hhandle => exact (h.handle_run hcount hencode hdelivers hhandle).1
  | handled hhandle hpage =>
    obtain ⟨hpaged, made, hmade, hreply⟩ := h.handle_run hcount hencode hdelivers hhandle
    cases hreply with
    | known hknown hanswered => exact (hpaged.beginResults key).page_run hknown hdelivers hpage

theorem after (script : Script) (hdelivers : schedule.Delivers config.transportRetries)
    (calls : List (ResolvedExpr × Nat))
    (hcount : (Dialogue.keys calls).length ≤ UInt32.size)
    (hencode : ∀ key ∈ Dialogue.keys calls, ∃ bytes, (Request.new key).encode = .ok bytes) :
    Paged script (Dialogue.keys calls)
      (Dialogue.after schedule config script calls).client.session
      (Dialogue.after schedule config script calls).line := by
  revert hcount hencode
  apply Dialogue.after_induction schedule config (motive := fun keys dialogue =>
    keys.length ≤ UInt32.size →
    (∀ key ∈ keys, ∃ bytes, (Request.new key).encode = .ok bytes) →
    Paged script keys dialogue.client.session dialogue.line)
  · intro _ _
    exact start script
  · intro keys dialogue expr page h hcount hencode
    have hsublist := Text.sublist_addDistinct keys expr.wire
    have hmem := Text.mem_addDistinct keys expr.wire
    have hpaged := h (Nat.le_trans hsublist.length_le hcount)
      (fun key hkey => hencode key (hsublist.subset hkey))
    exact hpaged.fetch_run hcount (hencode expr.wire hmem) hdelivers
      (Dialogue.fetch_run schedule config dialogue expr page)

end Paged

end BooleanSearch
