import BooleanSearch.Proofs.Retrieval.Paging

/-!
This module contains the theorem that a client and a backend agree as long as every request is delivered
and no page is lost: the numbers of the slots are the handles, every cursor stands where the cache ends,
and every call is answered with the page that it asks for. The IDs of a page are counted with 32 bits,
so that a page of 2^32 of them is taken for an empty one.
-/

namespace BooleanSearch

/--
What is answered for a page of an expression whose registration was answered.
-/
def Script.Answers (script : Script) (key : Text) (page : Nat)
    (result : Except SearchError (List UInt32)) : Prop :=
  if key ∈ script.rejected then
    ∃ fault, result = .error (.backendError fault)
  else
    script.FitsWire key →
      result =
        if page * script.pageSize < (script.listOf key).length then
          .ok (pageOf (script.listOf key) page script.pageSize)
        else
          .error (.noResults page)

namespace Paged

variable {script : Script} {keys : List Text} {session session' : Session} {line line' : Line}
variable {key : Text} {handle : UInt32} {schedule : Schedule} {config : ClientConfig}

theorem cached_eq_take (h : Paged script keys session line) (hrecorded : line.Recorded schedule)
    (hanswered : ∀ number, schedule number (.request (.existing handle)) ≠ .lost)
    (hhandle : session.handle? key = some handle) (hallowed : key ∉ script.rejected)
    (hfits : script.FitsWire key) :
    session.cached key =
      (script.listOf key).take ((line.pageFates handle).length * script.pageSize) := by
  rw [h.cached key handle hhandle hallowed hfits,
    kept_eq_take (hrecorded.fate_eq_answered hanswered)]

theorem further_complete {count page : Nat} {result : Except SearchError Unit}
    (h : Paged script keys session line) (hrecorded : line.Recorded schedule)
    (hdelivers : schedule.Delivers config.transportRetries)
    (hanswered : ∀ number, schedule number (.request (.existing handle)) ≠ .lost)
    (hhandle : session.handle? key = some handle) (hallowed : key ∉ script.rejected)
    (hfits : script.FitsWire key) (hpageSize : config.fullPage = script.pageSize)
    (hrun : ClientM.FurtherRun (Line.link schedule) config key handle count page session line result
      session' line') :
    result = .ok () ∧
      ((session'.cached key).length =
          (session.cached key).length + count * script.pageSize ∨
        session'.cached key = script.listOf key) := by
  have hpositive : 1 ≤ script.pageSize := by
    rw [← hpageSize]
    exact Nat.le_max_right _ _
  induction hrun with
  | enough =>
    refine ⟨rfl, ?_⟩
    left
    omega
  | failed hsent =>
    cases h.send_existing hhandle hdelivers hsent with
    | lost hfate hpaged =>
      obtain ⟨number, hlost⟩ := hfate
      exact absurd hlost (hanswered number)
  | rejected hsent =>
    cases h.send_existing hhandle hdelivers hsent with
    | rejected hrejected hpaged => exact absurd hrejected hallowed
  | @ended count page session line line' response hsent hbad hresponse =>
    refine ⟨rfl, ?_⟩
    cases h.send_existing hhandle hdelivers hsent with
    | rejected hrejected hpaged => exact absurd hrejected hallowed
    | @answered ids hallowed hids hextends =>
      -- The cursor has reached the end of the list, and the cache has all that it went over.
      right
      rw [h.cached_eq_take hrecorded hanswered hhandle hallowed hfits]
      have hlength := length_pageOf (script.listOf key) (line.pageFates handle).length
        script.pageSize
      rw [← hids hfits, hresponse ids rfl, List.length_nil] at hlength
      apply List.take_of_length_le
      omega
  | @short count page session line line' ids hsent hids hshort =>
    refine ⟨rfl, ?_⟩
    cases h.send_existing hhandle hdelivers hsent with
    | answered hallowed hpage hextends =>
      right
      rw [Session.cached_appendPage, if_pos rfl,
        h.cached_eq_take hrecorded hanswered hhandle hallowed hfits, hpage hfits,
        take_append_pageOf]
      rw [hpage hfits, length_pageOf, hpageSize] at hshort
      apply List.take_of_length_le
      rw [Nat.succ_mul]
      omega
  | @full count page session session' line line' line'' ids result hsent hids hfull hrest ih =>
    cases h.send_existing hhandle hdelivers hsent with
    | answered hallowed hpage hextends =>
      have hpaged := hextends _ (session.extends_appendPage key ids)
      have hrecorded' := hrecorded.deliver
        (Line.delivery_of_sent h.numbered.follows.replaced hsent)
      obtain ⟨hok, hfar⟩ := ih hpaged hrecorded' hhandle
      refine ⟨hok, ?_⟩
      cases hfar with
      | inr hlast => exact .inr hlast
      | inl hlength =>
        left
        have hids := length_pageOf (script.listOf key) (line.pageFates handle).length
          script.pageSize
        rw [← hpage hfits] at hids
        rw [Session.cached_appendPage, if_pos rfl, List.length_append] at hlength
        rw [hlength, Nat.succ_mul]
        omega

theorem further_rejected {count page : Nat} {result : Except SearchError Unit}
    (h : Paged script keys session line) (hdelivers : schedule.Delivers config.transportRetries)
    (hanswered : ∀ number, schedule number (.request (.existing handle)) ≠ .lost)
    (hhandle : session.handle? key = some handle) (hrejected : key ∈ script.rejected)
    (hrun : ClientM.FurtherRun (Line.link schedule) config key handle (count + 1) page session line
      result session' line') :
    ∃ fault, result = .error (.backendError fault) := by
  cases hrun with
  | failed hsent =>
    cases h.send_existing hhandle hdelivers hsent with
    | lost hfate hpaged =>
      obtain ⟨number, hlost⟩ := hfate
      exact absurd hlost (hanswered number)
  | rejected hsent => exact ⟨_, rfl⟩
  | ended hsent hbad hresponse =>
    cases h.send_existing hhandle hdelivers hsent with
    | rejected _ hpaged => exact absurd rfl hbad
    | answered hallowed hids hextends => exact absurd hrejected hallowed
  | short hsent hids hshort =>
    cases h.send_existing hhandle hdelivers hsent with
    | answered hallowed hpage hextends => exact absurd hrejected hallowed
  | full hsent hids hfull hrest =>
    cases h.send_existing hhandle hdelivers hsent with
    | answered hallowed hpage hextends => exact absurd hrejected hallowed

theorem page_rejected {page : Nat} {result : Except SearchError (List UInt32)}
    (h : Paged script keys session line) (hdelivers : schedule.Delivers config.transportRetries)
    (hanswered : ∀ number, schedule number (.request (.existing handle)) ≠ .lost)
    (hhandle : session.handle? key = some handle) (hrejected : key ∈ script.rejected)
    (hrun : ClientM.PageRun (Line.link schedule) config key handle page session line result session'
      line') :
    ∃ fault, result = .error (.backendError fault) := by
  have hcached := h.rejected key hrejected
  cases hrun with
  | cached hpage =>
    rw [hcached, CachedResults.page?_nil] at hpage
    cases hpage
  | exhausted hpage hexhausted =>
    rw [hcached] at hexhausted
    simp [CachedResults.isExhausted] at hexhausted
  | failed hpage hopen hfurther =>
    rw [hcached, CachedResults.pagesCovered_nil, Nat.sub_zero] at hfurther
    obtain ⟨fault, hfault⟩ := h.further_rejected hdelivers hanswered hhandle hrejected hfurther
    rw [Except.error.injEq] at hfault
    rw [hfault]
    exact ⟨fault, rfl⟩
  | found hpage hopen hfurther hfound =>
    rw [hcached, CachedResults.pagesCovered_nil, Nat.sub_zero] at hfurther
    obtain ⟨fault, hfault⟩ := h.further_rejected hdelivers hanswered hhandle hrejected hfurther
    cases hfault
  | missing hpage hopen hfurther hmissing =>
    rw [hcached, CachedResults.pagesCovered_nil, Nat.sub_zero] at hfurther
    obtain ⟨fault, hfault⟩ := h.further_rejected hdelivers hanswered hhandle hrejected hfurther
    cases hfault

theorem page_of_cached (h : Paged script keys session line) (hrecorded : line.Recorded schedule)
    (hanswered : ∀ number, schedule number (.request (.existing handle)) ≠ .lost)
    (hhandle : session.handle? key = some handle) (hallowed : key ∉ script.rejected)
    (hfits : script.FitsWire key) {page : Nat} {ids : List UInt32}
    (hpage : (session.cached key).page? page script.pageSize = some ids) :
    page * script.pageSize < (script.listOf key).length ∧
      ids = pageOf (script.listOf key) page script.pageSize := by
  rw [h.cached_eq_take hrecorded hanswered hhandle hallowed hfits,
    CachedResults.page?_eq_some_iff, List.length_take] at hpage
  obtain ⟨⟨-, hlength⟩, hids⟩ := hpage
  have hcovered : page < (line.pageFates handle).length := by
    apply Nat.lt_of_mul_lt_mul_right (a := script.pageSize)
    omega
  refine ⟨by omega, ?_⟩
  rw [hids]
  exact pageOf_take hcovered

theorem length_of_exhausted (h : Paged script keys session line)
    (hrecorded : line.Recorded schedule)
    (hanswered : ∀ number, schedule number (.request (.existing handle)) ≠ .lost)
    (hhandle : session.handle? key = some handle) (hallowed : key ∉ script.rejected)
    (hfits : script.FitsWire key)
    (hexhausted : (session.cached key).isExhausted script.pageSize = true) :
    (session.cached key).length = (script.listOf key).length := by
  have hcached := h.cached_eq_take hrecorded hanswered hhandle hallowed hfits
  -- As long as the pages fit into the list, the cache consists of full ones.
  have hend : ¬ (line.pageFates handle).length * script.pageSize ≤
      (script.listOf key).length := by
    intro hle
    have hopen : (session.cached key).isExhausted script.pageSize = false := by
      rw [CachedResults.isExhausted_eq_false_iff, hcached, List.length_take, Nat.min_eq_left hle]
      apply Nat.mul_mod_left
    rw [hopen] at hexhausted
    cases hexhausted
  rw [hcached, List.length_take]
  omega

theorem further_reaches {page : Nat} {result : Except SearchError Unit}
    (h : Paged script keys session line) (hrecorded : line.Recorded schedule)
    (hdelivers : schedule.Delivers config.transportRetries)
    (hanswered : ∀ number, schedule number (.request (.existing handle)) ≠ .lost)
    (hhandle : session.handle? key = some handle) (hallowed : key ∉ script.rejected)
    (hfits : script.FitsWire key) (hpageSize : config.fullPage = script.pageSize)
    (hopen : (session.cached key).isExhausted config.fullPage = false)
    (hrun : ClientM.FurtherRun (Line.link schedule) config key handle
      (page + 1 - (session.cached key).pagesCovered config.fullPage)
      ((session.cached key).pagesCovered config.fullPage) session line result session' line') :
    (page + 1) * script.pageSize ≤ (session'.cached key).length ∨
      session'.cached key = script.listOf key := by
  have hpositive : 1 ≤ config.fullPage := Nat.le_max_right _ _
  have hcovered := CachedResults.pagesCovered_mul hpositive hopen
  have hfar := (h.further_complete hrecorded hdelivers hanswered hhandle hallowed hfits hpageSize
    hrun).2
  rw [hpageSize] at hcovered hfar
  cases hfar with
  | inr hlast => exact .inr hlast
  | inl hlength =>
    left
    rw [hlength, ← hcovered, ← Nat.add_mul]
    apply Nat.mul_le_mul_right
    omega

theorem page_answers {page : Nat} {result : Except SearchError (List UInt32)}
    (h : Paged script keys session line) (hrecorded : line.Recorded schedule)
    (hrecorded' : line'.Recorded schedule)
    (hdelivers : schedule.Delivers config.transportRetries)
    (hanswered : ∀ number, schedule number (.request (.existing handle)) ≠ .lost)
    (hhandle : session.handle? key = some handle) (hpageSize : config.fullPage = script.pageSize)
    (hlength : (script.listOf key).length < UInt64.size)
    (hrun : ClientM.PageRun (Line.link schedule) config key handle page session line result session'
      line') :
    script.Answers key page result := by
  unfold Script.Answers
  by_cases hrejected : key ∈ script.rejected
  · rw [if_pos hrejected]
    exact h.page_rejected hdelivers hanswered hhandle hrejected hrun
  · rw [if_neg hrejected]
    intro hfits
    have hpaged := h.page_run hhandle hdelivers hrun
    have hhandle' : session'.handle? key = some handle := (hrun.handle?_eq key).trans hhandle
    cases hrun with
    | cached hpage =>
      rw [hpageSize] at hpage
      obtain ⟨hwithin, hids⟩ :=
        h.page_of_cached hrecorded hanswered hhandle hrejected hfits hpage
      rw [if_pos hwithin, hids]
    | exhausted hpage hexhausted =>
      rw [hpageSize] at hpage hexhausted
      have hall := h.length_of_exhausted hrecorded hanswered hhandle hrejected hfits hexhausted
      have hbeyond := CachedResults.le_of_page?_eq_none (by omega) hpage
      rw [if_neg (by omega)]
    | failed hpage hopen hfurther =>
      have hok := (h.further_complete hrecorded hdelivers hanswered hhandle hrejected hfits
        hpageSize hfurther).1
      cases hok
    | found hpage hopen hfurther hfound =>
      rw [hpageSize] at hfound
      obtain ⟨hwithin, hids⟩ :=
        hpaged.page_of_cached hrecorded' hanswered hhandle' hrejected hfits hfound
      rw [if_pos hwithin, hids]
    | missing hpage hopen hfurther hmissing =>
      have hfar := h.further_reaches hrecorded hdelivers hanswered hhandle hrejected hfits
        hpageSize hopen hfurther
      have hshort : (session'.cached key).length ≤ (script.listOf key).length := by
        rw [hpaged.cached_eq_take hrecorded' hanswered hhandle' hrejected hfits]
        apply List.length_take_le'
      have hbeyond := CachedResults.le_of_page?_eq_none (by omega) hmissing
      rw [hpageSize] at hbeyond
      cases hfar with
      | inr hlast =>
        rw [hlast] at hbeyond
        rw [if_neg (by omega)]
      | inl hlength =>
        -- The page is in the cache unless pages are empty.
        have hpositive : 1 ≤ config.fullPage := Nat.le_max_right _ _
        rw [Nat.succ_mul] at hlength
        omega

theorem page_made {page : Nat} {result : Except SearchError (List UInt32)}
    (hfollows : line.backend.Follows script)
    (hrun : ClientM.PageRun (Line.link schedule) config key handle page session line result session'
      line') :
    ∃ made, line'.attempts = line.attempts ++ made ∧
      ∀ other fate, (.request (.new other), fate) ∉ made := by
  have h : line'.backend.Follows script ∧ ∃ made, line'.attempts = line.attempts ++ made ∧
      ∀ other fate, (.request (.new other), fate) ∉ made := by
    apply hrun.preserves
      (P := fun reached => reached.backend.Follows script ∧
        ∃ made, reached.attempts = line.attempts ++ made ∧
          ∀ other fate, (.request (.new other), fate) ∉ made)
    · intro reached result reached' hreached hsent
      obtain ⟨hfollows, before, hbefore, hnone⟩ := hreached
      have hdelivery := Line.delivery_of_sent hfollows.replaced hsent
      obtain ⟨made, hmade, hexisting⟩ := hdelivery.exists_made
      refine ⟨hdelivery.follows hfollows, before ++ made, ?_, ?_⟩
      · rw [hmade, hbefore, List.append_assoc]
      · intro other fate hmem
        rw [List.mem_append] at hmem
        cases hmem with
        | inl hold => exact hnone other fate hold
        | inr hnow => cases (hexisting _ hnow).1
    · exact ⟨hfollows, [], (List.append_nil _).symm, by simp⟩
  exact h.2

theorem fetch_answers {page : Nat} {result : Except SearchError (List UInt32)}
    (h : Paged script keys session line) (hrecorded : line.Recorded schedule)
    (hcount : (Text.addDistinct keys key).length ≤ UInt32.size)
    (hencode : ∃ bytes, (Request.new key).encode = .ok bytes)
    (hdelivers : schedule.Delivers config.transportRetries)
    (hanswered : ∀ handle number, schedule number (.request (.existing handle)) ≠ .lost)
    (hpageSize : config.fullPage = script.pageSize)
    (hlength : (script.listOf key).length < UInt64.size)
    (hrun : ClientM.FetchRun (Line.link schedule) config key page session line result session'
      line') :
    ∃ made, line'.attempts = line.attempts ++ made ∧
      if (.request (.new key), .lost) ∈ made then
        ∃ failure, result = .error (.io failure)
      else
        script.Answers key page result := by
  cases hrun with
  | refused hhandle =>
    obtain ⟨hpaged, made, hmade, hreply⟩ := h.handle_run hcount hencode hdelivers hhandle
    refine ⟨made, hmade, ?_⟩
    cases hreply with
    | lost hlost =>
      rw [if_pos hlost]
      exact ⟨_, rfl⟩
    | rejected hrejected hregistered =>
      rw [if_neg hregistered, Script.Answers, if_pos hrejected]
      exact ⟨_, rfl⟩
  | handled hhandle hpage =>
    have hreached := hhandle.preserves
      (P := fun line => line.backend.Follows script ∧ line.Recorded schedule)
      (fun _ _ _ _ hline hsent => Line.recorded_of_sent hline hsent)
      ⟨h.numbered.follows, hrecorded⟩
    have hlast := hpage.preserves
      (P := fun line => line.backend.Follows script ∧ line.Recorded schedule)
      (fun _ _ _ hline hsent => Line.recorded_of_sent hline hsent) hreached
    obtain ⟨hpaged, made, hmade, hreply⟩ := h.handle_run hcount hencode hdelivers hhandle
    obtain ⟨further, hfurther, hnone⟩ := page_made hreached.1 hpage
    refine ⟨made ++ further, ?_, ?_⟩
    · rw [hfurther, hmade, List.append_assoc]
    · cases hreply with
      | known hknown hregistered =>
        rw [if_neg (by simp [hregistered, hnone])]
        exact (hpaged.beginResults key).page_answers hreached.2 hlast.2 hdelivers (hanswered _)
          hknown hpageSize hlength hpage

end Paged

/--
A client and a backend that number the expressions alike, where every cursor stands at the end of what
is cached.
-/
structure Agreement (script : Script) (dialogue : Dialogue) : Prop where
  owner : ∀ key handle, dialogue.client.session.handle? key = some handle ↔
    dialogue.line.backend.registered[handle.toNat]? = some key
  slots : dialogue.line.backend.slots.length = dialogue.line.backend.registered.length
  rejected : ∀ key handle, dialogue.client.session.handle? key = some handle →
    key ∈ script.rejected → dialogue.line.backend.slots[handle.toNat]? = some none
  accepted : ∀ key handle, dialogue.client.session.handle? key = some handle →
    key ∉ script.rejected →
    ∃ position, dialogue.line.backend.slots[handle.toNat]? =
        some (some ⟨script.listOf key, position⟩) ∧
      (script.FitsWire key →
        position = (dialogue.client.session.cached key).length ∧
          dialogue.client.session.cached key <+: script.listOf key)

section

variable {schedule : Schedule} {config : ClientConfig} {script : Script}
variable {calls : List (ResolvedExpr × Nat)}

theorem agreement_after (hdelivers : schedule.Delivers config.transportRetries)
    (hanswered : ∀ handle number, schedule number (.request (.existing handle)) ≠ .lost)
    (hcount : (Dialogue.keys calls).length ≤ UInt32.size)
    (hencode : ∀ key ∈ Dialogue.keys calls, ∃ bytes, (Request.new key).encode = .ok bytes) :
    Agreement script (Dialogue.after schedule config script calls) := by
  have hpaged := Paged.after script hdelivers calls hcount hencode
  have hrecorded := Dialogue.recorded_after schedule config script calls
  generalize Dialogue.after schedule config script calls = dialogue at hpaged hrecorded
  refine ⟨?_, ?_, ?_, ?_⟩
  · intro key handle
    rw [hpaged.registered]
    exact hpaged.numbered.handle?_eq_some_iff hpaged.count
  · rw [hpaged.length_slots, hpaged.registered]
  · intro key handle hhandle hrejected
    rw [hpaged.slot key handle hhandle]
    simp [Script.slot, Script.firstSlot, hrejected]
  · intro key handle hhandle hallowed
    refine ⟨min ((dialogue.line.pageFates handle).length * script.pageSize)
      (script.listOf key).length, ?_, ?_⟩
    · rw [hpaged.slot key handle hhandle]
      simp [Script.slot, Script.firstSlot, hallowed]
    · intro hfits
      rw [hpaged.cached_eq_take hrecorded (hanswered handle) hhandle hallowed hfits,
        List.length_take]
      exact ⟨rfl, List.take_prefix _ _⟩

/--
A client and a backend that were called for less than 2^32 expressions agree as long as every request is
delivered and only responses to registrations are lost. A call then fails with its registration if the
response to that is lost. Otherwise it is answered with the page that it asks for, as far as the IDs of
such a page can be counted with 32 bits.
-/
theorem fetch_answers_with_requested_page (expr : ResolvedExpr) (page : Nat)
    (hpageSize : config.pageSize = script.pageSize) (hpositive : 1 ≤ script.pageSize)
    (hlength : script.pageSize + (script.listOf expr.wire).length < UInt64.size)
    (hcount : (Dialogue.keys (calls ++ [(expr, page)])).length < UInt32.size)
    (hencode : ∀ key ∈ Dialogue.keys (calls ++ [(expr, page)]),
      ∃ bytes, (Request.new key).encode = .ok bytes)
    (hdelivers : schedule.Delivers config.transportRetries)
    (hlost : ∀ attempt received, schedule attempt received = .lost → received.isNew = true) :
    let before := Dialogue.after schedule config script calls
    let last := Dialogue.after schedule config script (calls ++ [(expr, page)])
    Agreement script before ∧ Agreement script last ∧
      ∃ made, last.line.attempts = before.line.attempts ++ made ∧
        if (.request (.new expr.wire), .lost) ∈ made then
          ∃ failure, (before.fetch schedule config expr page).1 = .error (.io failure)
        else
          script.Answers expr.wire page (before.fetch schedule config expr page).1 := by
  dsimp only
  have hanswered (handle : UInt32) (number : Nat) :
      schedule number (.request (.existing handle)) ≠ .lost := by
    intro h
    cases hlost number _ h
  have hkeys := Dialogue.keys_concat calls expr page
  have hsublist : (Dialogue.keys calls).Sublist (Dialogue.keys (calls ++ [(expr, page)])) := by
    rw [hkeys]
    exact Text.sublist_addDistinct _ _
  have hmem : expr.wire ∈ Dialogue.keys (calls ++ [(expr, page)]) := by
    rw [hkeys]
    exact Text.mem_addDistinct _ _
  have hcountBefore : (Dialogue.keys calls).length ≤ UInt32.size :=
    Nat.le_trans hsublist.length_le (Nat.le_of_lt hcount)
  have hencodeBefore := fun key hkey => hencode key (hsublist.subset hkey)
  refine ⟨agreement_after hdelivers hanswered hcountBefore hencodeBefore,
    agreement_after hdelivers hanswered (Nat.le_of_lt hcount) hencode, ?_⟩
  have hfull : config.fullPage = script.pageSize := by
    unfold ClientConfig.fullPage
    omega
  rw [Dialogue.after_concat]
  apply (Paged.after script hdelivers calls hcountBefore hencodeBefore).fetch_answers
    (Dialogue.recorded_after schedule config script calls) _ (hencode _ hmem) hdelivers hanswered
    hfull (by omega) (Dialogue.fetch_run schedule config _ expr page)
  rw [← hkeys]
  exact Nat.le_of_lt hcount

end

namespace DisturbedRegistration

def script : Script where
  pageSize := 2
  results := (∅ : Table (List UInt32)).insert ['1'] [10, 20, 30]
  rejected := [['2']]

def config : ClientConfig := { pageSize := 2 }

/--
The registrations of the first three attempts get no response, and the fifth attempt fails before its
request is delivered.
-/
def schedule : Schedule := fun attempt received =>
  if attempt < 3 ∧ received.isNew then .lost
  else if attempt = 4 then .undelivered
  else .answered

def query (id : UInt32) : ResolvedExpr := ⟨[.term id]⟩

def calls : List (ResolvedExpr × Nat) := [(query 1, 0), (query 2, 0), (query 2, 0)]

theorem second_page_is_answered :
    ((Dialogue.after schedule config script calls).fetch schedule config (query 1) 1).1 =
      .ok [30] := by
  have hkeys : Dialogue.keys (calls ++ [(query 1, 1)]) = [['1'], ['2']] := by decide +kernel
  have hencode : ∀ key ∈ Dialogue.keys (calls ++ [(query 1, 1)]),
      ∃ bytes, (Request.new key).encode = .ok bytes := by
    rw [hkeys, List.forall_mem_cons]
    refine ⟨⟨_, rfl⟩, ?_⟩
    intro key hkey
    rw [List.mem_singleton.mp hkey]
    exact ⟨_, rfl⟩
  have hdelivers : schedule.Delivers config.transportRetries := by
    intro attempt received
    by_cases hattempt : attempt = 4
    · refine ⟨1, by decide, ?_⟩
      simp [schedule, hattempt]
    · refine ⟨0, Nat.zero_le _, ?_⟩
      simp only [schedule, Nat.add_zero, hattempt]
      split <;> simp
  have hlost : ∀ attempt received, schedule attempt received = .lost → received.isNew = true := by
    intro attempt received h
    unfold schedule at h
    split at h
    next hnew => exact hnew.2
    next => split at h <;> cases h
  have hpageSize : config.pageSize = script.pageSize := rfl
  have hlength : script.pageSize + (script.listOf (query 1).wire).length < UInt64.size := by
    decide +kernel
  obtain ⟨-, -, made, hmade, hresult⟩ :=
    fetch_answers_with_requested_page (query 1) 1 hpageSize (by decide) hlength
      (by decide +kernel) hencode hdelivers hlost
  have hrecord :
      (Dialogue.after schedule config script (calls ++ [(query 1, 1)])).line.attempts =
        (Dialogue.after schedule config script calls).line.attempts ++
          [(.request (.existing 0), .answered), (.request (.existing 0), .undelivered),
            (.request (.existing 0), .answered)] := by
    decide +kernel
  rw [hrecord, List.append_cancel_left_eq] at hmade
  rw [← hmade, if_neg (by decide)] at hresult
  have hallowed : (query 1).wire ∉ script.rejected := by decide +kernel
  have hfits : script.FitsWire (query 1).wire := by
    unfold Script.FitsWire
    decide +kernel
  unfold Script.Answers at hresult
  rw [if_neg hallowed] at hresult
  rw [hresult hfits, if_pos (by decide +kernel)]
  have hpage : pageOf (script.listOf (query 1).wire) 1 script.pageSize = [30] := by
    decide +kernel
  rw [hpage]

end DisturbedRegistration

namespace CrowdedPage

def pageSize : Nat := 4294967296

def script (ids : List UInt32) : Script where
  pageSize := pageSize
  results := (∅ : Table (List UInt32)).insert ['1'] ids
  rejected := []

def config : ClientConfig := { pageSize := pageSize }

def schedule : Schedule := fun _ _ => .answered

def query : ResolvedExpr := ⟨[.term 1]⟩

theorem listOf_script (ids : List UInt32) : (script ids).listOf query.wire = ids := by
  have hwire : query.wire = ['1'] := by decide +kernel
  rw [hwire, Script.listOf]
  simp [script]

def line (ids : List UInt32) : Line := { backend := (script ids).backend }

def registered (ids : List UInt32) : Line := (line ids).serve (.new query.wire) .answered

theorem sent_new (ids : List UInt32) :
    ClientM.sent (Line.link schedule) config (.new query.wire) (line ids) =
      (.ok .ok, registered ids) := by
  have hencode : (Request.new query.wire).encode = .ok [0, 1, 0, 0, 0, 49] := by decide +kernel
  rw [Line.sent_of_answered hencode rfl rfl]
  rfl

theorem sent_existing {ids : List UInt32} (hlength : ids.length = UInt32.size) :
    ClientM.sent (Line.link schedule) config (.existing 0) (registered ids) =
      (.ok (.payload []), (registered ids).serve (.existing 0) .answered) := by
  have hslots : (registered ids).backend.slots = [some { ids := ids }] := by
    have hfollows : (script ids).backend.Follows (script ids) := ⟨rfl, rfl, rfl, rfl⟩
    show ((script ids).backend.serve (.new query.wire)).slots = _
    rw [hfollows.slots_serve_new, Script.firstSlot, if_neg (by simp [script]), listOf_script]
    rfl
  have hpage : Cursor.nextPage { ids := ids } (registered ids).backend.pageSize = ids := by
    have hpageSize : (registered ids).backend.pageSize = ids.length := hlength.symm
    unfold Cursor.nextPage Cursor.pageEnd
    rw [hpageSize, Nat.zero_add, Nat.min_self, List.take_length, List.drop_zero]
  rw [Line.sent_of_answered rfl rfl rfl, SimulatedBackend.answer_existing, hslots]
  show (Except.ok (Response.payload (List.take _ _)), _) = _
  rw [hpage, hlength, Nat.mod_self, List.take_zero]

theorem page_eq {ids : List UInt32} (hlength : ids.length = UInt32.size)
    {session session' : Session} {last : Line} {result : Except SearchError (List UInt32)}
    (hcached : session.cached query.wire = [])
    (hrun : ClientM.PageRun (Line.link schedule) config query.wire 0 0 session (registered ids) result
      session' last) :
    result = .error (.noResults 0) := by
  have hsent := sent_existing hlength
  cases hrun with
  | cached hpage =>
    rw [hcached, CachedResults.page?_nil] at hpage
    cases hpage
  | exhausted hpage hexhausted => rfl
  | missing hpage hopen hfurther hmissing => rfl
  | failed hpage hopen hfurther =>
    rw [hcached, CachedResults.pagesCovered_nil, Nat.sub_zero] at hfurther
    cases hfurther with
    | failed hfailed => cases hsent.symm.trans hfailed
    | rejected hrejected => cases hsent.symm.trans hrejected
    | full hfull hids =>
      cases hsent.symm.trans hfull
      exact absurd rfl hids
  | found hpage hopen hfurther hfound =>
    rw [hcached, CachedResults.pagesCovered_nil, Nat.sub_zero] at hfurther
    cases hfurther with
    | ended hended hbad hresponse =>
      rw [hcached, CachedResults.page?_nil] at hfound
      cases hfound
    | short hshort hids =>
      cases hsent.symm.trans hshort
      exact absurd rfl hids
    | full hfull hids =>
      cases hsent.symm.trans hfull
      exact absurd rfl hids

theorem fetch_eq {ids : List UInt32} (hlength : ids.length = UInt32.size)
    {session : Session} {last : Line} {result : Except SearchError (List UInt32)}
    (hrun : ClientM.FetchRun (Line.link schedule) config query.wire 0 {} (line ids) result session
      last) :
    result = .error (.noResults 0) := by
  have hsent := sent_new ids
  cases hrun with
  | refused hhandle =>
    cases hhandle with
    | failed hnew hfailed => cases hsent.symm.trans hfailed
    | rejected hnew hrejected => cases hsent.symm.trans hrejected
  | handled hhandle hpage =>
    cases hhandle with
    | known hknown => cases hknown
    | accepted hnew haccepted hresponse =>
      cases hsent.symm.trans haccepted
      exact page_eq hlength rfl hpage

theorem full_page_is_missing :
    let script := script (List.replicate 4294967296 7)
    config.pageSize = script.pageSize ∧
      script.pageSize + (script.listOf query.wire).length < UInt64.size ∧
      0 * script.pageSize < (script.listOf query.wire).length ∧
      ((Dialogue.start script).fetch schedule config query 0).1 = .error (.noResults 0) := by
  have hlength : (List.replicate 4294967296 (7 : UInt32)).length = 4294967296 :=
    List.length_replicate
  dsimp only
  rw [listOf_script, hlength]
  refine ⟨rfl, by decide, by decide, ?_⟩
  exact fetch_eq hlength (Dialogue.fetch_run schedule config (Dialogue.start _) query 0)

end CrowdedPage

end BooleanSearch
