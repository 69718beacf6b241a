import Mathlib.Data.List.Forall2
import BooleanSearch.Proofs.Retrieval.Pages

/-!
This module contains what a simulated backend keeps apart. Every registration takes a slot of its own,
and the fetches of a handle walk through the list in its slot, whatever the backend is sent for other
handles in between and whichever of its responses are lost.
-/

namespace BooleanSearch

structure Reaction where
  received : Received
  response : Response

inductive Stimulus where
  | send (bytes : Bytes)
  | failNext (count : Nat)
  | loseNext (count : Nat)

structure Chronicle where
  backend : SimulatedBackend
  results : List (Except SearchError Bytes) := []

/--
Pages that follow each other from the front of a list, each as long as the size of a page and the
rest of the list allow.
-/
structure Consecutive (ids : List UInt32) (pageSize : Nat) (pages : List (List UInt32)) : Prop where
  front : pages.flatten <+: ids
  length : ∀ i page, pages[i]? = some page →
    page.length = min pageSize (ids.length - (pages.take i).flatten.length)

def Received.concerns (handle : UInt32) (received : Received) : Bool :=
  received.isNew || received = .request (.existing handle)

theorem Received.exists_new {received : Received} (h : received.isNew = true) :
    ∃ key, received = .request (.new key) := by
  cases received with
  | invalid bytes => cases h
  | request request =>
    cases request with
    | new key => exact ⟨key, rfl⟩
    | existing handle => cases h

def Reaction.fetched? (handle : UInt32) (reaction : Reaction) : Option Response :=
  if reaction.received = .request (.existing handle) then some reaction.response else none

/--
What may come of an exchange that is delivered: the response, unless it is lost.
-/
inductive Reaction.Yields (reaction : Reaction) : Except SearchError Bytes → Prop where
  | answered : reaction.Yields (.ok reaction.response.encode)
  | lost (failure : IoFailure) : reaction.Yields (.error (.io failure))

namespace SimulatedBackend

def feed (backend : SimulatedBackend) (received : List Received) : SimulatedBackend :=
  received.foldl (fun backend received => (act backend received).2) backend

def reactions (backend : SimulatedBackend) : List Received → List Reaction
  | [] => []
  | received :: rest =>
    ⟨received, (act backend received).1⟩ :: reactions (act backend received).2 rest

def fetches (backend : SimulatedBackend) (received : List Received) (handle : UInt32) :
    List Response :=
  (backend.reactions received).filterMap (Reaction.fetched? handle)

end SimulatedBackend

namespace Chronicle

def react (chronicle : Chronicle) : Stimulus → Chronicle
  | .send bytes =>
    let (result, backend) := chronicle.backend.exchange bytes
    if 0 < chronicle.backend.undelivered then
      { chronicle with backend }
    else
      ⟨backend, chronicle.results ++ [result]⟩
  | .failNext count => { chronicle with backend.undelivered := count }
  | .loseNext count => { chronicle with backend.lost := count }

def after (script : Script) (stimuli : List Stimulus) : Chronicle :=
  stimuli.foldl react { backend := script.backend }

end Chronicle

theorem flatten_pages (ids : List UInt32) (pageSize count : Nat) :
    ((List.range count).map (pageOf ids · pageSize)).flatten = ids.take (count * pageSize) := by
  induction count with
  | zero => simp
  | succ count ih =>
    rw [List.range_succ, List.map_append, List.flatten_append, ih, List.map_singleton,
      List.flatten_singleton, take_append_pageOf]

theorem Consecutive.pages (ids : List UInt32) (pageSize count : Nat) :
    Consecutive ids pageSize ((List.range count).map (pageOf ids · pageSize)) where
  front := by
    rw [flatten_pages]
    exact List.take_prefix _ ids
  length := by
    intro i page hpage
    obtain ⟨hi, rfl⟩ := List.getElem?_eq_some_iff.mp hpage
    rw [List.length_map, List.length_range] at hi
    have hfront : ((List.range count).map (pageOf ids · pageSize)).take i =
        (List.range i).map (pageOf ids · pageSize) := by
      rw [← List.map_take, List.take_range, Nat.min_eq_left (Nat.le_of_lt hi)]
    rw [hfront, flatten_pages, List.length_take, List.getElem_map, List.getElem_range,
      length_pageOf]
    omega

namespace SimulatedBackend

variable {backend other : SimulatedBackend} {script : Script} {handle : UInt32}
variable {received : List Received}

theorem act_snd (backend : SimulatedBackend) (received : Received) :
    (act backend received).2 = { backend with slots := (act backend received).2.slots } := by
  have h := act_update backend received backend.received backend.undelivered backend.lost
  exact congrArg Prod.snd h

theorem Follows.act (hfollows : backend.Follows script) (received : Received) :
    (act backend received).2.Follows script := by
  rw [act_snd]
  exact ⟨hfollows.pageSize, hfollows.results, hfollows.rejected, hfollows.replaced⟩

theorem Follows.feed (hfollows : backend.Follows script) (received : List Received) :
    (backend.feed received).Follows script := by
  induction received generalizing backend with
  | nil => exact hfollows
  | cons first rest ih => exact ih (hfollows.act first)

theorem length_slots_act (backend : SimulatedBackend) (received : Received) :
    (act backend received).2.slots.length =
      backend.slots.length + [received].countP Received.isNew := by
  cases received with
  | invalid bytes => rfl
  | request request =>
    cases request with
    | new expression =>
      simp only [act]
      split <;> exact List.length_append
    | existing handle =>
      simp only [act]
      split
      · exact List.length_set
      · rfl
      · rfl

theorem length_slots_feed (backend : SimulatedBackend) (received : List Received) :
    (backend.feed received).slots.length =
      backend.slots.length + received.countP Received.isNew := by
  induction received generalizing backend with
  | nil => rfl
  | cons first rest ih =>
    rw [List.countP_cons, ← List.countP_singleton, Nat.add_comm (rest.countP _), ← Nat.add_assoc,
      ← length_slots_act]
    exact ih _

theorem slot_act {received : Received}
    (h : received.isNew = true → handle.toNat < backend.slots.length) :
    (act backend received).2.slots[handle.toNat]? =
      if received = .request (.existing handle) then
        backend.slots[handle.toNat]?.map (Option.map (·.advance backend.pageSize))
      else
        backend.slots[handle.toNat]? := by
  cases received with
  | invalid bytes => rfl
  | request request =>
    cases request with
    | new expression =>
      rw [if_neg (by simp)]
      simp only [act]
      split <;> exact List.getElem?_append_left (h rfl)
    | existing other =>
      simp only [Received.request.injEq, Request.existing.injEq, ← UInt32.toNat_inj]
      exact slot_serve_existing backend other handle.toNat

theorem slot_act_of_slot {slot : Option Cursor} (hslot : backend.slots[handle.toNat]? = some slot)
    (received : Received) :
    (act backend received).2.slots[handle.toNat]? =
      some (if received = .request (.existing handle) then
        slot.map (·.advance backend.pageSize)
      else
        slot) := by
  rw [slot_act fun _ => (List.getElem?_eq_some_iff.mp hslot).1, hslot]
  split <;> rfl

theorem fetches_cons (backend : SimulatedBackend) (first : Received) (rest : List Received)
    (handle : UInt32) :
    backend.fetches (first :: rest) handle =
      (if first = .request (.existing handle) then [(act backend first).1] else []) ++
        (act backend first).2.fetches rest handle := by
  unfold fetches
  rw [reactions, List.filterMap_cons]
  unfold Reaction.fetched?
  by_cases hfirst : first = .request (.existing handle) <;> simp [hfirst]

theorem fetches_append (backend : SimulatedBackend) (earlier later : List Received)
    (handle : UInt32) :
    backend.fetches (earlier ++ later) handle =
      backend.fetches earlier handle ++ (backend.feed earlier).fetches later handle := by
  induction earlier generalizing backend with
  | nil => rfl
  | cons first rest ih =>
    rw [List.cons_append, fetches_cons, ih, fetches_cons, List.append_assoc]
    rfl

theorem fetches_of_bad (hbad : (act backend (.request (.existing handle))).1 = .bad)
    (first : Received) (rest : List Received)
    (hrest : (act backend first).2.fetches rest handle =
      List.replicate (rest.count (.request (.existing handle))) .bad) :
    backend.fetches (first :: rest) handle =
      List.replicate ((first :: rest).count (.request (.existing handle))) .bad := by
  rw [fetches_cons, hrest, List.count_cons]
  by_cases hfirst : first = .request (.existing handle)
  · subst hfirst
    rw [if_pos rfl, hbad, if_pos (beq_self_eq_true _), List.replicate_succ, List.singleton_append]
  · rw [if_neg hfirst, if_neg (by simpa using hfirst), Nat.add_zero, List.nil_append]

theorem fetches_of_unknown
    (h : backend.slots.length + received.countP Received.isNew ≤ handle.toNat) :
    backend.fetches received handle =
      List.replicate (received.count (.request (.existing handle))) .bad := by
  induction received generalizing backend with
  | nil => rfl
  | cons first rest ih =>
    rw [List.countP_cons, ← List.countP_singleton] at h
    refine fetches_of_bad ?_ first rest (ih ?_)
    · have hslot : backend.slots[handle.toNat]? = none := by
        rw [List.getElem?_eq_none_iff]
        omega
      exact (answer_existing backend handle).trans (by rw [hslot])
    · rw [length_slots_act]
      omega

theorem fetches_of_rejected (hslot : backend.slots[handle.toNat]? = some none) :
    backend.fetches received handle =
      List.replicate (received.count (.request (.existing handle))) .bad := by
  induction received generalizing backend with
  | nil => rfl
  | cons first rest ih =>
    refine fetches_of_bad ?_ first rest (ih ?_)
    · exact (answer_existing backend handle).trans (by rw [hslot])
    · rw [slot_act_of_slot hslot, Option.map_none, ite_self]

theorem fetches_of_served {ids : List UInt32} (page : Nat)
    (hslot : backend.slots[handle.toNat]? =
      some (some ⟨ids, min (page * backend.pageSize) ids.length⟩)) :
    backend.fetches received handle =
      ((List.range' page (received.count (.request (.existing handle)))).map
        (pageOf ids · backend.pageSize)).map .payload := by
  induction received generalizing backend page with
  | nil => rfl
  | cons first rest ih =>
    have hsize : (act backend first).2.pageSize = backend.pageSize := by rw [act_snd]
    have hnext := slot_act_of_slot hslot first
    rw [fetches_cons, List.count_cons]
    by_cases hfirst : first = .request (.existing handle)
    · subst hfirst
      have hpage : (act backend (.request (.existing handle))).1 =
          .payload (pageOf ids page backend.pageSize) := by
        refine (answer_existing backend handle).trans ?_
        rw [hslot]
        exact congrArg Response.payload (Cursor.nextPage_eq_pageOf ids page backend.pageSize)
      rw [if_pos rfl, Option.map_some, Cursor.advance_eq, ← hsize] at hnext
      rw [if_pos rfl, if_pos (beq_self_eq_true _), List.range'_succ, List.map_cons, List.map_cons,
        hpage, List.singleton_append, ih _ hnext, hsize]
    · rw [if_neg hfirst, ← hsize] at hnext
      rw [if_neg hfirst, if_neg (by simpa using hfirst), Nat.add_zero, List.nil_append, ih _ hnext,
        hsize]

theorem Follows.slots_act_new (hfollows : backend.Follows script) (key : Text) :
    (SimulatedBackend.act backend (.request (.new key))).2.slots =
      backend.slots ++ [script.firstSlot key] :=
  hfollows.slots_serve_new key

theorem Follows.fetches_filter (hfollows : backend.Follows script) (hother : other.Follows script)
    (hlength : backend.slots.length = other.slots.length)
    (hslot : backend.slots[handle.toNat]? = other.slots[handle.toNat]?) :
    backend.fetches received handle =
      other.fetches (received.filter (·.concerns handle)) handle := by
  -- The two backends differ in their other slots as soon as something was left out.
  induction received generalizing backend other with
  | nil => rfl
  | cons first rest ih =>
    have hsize : backend.pageSize = other.pageSize := hfollows.pageSize.trans hother.pageSize.symm
    have hlengths : (SimulatedBackend.act backend first).2.slots.length =
        (SimulatedBackend.act other first).2.slots.length := by
      rw [length_slots_act, length_slots_act, hlength]
    by_cases hfetch : first = .request (.existing handle)
    · subst hfetch
      have hnew : Received.isNew (.request (.existing handle)) = false := rfl
      have hanswer : (SimulatedBackend.act backend (.request (.existing handle))).1 =
          (SimulatedBackend.act other (.request (.existing handle))).1 := by
        refine (answer_existing backend handle).trans ?_
        rw [hslot, hsize]
        exact (answer_existing other handle).symm
      rw [List.filter_cons_of_pos (by simp [Received.concerns]), fetches_cons, fetches_cons, hanswer,
        ih (hfollows.act _) (hother.act _) hlengths]
      rw [slot_act (by simp [hnew]), slot_act (by simp [hnew]), hslot, hsize]
    · cases hnew : first.isNew with
      | true =>
        obtain ⟨key, rfl⟩ := Received.exists_new hnew
        rw [List.filter_cons_of_pos (by simp [Received.concerns, hnew]), fetches_cons, fetches_cons,
          if_neg hfetch, if_neg hfetch, ih (hfollows.act _) (hother.act _) hlengths]
        rw [hfollows.slots_act_new, hother.slots_act_new, List.getElem?_append,
          List.getElem?_append, hlength, hslot]
      | false =>
        rw [List.filter_cons_of_neg (by simp [Received.concerns, hnew, hfetch]), fetches_cons,
          if_neg hfetch, List.nil_append]
        apply ih (hfollows.act first) hother
        · rw [length_slots_act, List.countP_singleton, hnew, hlength]
          rfl
        · rw [slot_act (by simp [hnew]), if_neg hfetch, hslot]

def Bounded (backend : SimulatedBackend) (script : Script) : Prop :=
  ∀ cursor, some cursor ∈ backend.slots →
    cursor.position ≤ cursor.ids.length ∧ ∃ key, cursor.ids = script.listOf key

theorem Bounded.act (hbounded : backend.Bounded script) (hfollows : backend.Follows script)
    (received : Received) : (act backend received).2.Bounded script := by
  cases received with
  | invalid bytes => exact hbounded
  | request request =>
    cases request with
    | new key =>
      intro cursor hmem
      rw [hfollows.slots_act_new, List.mem_append, List.mem_singleton] at hmem
      cases hmem with
      | inl hmem => exact hbounded cursor hmem
      | inr hfirst =>
        unfold Script.firstSlot at hfirst
        split at hfirst
        · cases hfirst
        · cases hfirst
          exact ⟨Nat.zero_le _, key, rfl⟩
    | existing handle =>
      simp only [SimulatedBackend.act]
      split
      next served hserved =>
        intro cursor hmem
        cases List.mem_or_eq_of_mem_set hmem with
        | inl hmem => exact hbounded cursor hmem
        | inr hset =>
          cases hset
          obtain ⟨-, hlist⟩ := hbounded served (List.mem_of_getElem? hserved)
          exact ⟨Nat.min_le_right _ _, hlist⟩
      next => exact hbounded
      next => exact hbounded

theorem Bounded.feed (hbounded : backend.Bounded script) (hfollows : backend.Follows script)
    (received : List Received) : (backend.feed received).Bounded script := by
  induction received generalizing backend with
  | nil => exact hbounded
  | cons first rest ih => exact ih (hbounded.act hfollows first) (hfollows.act first)

theorem feed_concat (backend : SimulatedBackend) (earlier : List Received) (last : Received) :
    backend.feed (earlier ++ [last]) = (act (backend.feed earlier) last).2 := by
  unfold feed
  rw [List.foldl_append]
  rfl

theorem reactions_concat (backend : SimulatedBackend) (earlier : List Received) (last : Received) :
    backend.reactions (earlier ++ [last]) =
      backend.reactions earlier ++ [⟨last, (act (backend.feed earlier) last).1⟩] := by
  induction earlier generalizing backend with
  | nil => rfl
  | cons first rest ih =>
    rw [List.cons_append, reactions, ih]
    rfl

theorem exchange_of_undelivered (h : 0 < backend.undelivered) (bytes : Bytes) :
    backend.exchange bytes =
      (.error (.requestNotDelivered (.other "scripted transport failure".toList)),
        { backend with undelivered := backend.undelivered - 1 }) := by
  obtain ⟨undelivered, hundelivered⟩ := Nat.exists_eq_add_one_of_ne_zero (Nat.pos_iff_ne_zero.mp h)
  unfold exchange
  rw [hundelivered]
  rfl

theorem exchange_of_delivered (h : backend.undelivered = 0) (hreplaced : backend.replaced = [])
    (bytes : Bytes) :
    let received := Received.ofBytes bytes
    Reaction.Yields ⟨received, (act backend received).1⟩ (backend.exchange bytes).1 ∧
      (backend.exchange bytes).2 =
        { backend with
          slots := (act backend received).2.slots
          received := backend.received ++ [received]
          lost := backend.lost - 1 } := by
  cases hlost : backend.lost with
  | zero =>
    simp only [exchange, h, respond, act_update, hlost]
    simp only [hreplaced, List.lookup_nil, Option.getD_none]
    exact ⟨.answered, trivial⟩
  | succ lost =>
    simp only [exchange, h, respond, act_update, hlost]
    exact ⟨.lost _, rfl⟩

end SimulatedBackend

namespace Chronicle

variable {chronicle : Chronicle} {script : Script}

/--
The backend of a chronicle stands where it would if nothing had failed, and what was told of each
response is the response or its loss.
-/
structure Faithful (chronicle : Chronicle) (script : Script) : Prop where
  backend : chronicle.backend = { script.backend.feed chronicle.backend.received with
    received := chronicle.backend.received
    undelivered := chronicle.backend.undelivered
    lost := chronicle.backend.lost }
  results : List.Forall₂ Reaction.Yields (script.backend.reactions chronicle.backend.received)
    chronicle.results

theorem follows_backend (script : Script) : script.backend.Follows script := ⟨rfl, rfl, rfl, rfl⟩

theorem Faithful.follows (h : chronicle.Faithful script) : chronicle.backend.Follows script := by
  have hfeed := (follows_backend script).feed chronicle.backend.received
  rw [h.backend]
  exact ⟨hfeed.pageSize, hfeed.results, hfeed.rejected, hfeed.replaced⟩

theorem Faithful.react (h : chronicle.Faithful script) (stimulus : Stimulus) :
    (chronicle.react stimulus).Faithful script := by
  cases stimulus with
  | failNext count =>
    refine ⟨?_, h.results⟩
    exact congrArg (fun backend => { backend with undelivered := count }) h.backend
  | loseNext count =>
    refine ⟨?_, h.results⟩
    exact congrArg (fun backend => { backend with lost := count }) h.backend
  | send bytes =>
    by_cases hundelivered : 0 < chronicle.backend.undelivered
    · simp only [Chronicle.react, if_pos hundelivered,
        SimulatedBackend.exchange_of_undelivered hundelivered]
      refine ⟨?_, h.results⟩
      exact congrArg
        (fun backend => { backend with undelivered := chronicle.backend.undelivered - 1 }) h.backend
    · obtain ⟨hyields, hbackend⟩ := SimulatedBackend.exchange_of_delivered
        (Nat.eq_zero_of_not_pos hundelivered) h.follows.replaced bytes
      have hact := SimulatedBackend.act_update
        (script.backend.feed chronicle.backend.received) (Received.ofBytes bytes)
        chronicle.backend.received chronicle.backend.undelivered chronicle.backend.lost
      rw [← h.backend] at hact
      rw [hact] at hyields hbackend
      simp only [Chronicle.react, if_neg hundelivered, hbackend]
      constructor
      · rw [SimulatedBackend.feed_concat, SimulatedBackend.act_snd]
        exact congrArg (fun backend => { backend with
          slots := ((script.backend.feed chronicle.backend.received).act (Received.ofBytes bytes)).2.slots
          received := chronicle.backend.received ++ [Received.ofBytes bytes]
          lost := chronicle.backend.lost - 1 }) h.backend
      · rw [SimulatedBackend.reactions_concat]
        exact List.rel_append h.results (.cons hyields .nil)

theorem Faithful.after (script : Script) (stimuli : List Stimulus) :
    (Chronicle.after script stimuli).Faithful script := by
  induction stimuli using List.reverseRecOn with
  | nil => exact ⟨rfl, .nil⟩
  | append_singleton stimuli stimulus ih =>
    unfold Chronicle.after
    rw [List.foldl_append]
    exact ih.react stimulus

end Chronicle

theorem Script.fetches_of_registration (script : Script) {handle : UInt32}
    {earlier : List Received} (hnumber : earlier.countP Received.isNew = handle.toNat) (key : Text)
    (later : List Received) :
    script.backend.fetches (earlier ++ .request (.new key) :: later) handle =
      List.replicate (earlier.count (.request (.existing handle))) .bad ++
        if key ∈ script.rejected then
          List.replicate (later.count (.request (.existing handle))) .bad
        else
          ((List.range (later.count (.request (.existing handle)))).map
            (pageOf (script.listOf key) · script.pageSize)).map .payload := by
  have hfollows := (Chronicle.follows_backend script).feed earlier
  have hlength : (script.backend.feed earlier).slots.length = handle.toNat := by
    rw [SimulatedBackend.length_slots_feed, hnumber]
    exact Nat.zero_add _
  have hslot : ((script.backend.feed earlier).act (.request (.new key))).2.slots[handle.toNat]? =
      some (script.firstSlot key) := by
    rw [hfollows.slots_act_new, ← hlength, List.getElem?_concat_length]
  rw [SimulatedBackend.fetches_append, SimulatedBackend.fetches_cons, if_neg (by simp),
    List.nil_append]
  -- In front of the registration there is no slot with the number, behind it the slot is known.
  congr 1
  · apply SimulatedBackend.fetches_of_unknown
    rw [hnumber]
    exact Nat.le_of_eq (Nat.zero_add _)
  · unfold Script.firstSlot at hslot
    split at hslot
    next hrejected =>
      rw [if_pos hrejected]
      exact SimulatedBackend.fetches_of_rejected hslot
    next haccepted =>
      rw [if_neg haccepted, SimulatedBackend.fetches_of_served 0 (by simpa using hslot),
        (hfollows.act _).pageSize, List.range_eq_range']

/--
In every sequence of requests and failures, whatever is received for a handle is answered as if the
requests for others had never been made. Before the registration with the number of the handle all of
its fetches are rejected; behind it they are rejected for ever if the registration was, and else they
are given the pages of the list of its expression, one after the other. A response that is lost makes
no difference to all others, and an exchange that is not delivered makes none at all.
-/
theorem handles_served_apart (script : Script)
    (hsize : ∀ key, script.pageSize + (script.listOf key).length < UInt64.size)
    (stimuli : List Stimulus) :
    let last := Chronicle.after script stimuli
    let received := last.backend.received
    List.Forall₂ Reaction.Yields (script.backend.reactions received) last.results ∧
    last.backend.slots.length = last.backend.newCount ∧
    (∀ cursor, some cursor ∈ last.backend.slots → cursor.position ≤ cursor.ids.length ∧
      cursor.position + last.backend.pageSize < UInt64.size) ∧
    (∀ bytes, 0 < last.backend.undelivered → ∃ failure, last.backend.exchange bytes =
      (.error (.requestNotDelivered failure),
        { last.backend with undelivered := last.backend.undelivered - 1 })) ∧
    ∀ handle : UInt32,
      let fetch := Received.request (.existing handle)
      let fetches := script.backend.fetches received handle
      fetches = script.backend.fetches (received.filter (·.concerns handle)) handle ∧
      (last.backend.newCount ≤ handle.toNat → fetches = List.replicate (received.count fetch) .bad) ∧
      ∀ earlier key later, received = earlier ++ .request (.new key) :: later →
        earlier.countP Received.isNew = handle.toNat →
        let early := List.replicate (earlier.count fetch) Response.bad
        (key ∈ script.rejected → fetches = early ++ List.replicate (later.count fetch) .bad) ∧
        (key ∉ script.rejected → ∃ pages, pages.length = later.count fetch ∧
          Consecutive (script.listOf key) script.pageSize pages ∧
          fetches = early ++ pages.map .payload) := by
  dsimp only
  have hfaithful := Chronicle.Faithful.after script stimuli
  generalize Chronicle.after script stimuli = last at hfaithful
  have hfollows := Chronicle.follows_backend script
  have hslots : last.backend.slots = (script.backend.feed last.backend.received).slots :=
    congrArg (·.slots) hfaithful.backend
  -- The slots are made of what was received, so failures can be forgotten from here on.
  refine ⟨hfaithful.results, ?_, ?_, ?_, ?_⟩
  · rw [hslots, SimulatedBackend.length_slots_feed]
    exact Nat.zero_add _
  · intro cursor hcursor
    have hbounded : script.backend.Bounded script := fun _ hmem => nomatch hmem
    rw [hslots] at hcursor
    obtain ⟨hposition, key, hlist⟩ :=
      hbounded.feed hfollows last.backend.received cursor hcursor
    have := hsize key
    rw [← hlist] at this
    refine ⟨hposition, ?_⟩
    rw [hfaithful.follows.pageSize]
    omega
  · intro bytes hundelivered
    exact ⟨_, SimulatedBackend.exchange_of_undelivered hundelivered bytes⟩
  intro handle
  refine ⟨hfollows.fetches_filter hfollows rfl rfl, ?_, ?_⟩
  · intro hcount
    apply SimulatedBackend.fetches_of_unknown
    rw [show script.backend.slots.length = 0 from rfl, Nat.zero_add]
    exact hcount
  intro earlier key later hreceived hnumber
  rw [hreceived, script.fetches_of_registration hnumber]
  constructor
  · intro hrejected
    rw [if_pos hrejected]
  · intro haccepted
    rw [if_neg haccepted]
    refine ⟨_, ?_, Consecutive.pages _ _ _, rfl⟩
    rw [List.length_map, List.length_range]

namespace SharedBackend

def script : Script where
  pageSize := 2
  results := ((∅ : Table (List UInt32)).insert ['1'] [5, 6, 7]).insert ['2'] [8]
  rejected := [['3']]

def request (request : Request) : Stimulus := .send (request.encode.toOption.getD [])

def stimuli : List Stimulus :=
  [request (.existing 0), request (.new ['1']), .loseNext 1, request (.existing 0),
    request (.new ['3']), request (.existing 1), .failNext 1, request (.existing 0), .send [7],
    request (.new ['2']), request (.existing 2), request (.existing 0)]

def later : List Received :=
  [.request (.existing 0), .request (.new ['3']), .request (.existing 1), .invalid [7],
    .request (.new ['2']), .request (.existing 2), .request (.existing 0)]

theorem first_list_handed_out_whole :
    ∃ pages, pages.length = 2 ∧ Consecutive [5, 6, 7] 2 pages ∧
      script.backend.fetches (Chronicle.after script stimuli).backend.received 0 =
        .bad :: pages.map .payload := by
  have hsize : ∀ key, script.pageSize + (script.listOf key).length < UInt64.size := by
    intro key
    have hlist : (script.listOf key).length ≤ 3 := by
      simp only [Script.listOf, script, Std.TreeMap.getD_insert]
      split
      · decide
      · split
        · decide
        · simp
    have : script.pageSize = 2 := rfl
    have : UInt64.size = 2 ^ 64 := rfl
    omega
  have hreceived : (Chronicle.after script stimuli).backend.received =
      [.request (.existing 0)] ++ .request (.new ['1']) :: later := by decide +kernel
  obtain ⟨-, -, -, -, hhandles⟩ := handles_served_apart script hsize stimuli
  obtain ⟨-, hserved⟩ := (hhandles 0).2.2 _ ['1'] later hreceived rfl
  exact hserved (by decide)

end SharedBackend

end BooleanSearch
