import BooleanSearch.Proofs.Retrieval.Paging

/-!
This module contains the theorem that tells which page a fetch answers with when responses are lost. The
client counts the pages that it has cached, the backend those that it has handed out, so that every
page behind a lost one is answered under a number that is too small.
-/

namespace BooleanSearch

theorem position_eq_iff {fates : List Fate} {position page : Nat}
    (hfates : ∀ fate ∈ fates, fate ≠ .undelivered) (hposition : fates[position]? = some .answered)
    (hcount : (fates.take position).count .answered = page) :
    position = page ↔ .lost ∉ fates.take (page + 1) := by
  have hlength : (fates.take position).length = position := by
    rw [List.length_take]
    have hlt := (List.getElem?_eq_some_iff.mp hposition).1
    omega
  constructor
  · intro heq hlost
    subst heq
    rw [List.take_add_one, hposition] at hlost
    have hanswered : ∀ fate ∈ fates.take position, Fate.answered = fate := by
      rw [← List.count_eq_length, hcount, hlength]
    rw [List.mem_append] at hlost
    cases hlost with
    | inl hbefore => cases hanswered .lost hbefore
    | inr hlast => simp at hlast
  · intro hlost
    have hle : page ≤ position := by
      have hle := @List.count_le_length _ _ Fate.answered (fates.take position)
      omega
    have hanswered : ∀ fate ∈ fates.take (page + 1), Fate.answered = fate := by
      intro fate hfate
      have hdelivered := hfates fate (List.mem_of_mem_take hfate)
      cases fate with
      | undelivered => exact absurd rfl hdelivered
      | lost => exact absurd hfate hlost
      | answered => rfl
    have hall : (fates.take (page + 1)).count .answered = (fates.take (page + 1)).length :=
      List.count_eq_length.mpr hanswered
    -- An answer further back would have more than `page` answers before it.
    by_contra hne
    have hprefix : (fates.take (page + 1)).Sublist (fates.take position) := by
      apply (List.take_prefix_take_left _).sublist
      omega
    have hcountLe := hprefix.count_le .answered
    rw [hall, hcount, List.length_take] at hcountLe
    rw [List.length_take] at hlength
    omega

section

variable {schedule : Schedule} {config : ClientConfig} {script : Script}
variable {calls : List (ResolvedExpr × Nat)} {expr : ResolvedExpr} {page : Nat} {ids : List UInt32}

/--
If every request is delivered, a page is answered with the one whose response was the next to arrive
after as many others as its number says. This is the right page exactly if none of the responses up to
it was lost.
-/
theorem answered_with_next_page_to_arrive (hpageSize : config.pageSize = script.pageSize)
    (hpositive : 1 ≤ script.pageSize) (hdelivers : schedule.Delivers config.transportRetries)
    (hcount : (Dialogue.keys (calls ++ [(expr, page)])).length ≤ UInt32.size)
    (hencode : ∀ key ∈ Dialogue.keys (calls ++ [(expr, page)]),
      ∃ bytes, (Request.new key).encode = .ok bytes)
    (hfits : script.FitsWire expr.wire)
    (hok : ((Dialogue.after schedule config script calls).fetch schedule config expr page).1 =
      .ok ids) :
    let last := Dialogue.after schedule config script (calls ++ [(expr, page)])
    ∃ handle position, last.client.session.handle? expr.wire = some handle ∧
      (last.line.pageFates handle)[position]? = some .answered ∧
      ((last.line.pageFates handle).take position).count .answered = page ∧
      ids = pageOf (script.listOf expr.wire) position script.pageSize ∧
      (position = page ↔ .lost ∉ (last.line.pageFates handle).take (page + 1)) ∧
      ((script.listOf expr.wire).Nodup →
        (ids = pageOf (script.listOf expr.wire) page script.pageSize ↔
          .lost ∉ (last.line.pageFates handle).take (page + 1))) := by
  dsimp only
  have hpaged := Paged.after script hdelivers (calls ++ [(expr, page)]) hcount hencode
  have hrun := Dialogue.fetch_run schedule config (Dialogue.after schedule config script calls)
    expr page
  rw [← Dialogue.after_concat, hok] at hrun
  have hfull : config.fullPage = script.pageSize := by
    unfold ClientConfig.fullPage
    omega
  have hpage := hrun.page_of_ok
  rw [hfull, CachedResults.page?_eq_some_iff] at hpage
  obtain ⟨⟨-, hlength⟩, hids⟩ := hpage
  generalize Dialogue.after schedule config script (calls ++ [(expr, page)]) = last at *
  have hcached : last.client.session.cached expr.wire ≠ [] := by
    intro hnil
    rw [hnil] at hlength
    simp at hlength
  obtain ⟨handle, hhandle⟩ : ∃ handle, last.client.session.handle? expr.wire = some handle := by
    cases hhandle : last.client.session.handle? expr.wire with
    | none => exact absurd (hpaged.numbered.cached_eq_nil hhandle) hcached
    | some handle => exact ⟨handle, rfl⟩
  have hallowed : expr.wire ∉ script.rejected := fun h => hcached (hpaged.rejected _ h)
  have hkept := hpaged.cached expr.wire handle hhandle hallowed hfits
  rw [hkept] at hlength hids
  obtain ⟨position, hposition, hbefore, hpage⟩ := exists_pageOf_kept hlength
  rw [Nat.zero_add] at hpage
  have hids : ids = pageOf (script.listOf expr.wire) position script.pageSize := hids.trans hpage
  have hiff := position_eq_iff (fun _ h => (Line.mem_pageFates h).2) hposition hbefore
  refine ⟨handle, position, hhandle, hposition, hbefore, hids, hiff, ?_⟩
  intro hnodup
  rw [← hiff, hids]
  constructor
  · intro heq
    have hsize := congrArg List.length hpage
    rw [length_pageOf, length_pageOf] at hsize
    exact page_eq_of_pageOf_eq hnodup hpositive (by omega) heq
  · intro heq
    rw [heq]

end

namespace LostPage

def script : Script where
  pageSize := 2
  results := (∅ : Table (List UInt32)).insert ['3'] [0, 1, 2, 3, 4, 5]
  rejected := []

def config : ClientConfig := { pageSize := 2, retryBackoffMs := 0 }

def schedule : Schedule := fun attempt _ => if attempt = 2 then .lost else .answered

def query : ResolvedExpr := ⟨[.term 3]⟩

def calls : List (ResolvedExpr × Nat) := [(query, 0), (query, 1)]

theorem fetch_eq :
    ((Dialogue.after schedule config script calls).fetch schedule config query 1).1 =
      .ok [4, 5] := by
  apply eq_ok_of_toOption
  decide +kernel

theorem delivers : schedule.Delivers config.transportRetries := by
  intro attempt received
  refine ⟨0, Nat.zero_le _, ?_⟩
  unfold schedule
  split <;> simp

theorem answered_with_later_page :
    schedule.Delivers config.transportRetries ∧
      ((Dialogue.after schedule config script calls).fetch schedule config query 1).1 =
        .ok [4, 5] ∧
      pageOf (script.listOf query.wire) 1 script.pageSize = [2, 3] :=
  ⟨delivers, fetch_eq, by decide +kernel⟩

theorem response_of_page_was_lost :
    let last := Dialogue.after schedule config script (calls ++ [(query, 1)])
    ∃ handle, last.client.session.handle? query.wire = some handle ∧
      .lost ∈ (last.line.pageFates handle).take 2 := by
  have hkeys : Dialogue.keys (calls ++ [(query, 1)]) = [['3']] := by decide +kernel
  have hencode : ∀ key ∈ Dialogue.keys (calls ++ [(query, 1)]),
      ∃ bytes, (Request.new key).encode = .ok bytes := by
    rw [hkeys]
    intro key hkey
    rw [List.mem_singleton.mp hkey]
    exact ⟨_, rfl⟩
  have hfits : script.FitsWire query.wire := by
    unfold Script.FitsWire
    decide +kernel
  obtain ⟨handle, position, hhandle, -, -, -, -, hright⟩ :=
    answered_with_next_page_to_arrive rfl (by decide) delivers (by decide +kernel) hencode hfits
      fetch_eq
  refine ⟨handle, hhandle, ?_⟩
  by_contra hlost
  have hwrong := (hright (by decide +kernel)).mpr hlost
  revert hwrong
  decide +kernel

end LostPage

end BooleanSearch
