import BooleanSearch.Proofs.Retrieval.Numbering

/-!
This module contains the theorem that tells whose documents a fetch answers with. A client keeps the
handle of an expression whose registration was never delivered, and the backend gives its number to a
later expression; every expression in between is then answered with the documents of another one.
-/

namespace BooleanSearch

theorem position_of_sublist {α : Type} {l keys : List α} {a : α} {i j : Nat}
    (hsublist : l.Sublist keys) (hnodup : keys.Nodup) (hi : l[i]? = some a)
    (hj : keys[j]? = some a) : i ≤ j ∧ (i = j ↔ ∀ b ∈ keys.take (j + 1), b ∈ l) := by
  -- An element that is missing in front moves all others to the front for good.
  induction hsublist generalizing i j with
  | slnil => simp at hi
  | @cons l keys b hsublist ih =>
    obtain ⟨hb, hnodup⟩ := List.nodup_cons.mp hnodup
    have hmissing : b ∉ l := fun h => hb (hsublist.subset h)
    cases j with
    | zero =>
      simp only [List.getElem?_cons_zero, Option.some.injEq] at hj
      subst hj
      exact absurd (List.mem_of_getElem? hi) hmissing
    | succ j =>
      obtain ⟨hle, -⟩ := ih hnodup hi hj
      refine ⟨by omega, ?_⟩
      constructor
      · intro heq
        omega
      · intro hall
        exact absurd (hall b List.mem_cons_self) hmissing
  | @cons_cons l keys b hsublist ih =>
    obtain ⟨hb, hnodup⟩ := List.nodup_cons.mp hnodup
    cases i with
    | zero =>
      simp only [List.getElem?_cons_zero, Option.some.injEq] at hi
      subst hi
      cases j with
      | zero => simp
      | succ j =>
        rw [List.getElem?_cons_succ] at hj
        exact absurd (List.mem_of_getElem? hj) hb
    | succ i =>
      have ha : a ∈ l := List.mem_of_getElem? hi
      cases j with
      | zero =>
        simp only [List.getElem?_cons_zero, Option.some.injEq] at hj
        subst hj
        exact absurd (hsublist.subset ha) hb
      | succ j =>
        obtain ⟨hle, hiff⟩ := ih hnodup hi hj
        refine ⟨by omega, ?_⟩
        rw [Nat.add_right_cancel_iff, hiff, List.take_succ_cons, List.forall_mem_cons]
        constructor
        · intro hall
          exact ⟨List.mem_cons_self, fun c hc => List.mem_cons_of_mem b (hall c hc)⟩
        · intro hall c hc
          cases hall.2 c hc with
          | head => exact absurd (List.mem_of_mem_take hc) hb
          | tail _ hmem => exact hmem

namespace Numbered

variable {script : Script} {keys : List Text} {session : Session} {backend : SimulatedBackend}
variable {key owner : Text} {handle : UInt32}

theorem owner_eq_iff (h : Numbered script keys session backend)
    (hcount : keys.length ≤ UInt32.size) (hhandle : session.handle? key = some handle)
    (howner : backend.registered[handle.toNat]? = some owner) :
    owner = key ↔ ∀ other ∈ keys.take (handle.toNat + 1), other ∈ backend.registered := by
  have hkey := h.getElem?_toNat hcount hhandle
  constructor
  · intro heq
    subst heq
    exact (position_of_sublist h.registered h.nodup howner hkey).2.mp rfl
  · intro hall
    have hlast : key ∈ keys.take (handle.toNat + 1) := by
      apply List.mem_of_getElem? (i := handle.toNat)
      rw [List.getElem?_take_of_lt (by omega)]
      exact hkey
    obtain ⟨i, hi⟩ := List.mem_iff_getElem?.mp (hall key hlast)
    have hposition := (position_of_sublist h.registered h.nodup hi hkey).2.mpr hall
    rw [hposition, howner, Option.some.injEq] at hi
    exact hi

end Numbered

section

variable {schedule : Schedule} {config : ClientConfig} {script : Script}
variable {calls : List (ResolvedExpr × Nat)} {expr : ResolvedExpr} {page : Nat} {ids : List UInt32}

/--
Under every schedule, an answer consists of documents of the expression that has the number of the
handle in the backend. This is the expression of the call exactly if the registrations of all
expressions up to it were delivered, and unless another list has documents of its list, the answer
consists of its own documents in no other case.
-/
theorem answered_from_owner_of_handle
    (hok : ((Dialogue.after schedule config script calls).fetch schedule config expr page).1 =
      .ok ids) :
    let keys := Dialogue.keys (calls ++ [(expr, page)])
    let last := Dialogue.after schedule config script (calls ++ [(expr, page)])
    let registered := last.line.backend.registered
    ∃ handle owner, last.client.session.handle? expr.wire = some handle ∧
      registered[handle.toNat]? = some owner ∧
      (∀ id ∈ ids, id ∈ script.listOf owner) ∧
      (keys.length ≤ UInt32.size →
        (owner = expr.wire ↔ ∀ key ∈ keys.take (handle.toNat + 1), key ∈ registered) ∧
        ((∀ key id, id ∈ script.listOf key → id ∈ script.listOf expr.wire → key = expr.wire) →
          ((∀ id ∈ ids, id ∈ script.listOf expr.wire) ↔
            ∀ key ∈ keys.take (handle.toNat + 1), key ∈ registered))) := by
  dsimp only
  have hnumbered := Numbered.after schedule config script (calls ++ [(expr, page)])
  have hrun := Dialogue.fetch_run schedule config (Dialogue.after schedule config script calls)
    expr page
  rw [← Dialogue.after_concat, hok] at hrun
  obtain ⟨⟨-, hlength⟩, hids⟩ := CachedResults.page?_eq_some_iff.mp hrun.page_of_ok
  have hcached : ∀ id ∈ ids, id ∈ (Dialogue.after schedule config script
      (calls ++ [(expr, page)])).client.session.cached expr.wire := by
    intro id hid
    rw [hids] at hid
    exact List.mem_of_mem_drop (List.mem_of_mem_take hid)
  -- The first document of the answer tells the owner, and all others have the same handle.
  obtain ⟨first, hfirst⟩ : ∃ first, first ∈ ids := by
    apply List.exists_mem_of_length_pos
    rw [hids, List.length_take, List.length_drop]
    unfold ClientConfig.fullPage at hlength ⊢
    omega
  obtain ⟨handle, hhandle, owner, howner, hlisted⟩ :=
    hnumbered.cached expr.wire first (hcached first hfirst)
  have hall : ∀ id ∈ ids, id ∈ script.listOf owner := by
    intro id hid
    obtain ⟨handle', hhandle', owner', howner', hlisted'⟩ :=
      hnumbered.cached expr.wire id (hcached id hid)
    rw [hhandle, Option.some.injEq] at hhandle'
    subst hhandle'
    rw [howner, Option.some.injEq] at howner'
    subst howner'
    exact hlisted'
  refine ⟨handle, owner, hhandle, howner, hall, ?_⟩
  intro hcount
  have hiff := hnumbered.owner_eq_iff hcount hhandle howner
  refine ⟨hiff, ?_⟩
  intro hdisjoint
  rw [← hiff]
  constructor
  · intro hown
    exact hdisjoint owner first hlisted (hown first hfirst)
  · intro heq
    rw [← heq]
    exact hall

end

namespace LostRegistration

def script : Script where
  pageSize := 50
  results := (((∅ : Table (List UInt32)).insert ['1'] [10]).insert ['2'] [20]).insert ['3'] [30]
  rejected := []

def config : ClientConfig := { retryBackoffMs := 0 }

def schedule : Schedule := fun attempt _ => if attempt < 2 then .undelivered else .answered

def query (id : UInt32) : ResolvedExpr := ⟨[.term id]⟩

def calls : List (ResolvedExpr × Nat) := [(query 1, 0), (query 2, 0)]

theorem fetch_eq :
    ((Dialogue.after schedule config script calls).fetch schedule config (query 1) 0).1 =
      .ok [20] := by
  apply eq_ok_of_toOption
  decide +kernel

theorem answered_with_other_documents :
    (∀ attempt received, schedule attempt received ≠ .lost) ∧
      ((Dialogue.after schedule config script calls).fetch schedule config (query 1) 0).1 =
        .ok [20] ∧
      script.listOf (query 1).wire = [10] ∧ script.listOf (query 2).wire = [20] := by
  refine ⟨?_, fetch_eq, by decide +kernel, by decide +kernel⟩
  intro attempt received
  unfold schedule
  split <;> simp

theorem registration_is_missing :
    let last := Dialogue.after schedule config script (calls ++ [(query 1, 0)])
    ∃ handle, last.client.session.handle? (query 1).wire = some handle ∧
      ¬ ∀ key ∈ (Dialogue.keys (calls ++ [(query 1, 0)])).take (handle.toNat + 1),
        key ∈ last.line.backend.registered := by
  obtain ⟨handle, owner, hhandle, -, hids, hexact⟩ := answered_from_owner_of_handle fetch_eq
  refine ⟨handle, hhandle, ?_⟩
  rw [← (hexact (by decide +kernel)).1]
  intro howner
  have hmem := hids 20 List.mem_cons_self
  rw [howner] at hmem
  revert hmem
  decide +kernel

end LostRegistration

end BooleanSearch
