import Mathlib.Data.List.Induction
import BooleanSearch.Proofs.Retrieval.Disturbance

/-!
This module contains the pages of a list of document IDs, and what is left of the list when some of its
pages are lost on their way.
-/

namespace BooleanSearch

def pageOf (ids : List UInt32) (page pageSize : Nat) : List UInt32 :=
  (ids.drop (page * pageSize)).take pageSize

/--
The pages from `page` on that are answered, one after the other.
-/
def kept (ids : List UInt32) (pageSize : Nat) : (page : Nat) → List Fate → List UInt32
  | _, [] => []
  | page, fate :: fates =>
    (if fate = .answered then pageOf ids page pageSize else []) ++ kept ids pageSize (page + 1) fates

variable {ids : List UInt32} {page pageSize : Nat}

theorem length_pageOf (ids : List UInt32) (page pageSize : Nat) :
    (pageOf ids page pageSize).length = min pageSize (ids.length - page * pageSize) := by
  unfold pageOf
  rw [List.length_take, List.length_drop]

theorem pageOf_eq_nil (h : ids.length ≤ page * pageSize) : pageOf ids page pageSize = [] := by
  unfold pageOf
  rw [List.drop_eq_nil_of_le h, List.take_nil]

theorem take_append_pageOf (ids : List UInt32) (page pageSize : Nat) :
    ids.take (page * pageSize) ++ pageOf ids page pageSize = ids.take ((page + 1) * pageSize) := by
  rw [Nat.succ_mul, List.take_add]
  rfl

theorem drop_take_min (ids : List UInt32) (start size : Nat) :
    (ids.take (min (start + size) ids.length)).drop start = (ids.drop start).take size := by
  rw [List.drop_take, List.take_eq_take_iff, List.length_drop]
  omega

theorem pageOf_take {count : Nat} (h : page < count) :
    pageOf (ids.take (count * pageSize)) page pageSize = pageOf ids page pageSize := by
  have hle : (page + 1) * pageSize ≤ count * pageSize := Nat.mul_le_mul_right pageSize h
  unfold pageOf
  rw [List.drop_take, List.take_take, Nat.min_eq_left]
  rw [Nat.succ_mul] at hle
  omega

theorem page_eq_of_pageOf_eq {other : Nat} (hnodup : ids.Nodup) (hsize : 0 < pageSize)
    (hpage : page * pageSize < ids.length)
    (h : pageOf ids page pageSize = pageOf ids other pageSize) : page = other := by
  have hhead : ids[page * pageSize]? = ids[other * pageSize]? := by
    have hfirst := congrArg (·[0]?) h
    simp only [pageOf] at hfirst
    rw [List.getElem?_take_of_lt hsize, List.getElem?_take_of_lt hsize, List.getElem?_drop,
      List.getElem?_drop] at hfirst
    exact hfirst
  have hposition : page * pageSize = other * pageSize :=
    (List.getElem?_inj hpage hnodup).mp hhead
  exact Nat.eq_of_mul_eq_mul_right hsize hposition

namespace Cursor

theorem nextPage_eq_pageOf (ids : List UInt32) (page pageSize : Nat) :
    nextPage ⟨ids, min (page * pageSize) ids.length⟩ pageSize = pageOf ids page pageSize := by
  unfold nextPage pageEnd pageOf
  dsimp only
  rw [drop_take_min]
  by_cases h : page * pageSize ≤ ids.length
  · rw [Nat.min_eq_left h]
  · have hend : ids.length ≤ page * pageSize := by omega
    rw [Nat.min_eq_right hend, List.drop_length, List.drop_eq_nil_of_le hend]

theorem advance_eq (ids : List UInt32) (page pageSize : Nat) :
    advance ⟨ids, min (page * pageSize) ids.length⟩ pageSize =
      ⟨ids, min ((page + 1) * pageSize) ids.length⟩ := by
  unfold advance pageEnd
  rw [Nat.succ_mul]
  congr 1
  dsimp only
  omega

end Cursor

theorem kept_concat (ids : List UInt32) (page pageSize : Nat) (fates : List Fate) (fate : Fate) :
    kept ids pageSize page (fates ++ [fate]) =
      kept ids pageSize page fates ++
        if fate = .answered then pageOf ids (page + fates.length) pageSize else [] := by
  induction fates generalizing page with
  | nil => simp [kept]
  | cons first fates ih =>
    simp only [List.cons_append, kept, List.append_assoc]
    rw [ih, List.length_cons, Nat.add_right_comm, Nat.add_assoc]

theorem kept_eq_take {fates : List Fate} (h : ∀ fate ∈ fates, fate = .answered) :
    kept ids pageSize 0 fates = ids.take (fates.length * pageSize) := by
  induction fates using List.reverseRecOn with
  | nil => simp [kept]
  | append_singleton fates fate ih =>
    have hfate : fate = .answered := h fate (by simp)
    have hfates : ∀ fate ∈ fates, fate = .answered := fun fate hmem => h fate (by simp [hmem])
    rw [kept_concat, if_pos hfate, ih hfates, Nat.zero_add, take_append_pageOf, List.length_append]
    rfl

theorem kept_eq_nil {fates : List Fate} (h : ids.length ≤ page * pageSize) :
    kept ids pageSize page fates = [] := by
  induction fates generalizing page with
  | nil => rfl
  | cons fate fates ih =>
    have hnext : ids.length ≤ (page + 1) * pageSize := by
      rw [Nat.succ_mul]
      omega
    unfold kept
    rw [ih hnext, pageOf_eq_nil h]
    split <;> rfl

theorem pageOf_append_succ {front behind : List UInt32} (hfront : front.length = pageSize)
    (count : Nat) :
    pageOf (front ++ behind) (count + 1) pageSize = pageOf behind count pageSize := by
  unfold pageOf
  rw [Nat.succ_mul, Nat.add_comm, ← hfront, List.drop_length_add_append]

theorem pageOf_append_zero {front behind : List UInt32}
    (hfront : front.length = pageSize ∨ front.length ≤ pageSize ∧ behind = []) :
    pageOf (front ++ behind) 0 pageSize = front := by
  unfold pageOf
  rw [Nat.zero_mul, List.drop_zero]
  cases hfront with
  | inl hfull => rw [← hfull, List.take_left]
  | inr hlast => rw [hlast.2, List.append_nil, List.take_of_length_le hlast.1]

theorem exists_pageOf_kept {fates : List Fate} {count : Nat}
    (h : count * pageSize < (kept ids pageSize page fates).length) :
    ∃ position, fates[position]? = some .answered ∧
      (fates.take position).count .answered = count ∧
      pageOf (kept ids pageSize page fates) count pageSize =
        pageOf ids (page + position) pageSize := by
  induction fates generalizing page count with
  | nil => simp [kept] at h
  | cons fate fates ih =>
    by_cases hfate : fate = .answered
    · subst hfate
      simp only [kept, ↓reduceIte, List.length_append, length_pageOf] at h ⊢
      -- A page that is not full is the last one with documents.
      have hlast : (pageOf ids page pageSize).length = pageSize ∨
          (pageOf ids page pageSize).length ≤ pageSize ∧
            kept ids pageSize (page + 1) fates = [] := by
        rw [length_pageOf]
        by_cases hfull : page * pageSize + pageSize ≤ ids.length
        · left
          omega
        · right
          refine ⟨by omega, kept_eq_nil ?_⟩
          rw [Nat.succ_mul]
          omega
      cases count with
      | zero =>
        refine ⟨0, rfl, rfl, ?_⟩
        rw [pageOf_append_zero hlast, Nat.add_zero]
      | succ count =>
        rw [Nat.succ_mul] at h
        cases hlast with
        | inr hlast =>
          rw [hlast.2, List.length_nil] at h
          omega
        | inl hfull =>
          rw [pageOf_append_succ hfull]
          obtain ⟨position, hposition, hcount, hpage⟩ := @ih (page + 1) count (by omega)
          refine ⟨position + 1, hposition, ?_, ?_⟩
          · rw [List.take_succ_cons, List.count_cons_self, hcount]
          · rw [hpage, Nat.add_right_comm, Nat.add_assoc]
    · simp only [kept, hfate, ↓reduceIte, List.nil_append] at h ⊢
      obtain ⟨position, hposition, hcount, hpage⟩ := ih h
      refine ⟨position + 1, hposition, ?_, ?_⟩
      · rw [List.take_succ_cons, List.count_cons_of_ne hfate, hcount]
      · rw [hpage, Nat.add_right_comm, Nat.add_assoc]

end BooleanSearch
