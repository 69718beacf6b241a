import BooleanSearch.Table

/-!
This module contains what a client remembers of its dealings with the backend: the handle of each
query and the pages of document IDs fetched so far.
-/

namespace BooleanSearch

/--
The document IDs fetched so far for one query, in the order of the backend.
-/
abbrev CachedResults := List UInt32

namespace CachedResults

def pagesCovered (ids : CachedResults) (pageSize : Nat) : Nat :=
  (ids.length + (pageSize - 1)) / pageSize

/--
A last page that is not full means that the backend has nothing more for this query.
-/
def isExhausted (ids : CachedResults) (pageSize : Nat) : Bool := ids.length % pageSize != 0

/--
The document IDs of a page that has been fetched. No page begins at or beyond position 2^64.
-/
def page? (ids : CachedResults) (page pageSize : Nat) : Option (List UInt32) :=
  let start := page * pageSize
  if start < UInt64.size ∧ start < ids.length then
    some ((ids.drop start).take pageSize)
  else
    none

theorem isExhausted_eq_false_iff {ids : List UInt32} {pageSize : Nat} :
    CachedResults.isExhausted ids pageSize = false ↔ ids.length % pageSize = 0 := by
  simp [isExhausted]

theorem pagesCovered_mul {ids : List UInt32} {pageSize : Nat} (hsize : 0 < pageSize)
    (h : CachedResults.isExhausted ids pageSize = false) :
    CachedResults.pagesCovered ids pageSize * pageSize = ids.length := by
  rw [isExhausted_eq_false_iff] at h
  obtain ⟨pages, hpages⟩ := Nat.dvd_of_mod_eq_zero h
  have hrest : (pageSize - 1) / pageSize = 0 := Nat.div_eq_of_lt (by omega)
  unfold pagesCovered
  rw [hpages, Nat.mul_add_div hsize, hrest, Nat.add_zero, Nat.mul_comm]

@[simp]
theorem pagesCovered_nil (pageSize : Nat) : CachedResults.pagesCovered [] pageSize = 0 := by
  cases pageSize with
  | zero => rfl
  | succ n => exact Nat.div_eq_of_lt (by simp)

@[simp]
theorem page?_nil (page pageSize : Nat) : CachedResults.page? [] page pageSize = none := by
  simp [page?]

theorem page?_eq_some_iff {ids slice : List UInt32} {page pageSize : Nat} :
    CachedResults.page? ids page pageSize = some slice ↔
      (page * pageSize < UInt64.size ∧ page * pageSize < ids.length) ∧
        slice = (ids.drop (page * pageSize)).take pageSize := by
  unfold page?
  dsimp only
  split
  next h => simp [h, eq_comm]
  next h => simp [h]

theorem le_of_page?_eq_none {ids : List UInt32} {page pageSize : Nat}
    (hlength : ids.length < UInt64.size) (h : CachedResults.page? ids page pageSize = none) :
    ids.length ≤ page * pageSize := by
  unfold page? at h
  dsimp only at h
  split at h
  next => cases h
  next hbeyond => omega

end CachedResults

/--
The handle table and the result cache of one client. Handles are assigned in order from zero, when a
query is first seen. Nothing is ever removed.
-/
structure Session where
  handles : Table UInt32 := ∅
  results : Table CachedResults := ∅

namespace Session

def handle? (session : Session) (key : Text) : Option UInt32 := session.handles[key]?

def queryCount (session : Session) : Nat := session.handles.size

/--
The handle of a query, which is the next one if it has none yet.
-/
def register (session : Session) (key : Text) : UInt32 × Session :=
  match session.handle? key with
  | some handle => (handle, session)
  | none =>
    let handle := UInt32.ofNat session.queryCount
    (handle, { session with handles := session.handles.insert key handle })

def results? (session : Session) (key : Text) : Option CachedResults := session.results[key]?

def cached (session : Session) (key : Text) : CachedResults := (session.results? key).getD []

def beginResults (session : Session) (key : Text) : Session :=
  { session with results := session.results.insertIfNew key [] }

def appendPage (session : Session) (key : Text) (ids : List UInt32) : Session :=
  { session with results := session.results.insert key (session.cached key ++ ids) }

theorem handle?_register (session : Session) (key other : Text) :
    (session.register key).2.handle? other =
      if key = other then some (session.register key).1 else session.handle? other := by
  unfold register
  split
  next handle h =>
    by_cases hkey : key = other
    · subst hkey
      simp [h]
    · simp [hkey]
  next h =>
    by_cases hkey : key = other
    · subst hkey
      simp [handle?]
    · simp [handle?, hkey, Std.TreeMap.getElem?_insert]

theorem register_of_handle?_eq_none {session : Session} {key : Text}
    (h : session.handle? key = none) : (session.register key).1 = .ofNat session.queryCount := by
  unfold register
  rw [h]

theorem queryCount_register {session : Session} {key : Text} (h : session.handle? key = none) :
    (session.register key).2.queryCount = session.queryCount + 1 := by
  have hcontains : session.handles.contains key = false := by
    rw [Std.TreeMap.contains_eq_isSome_getElem?]
    unfold handle? at h
    rw [h]
    rfl
  unfold register
  rw [h]
  simp [queryCount, Std.TreeMap.size_insert, hcontains]

@[simp]
theorem cached_register (session : Session) (key other : Text) :
    (session.register key).2.cached other = session.cached other := by
  unfold register
  split <;> rfl

@[simp]
theorem handle?_beginResults (session : Session) (key other : Text) :
    (session.beginResults key).handle? other = session.handle? other := rfl

@[simp]
theorem handle?_appendPage (session : Session) (key other : Text) (ids : List UInt32) :
    (session.appendPage key ids).handle? other = session.handle? other := rfl

@[simp]
theorem cached_beginResults (session : Session) (key other : Text) :
    (session.beginResults key).cached other = session.cached other := by
  simp only [cached, results?, beginResults, Std.TreeMap.getElem?_insertIfNew]
  split
  next h =>
    obtain ⟨hkey, hnew⟩ := h
    have hkey : key = other := Std.compare_eq_iff_eq.mp hkey
    subst hkey
    rw [Std.TreeMap.getElem?_eq_none hnew]
    rfl
  next => rfl

theorem cached_appendPage (session : Session) (key other : Text) (ids : List UInt32) :
    (session.appendPage key ids).cached other =
      if key = other then session.cached key ++ ids else session.cached other := by
  simp only [cached, results?, appendPage, Std.TreeMap.getElem?_insert]
  by_cases hkey : key = other
  · simp [hkey]
  · simp [hkey]

end Session

end BooleanSearch
