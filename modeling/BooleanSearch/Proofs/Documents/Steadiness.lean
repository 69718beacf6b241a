import BooleanSearch.Host
import BooleanSearch.Proofs.Documents.Reading

/-!
This module contains look-ups of documents on a host. If its files stay as they are while they are
read, a document is looked up as in the files alone, and what is found does not depend on the documents
that were looked up before, although they share the indexes.
-/

namespace BooleanSearch

variable {σ : Type}

/--
The files of a host stay as they are while they are read and while time passes.
-/
structure Host.Steady (host : Host (StateM σ)) (files : σ → Files) : Prop where
  consistent (s : σ) : (files s).Consistent
  fst_readFile (name : Text) (s : σ) : ((host.readFile name).run s).1 = files s name
  snd_readFile (name : Text) (s : σ) : files ((host.readFile name).run s).2 = files s
  snd_clock (s : σ) : files (host.clock.run s).2 = files s

namespace DocumentStore

section

variable {store : DocumentStore} {files : Files} {indexes : OffsetIndexes}

theorem snd_lookup_cases (store : DocumentStore) (files : Files) (indexes : OffsetIndexes)
    (id : UInt32) :
    (store.lookup files indexes id).2 = indexes ∨
      ∃ path text, indexes[Path.components path]? = none ∧
        files path = .ok (Utf8.encode text) ∧
        (store.lookup files indexes id).2 =
          indexes.insert (Path.components path) (OffsetIndex.ofText text) := by
  cases hrecord : store.get? id with
  | none =>
    rw [lookup_of_unknown hrecord]
    exact .inl rfl
  | some record =>
    rw [lookup_eq id hrecord, run_indexOf]
    cases hindex : indexes[Path.components record.path]? with
    | some index => exact .inl rfl
    | none =>
      cases htext : textOfFile (files record.path) with
      | error e => exact .inl rfl
      | ok text =>
        exact .inr ⟨record.path, text, hindex, eq_encode_of_textOfFile htext, rfl⟩

theorem fst_lookup_congr {now : Files} {indexes' : OffsetIndexes} {id : UInt32}
    (h : ∀ record, store.get? id = some record → now record.path = files record.path ∧
      indexes'[Path.components record.path]? = indexes[Path.components record.path]?) :
    (store.lookup now indexes' id).1 = (store.lookup files indexes id).1 := by
  cases hrecord : store.get? id with
  | none => rw [lookup_of_unknown hrecord, lookup_of_unknown hrecord]
  | some record =>
    obtain ⟨hfile, hindex⟩ := h record hrecord
    rw [lookup_eq id hrecord, lookup_eq id hrecord, run_indexOf, run_indexOf, hfile, hindex]
    cases indexes[Path.components record.path]? with
    | some index => simp only [readAt, hfile]
    | none => cases textOfFile (files record.path) <;> simp only [readAt, hfile]

theorem toOption_lookup_insert (hfiles : files.Consistent) {path text : Text}
    (hindex : indexes[Path.components path]? = none)
    (hfile : files path = .ok (Utf8.encode text)) (id : UInt32) :
    (store.lookup files (indexes.insert (Path.components path) (OffsetIndex.ofText text)) id).1.toOption =
      (store.lookup files indexes id).1.toOption := by
  by_cases hpath : ∃ record, store.get? id = some record ∧
      Path.components path = Path.components record.path
  · obtain ⟨record, hrecord, hpath⟩ := hpath
    have hanew : (store.lookup files indexes id).1 = found files id record :=
      fst_lookup_of_not_kept hrecord (hpath ▸ hindex)
    rcases fst_lookup_of_kept hfiles hrecord hpath hfile Std.TreeMap.getElem?_insert_self with
      hfound | ⟨⟨failure, hrefused⟩, -, hmissing⟩
    · rw [hfound, hanew]
    · rw [hmissing, hanew, found, hrefused]
      rfl
  · congr 1
    refine fst_lookup_congr fun record hrecord => ⟨rfl, ?_⟩
    have hne : Path.components path ≠ Path.components record.path :=
      fun heq => hpath ⟨record, hrecord, heq⟩
    rw [Std.TreeMap.getElem?_insert, if_neg (by simpa using hne)]

theorem toOption_lookup_snd_lookup (hfiles : files.Consistent) (other id : UInt32) :
    (store.lookup files (store.lookup files indexes other).2 id).1.toOption =
      (store.lookup files indexes id).1.toOption := by
  obtain hindexes | ⟨path, text, hindex, hfile, hindexes⟩ :=
    snd_lookup_cases store files indexes other
  · rw [hindexes]
  · rw [hindexes]
    exact toOption_lookup_insert hfiles hindex hfile id

theorem exists_reaches_foldl {searched : Set Text} (h : store.Reaches files searched indexes)
    (ids : List UInt32) :
    ∃ searched, store.Reaches files searched
      (ids.foldl (fun indexes id => (store.lookup files indexes id).2) indexes) := by
  induction ids generalizing searched indexes with
  | nil => exact ⟨searched, h⟩
  | cons id ids ih => exact ih (h.lookup id)

end

/--
A relation that is kept by the steps of which the work of a store is made up.
-/
structure Parametric {m n : Type → Type} [Monad m] [Monad n]
    (readFile : Text → m (Except IoFailure Bytes)) (readFile' : Text → n (Except IoFailure Bytes))
    (R : {α : Type} → ExceptT SearchError (StateT OffsetIndexes m) α →
      ExceptT SearchError (StateT OffsetIndexes n) α → Prop) : Prop where
  pure {α : Type} (a : α) : R (pure a) (pure a)
  throw {α : Type} (e : SearchError) :
    R (throw e : ExceptT SearchError (StateT OffsetIndexes m) α) (throw e)
  bind {α β : Type} {x : ExceptT SearchError (StateT OffsetIndexes m) α}
    {y : ExceptT SearchError (StateT OffsetIndexes n) α}
    {f : α → ExceptT SearchError (StateT OffsetIndexes m) β}
    {g : α → ExceptT SearchError (StateT OffsetIndexes n) β} (hx : R x y)
    (hf : ∀ a, R (f a) (g a)) : R (x >>= f) (y >>= g)
  indexes : R get get
  keep (f : OffsetIndexes → OffsetIndexes) : R (modify f) (modify f)
  check {α : Type} (x : Except SearchError α) : R (liftM x) (liftM x)
  read (path : Text) : R (liftM (readFile path)) (liftM (readFile' path))

namespace Parametric

variable {m n : Type → Type} [Monad m] [Monad n]
variable {readFile : Text → m (Except IoFailure Bytes)}
variable {readFile' : Text → n (Except IoFailure Bytes)}
variable {R : {α : Type} → ExceptT SearchError (StateT OffsetIndexes m) α →
  ExceptT SearchError (StateT OffsetIndexes n) α → Prop}

theorem indexOf (h : Parametric readFile readFile' R) (path : Text) :
    R (indexOf readFile path) (indexOf readFile' path) := by
  unfold DocumentStore.indexOf
  apply h.bind h.indexes
  intro indexes
  cases indexes[Path.components path]? with
  | some index => exact h.pure index
  | none =>
    apply h.bind (h.read path)
    intro file
    apply h.bind (h.check (textOfFile file))
    intro text
    exact h.bind (h.keep _) fun _ => h.pure _

theorem text (h : Parametric readFile readFile' R) (store : DocumentStore) (id : UInt32) :
    R (store.text readFile id) (store.text readFile' id) := by
  unfold DocumentStore.text
  cases store.get? id with
  | none => exact h.throw _
  | some record =>
    apply h.bind (h.indexOf record.path)
    intro index
    cases index[record.key]? with
    | none => exact h.throw _
    | some range =>
      apply h.bind (h.read record.path)
      intro file
      cases file with
      | error failure => exact h.throw _
      | ok file =>
        dsimp only
        cases range.of? file with
        | none => exact h.throw _
        | some body => exact h.pure _

end Parametric

/--
An action of a store does the same on a host, as long as its files are the given ones, as on the files
alone.
-/
def Mirrors {α : Type} (files : σ → Files) (now : Files)
    (x : ExceptT SearchError (StateT OffsetIndexes (StateM σ)) α)
    (y : ExceptT SearchError (StateT OffsetIndexes Id) α) : Prop :=
  ∀ indexes s, files s = now →
    ((x.run.run indexes).run s).1 = (y.run.run indexes).run ∧
      files ((x.run.run indexes).run s).2 = now

namespace Mirrors

variable {α β : Type} {files : σ → Files} {now : Files}

theorem pure (a : α) : Mirrors files now (pure a) (pure a) := fun _ _ h => ⟨rfl, h⟩

theorem throw (e : SearchError) : Mirrors (α := α) files now (throw e) (throw e) :=
  fun _ _ h => ⟨rfl, h⟩

theorem get : Mirrors (α := OffsetIndexes) files now get get := fun _ _ h => ⟨rfl, h⟩

theorem modify (f : OffsetIndexes → OffsetIndexes) : Mirrors files now (modify f) (modify f) :=
  fun _ _ h => ⟨rfl, h⟩

theorem liftExcept (x : Except SearchError α) : Mirrors files now (liftM x) (liftM x) := by
  intro _ _ h
  cases x <;> exact ⟨rfl, h⟩

theorem bind {x : ExceptT SearchError (StateT OffsetIndexes (StateM σ)) α}
    {y : ExceptT SearchError (StateT OffsetIndexes Id) α}
    {f : α → ExceptT SearchError (StateT OffsetIndexes (StateM σ)) β}
    {g : α → ExceptT SearchError (StateT OffsetIndexes Id) β} (hx : Mirrors files now x y)
    (hf : ∀ a, Mirrors files now (f a) (g a)) : Mirrors files now (x >>= f) (y >>= g) := by
  intro indexes s hs
  have hfirst := hx indexes s hs
  simp only [ExceptT.run_bind, StateT.run_bind, Id.run_bind]
  revert hfirst
  rcases (x.run.run indexes).run s with ⟨⟨result, indexes'⟩, s'⟩
  rcases (y.run.run indexes).run with ⟨result', indexes''⟩
  rintro ⟨hresult, hs'⟩
  cases hresult
  cases result with
  | error e => exact ⟨rfl, hs'⟩
  | ok a => exact hf a indexes' s' hs'

end Mirrors

section

variable {host : Host (StateM σ)} {files : σ → Files} {now : Files}

theorem parametric_mirrors (h : host.Steady files) :
    Parametric (n := Id) host.readFile now (fun x y => Mirrors files now x y) where
  pure := .pure
  throw := .throw
  bind := .bind
  indexes := .get
  keep := .modify
  check := .liftExcept
  read path := by
    rintro indexes s rfl
    refine ⟨?_, h.snd_readFile path s⟩
    rw [← h.fst_readFile path s]
    rfl

theorem mirrors_text (h : host.Steady files) (store : DocumentStore) (id : UInt32) :
    Mirrors files now (store.text host.readFile id) (store.text (m := Id) now id) :=
  (parametric_mirrors h).text store id

end

end DocumentStore

end BooleanSearch
