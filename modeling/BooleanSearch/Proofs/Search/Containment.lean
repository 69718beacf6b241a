import BooleanSearch.Proofs.Documents.Steadiness
import BooleanSearch.Proofs.Search.Equivalence
import BooleanSearch.Proofs.Snippet.Words
import BooleanSearch.Proofs.Vocabulary.Meaning

/-!
This module contains the theorem that failures stay where they belong. A query that is not understood
never reaches the backend, what the backend refuses is reported as it is, and a document that cannot be
read is shown without a snippet among all the others. A corpus file is read as a whole, so that it is the
documents in one file that share a failure.
-/

namespace BooleanSearch

variable {σ α β : Type}

namespace SearchM

@[simp]
theorem runOn_lift (x : StateT SearchState (StateM σ) α) (state : SearchState) (s : σ) :
    runOn (ExceptT.lift x) state s =
      (.ok ((x.run state).run s).1.1, ((x.run state).run s).1.2, ((x.run state).run s).2) := rfl

theorem runOn_liftClient (x : ClientM (StateM σ) α) (state : SearchState) (s : σ) :
    runOn (liftClient x) state s =
      let (result, client, s) := runOn x state.toClientState s
      (result, { state with toClientState := client }, s) := rfl

theorem runOn_liftStore (x : ExceptT SearchError (StateT OffsetIndexes (StateM σ)) α)
    (state : SearchState) (s : σ) :
    runOn (liftStore x) state s =
      let ((result, indexes), s) := (x.run.run state.indexes).run s
      (result, { state with indexes }, s) := rfl

end SearchM

namespace Vocabulary

variable {config : QueryConfig} {query : Text} {compiled : CompiledQuery}
variable {vocabulary : Vocabulary} {normalize : Normalizer}

theorem resolve_of_unknown {word : Text}
    (hcompile : compile config query = .ok compiled)
    (hunknown : (compiled.expr.leaves.flatMap Token.words).find? (vocabulary.unknown normalize) =
      some word) :
    vocabulary.resolve normalize compiled.expr = .error (.unknownTerm (normalize word)) := by
  obtain ⟨_, tree, -, -, hlisting⟩ := exists_derivation_of_compile hcompile
  rw [hlisting, tree.leaves_listing] at hunknown
  rw [hlisting]
  exact resolve_listing_of_unknown hunknown

theorem exists_resolve_of_known
    (hcompile : compile config query = .ok compiled)
    (hknown : (compiled.expr.leaves.flatMap Token.words).find? (vocabulary.unknown normalize) =
      none) :
    ∃ expr, vocabulary.resolve normalize compiled.expr = .ok expr := by
  obtain ⟨_, tree, -, -, hlisting⟩ := exists_derivation_of_compile hcompile
  rw [hlisting, tree.leaves_listing] at hknown
  obtain ⟨id, hid⟩ := exists_id_of_known hknown
  rw [hlisting]
  exact ⟨_, resolve_listing_of_known hid⟩

end Vocabulary

namespace SearchService

def shown (service : SearchService) (terms : List Text) (docId : UInt32) (found : Option Text) :
    SearchHit :=
  match service.store.get? docId, found with
  | none, _ => { docId, title := '#' :: Text.decimal docId.toNat, link := none, snippet := [] }
  | some record, none =>
    { docId, title := record.title, link := record.link, snippet := [] }
  | some record, some text =>
    { docId, title := record.title, link := record.link
      snippet := (Snippet.ofText service.config.snippet terms service.normalize text).text }

section

variable (service : SearchService) (host : Host (StateM σ)) (terms : List Text)

theorem runOn_snippet (id : UInt32) (state : SearchState) (s : σ) :
    ∃ found metrics indexes s',
      runOn (service.snippet host terms id) state s =
        (found.map (Snippet.ofText service.config.snippet terms service.normalize),
          { state with metrics, indexes }, s') ∧
      ∀ files, host.Steady files → files s' = files s ∧
        (found, indexes) = service.store.lookup (files s) state.indexes id := by
  unfold snippet
  simp only [runOn_bind, runOn_liftState, SearchM.runOn_liftStore]
  have hmirrors (files : σ → Files) (h : host.Steady files) :=
    DocumentStore.mirrors_text h service.store id state.indexes (host.clock.run s).2 (h.snd_clock s)
  revert hmirrors
  rcases ((service.store.text host.readFile id).run.run state.indexes).run (host.clock.run s).2 with
    ⟨⟨found, indexes⟩, s'⟩
  intro hmirrors
  cases found with
  | error e =>
    exact ⟨.error e, _, indexes, _, rfl, fun files h => ⟨(hmirrors files h).2, (hmirrors files h).1⟩⟩
  | ok text =>
    exact ⟨.ok text, _, indexes, _, rfl, fun files h =>
      ⟨(h.snd_clock s').trans (hmirrors files h).2, (hmirrors files h).1⟩⟩

theorem run_hit_of_record {id : UInt32} {record : DocumentRecord}
    (hrecord : service.store.get? id = some record) (state : SearchState) (s : σ) :
    ((service.hit host terms id).run state).run s =
      let (result, state, s) := runOn (service.snippet host terms id) state s
      let snippet := match result with
        | .ok snippet => snippet.text
        | .error _ => []
      (({ docId := id, title := record.title, link := record.link, snippet }, state), s) := by
  unfold hit
  rw [hrecord]
  rfl

theorem run_hit (id : UInt32) (state : SearchState) (s : σ) :
    ∃ found metrics indexes s',
      ((service.hit host terms id).run state).run s =
        ((service.shown terms id found.toOption, { state with metrics, indexes }), s') ∧
      ∀ files, host.Steady files → files s' = files s ∧
        (found, indexes) = service.store.lookup (files s) state.indexes id := by
  cases hrecord : service.store.get? id with
  | none =>
    unfold hit shown
    rw [hrecord]
    exact ⟨_, _, _, _, rfl, fun files _ => ⟨rfl, (DocumentStore.lookup_of_unknown hrecord).symm⟩⟩
  | some record =>
    obtain ⟨found, metrics, indexes, s', hrun, hsteady⟩ :=
      runOn_snippet service host terms id state s
    refine ⟨found, metrics, indexes, s', ?_, hsteady⟩
    rw [run_hit_of_record service host terms hrecord, hrun]
    unfold shown
    rw [hrecord]
    cases found <;> rfl

theorem runOn_mapM_hit (ids : List UInt32) (state : SearchState) (s : σ) :
    ∃ found metrics indexes s',
      runOn (ids.mapM fun id => ExceptT.lift (service.hit host terms id)) state s =
        (.ok (List.zipWith (service.shown terms) ids found),
          { state with metrics, indexes }, s') ∧
      found.length = ids.length ∧
      ∀ files, host.Steady files → files s' = files s ∧
        found =
          ids.map (fun id => (service.store.lookup (files s) state.indexes id).1.toOption) ∧
        indexes =
          ids.foldl (fun indexes id => (service.store.lookup (files s) indexes id).2)
            state.indexes := by
  induction ids generalizing state s with
  | nil => exact ⟨[], _, _, _, rfl, rfl, fun _ _ => ⟨rfl, rfl, rfl⟩⟩
  | cons id ids ih =>
    obtain ⟨first, metrics, indexes, s', hfirst, hsteady⟩ :=
      run_hit service host terms id state s
    obtain ⟨found, metrics', indexes', s'', hrest, hlength, hsteady'⟩ :=
      ih { state with metrics, indexes } s'
    refine ⟨first.toOption :: found, metrics', indexes', s'', ?_, congrArg (· + 1) hlength,
      fun files h => ?_⟩
    · rw [List.mapM_cons, runOn_bind, SearchM.runOn_lift, hfirst]
      dsimp only
      rw [runOn_bind, hrest]
      rfl
    · obtain ⟨hfiles, hlookup⟩ := hsteady files h
      obtain ⟨hfiles', hfound, hindexes'⟩ := hsteady' files h
      have hfirst : first = (service.store.lookup (files s) state.indexes id).1 :=
        congrArg Prod.fst hlookup
      have hindexes : indexes = (service.store.lookup (files s) state.indexes id).2 :=
        congrArg Prod.snd hlookup
      rw [hfiles, hindexes] at hfound hindexes'
      -- The other documents are looked up with one more index, which makes no difference.
      simp only [DocumentStore.toOption_lookup_snd_lookup (h.consistent s)] at hfound
      exact ⟨hfiles'.trans hfiles, by rw [hfirst, hfound, List.map_cons], hindexes'⟩

theorem run_search (query : Text) (page : Nat) (state : SearchState) (s : σ) :
    ∃ metrics, ((service.search host query page).run state).run s =
      let (result, state, s) :=
        runOn (service.find host query page) state (host.clock.run s).2
      ((result, { state with metrics }), (host.clock.run s).2) :=
  ⟨_, rfl⟩

end

variable {service : SearchService} {host : Host (StateM σ)} {terms : List Text}

section

variable {m : Type → Type} [Monad m] [LawfulMonad m] {other : Host m} {query : Text} {page : Nat}

theorem bind_liftExcept_eq_throw {x : Except SearchError α} {e : SearchError} (h : x = .error e)
    (f : α → SearchM m β) : ((liftM x : SearchM m α) >>= f) = throw e := by
  rw [h]
  exact pure_bind (m := StateT SearchState m) (Except.error e) (ExceptT.bindCont f)

theorem find_of_compile_eq_error {e : SearchError}
    (h : compile service.config.query query = .error e) :
    service.find other query page = throw e := by
  unfold find
  rw [bind_liftExcept_eq_throw h]

theorem find_of_resolve_eq_error {compiled : CompiledQuery} {e : SearchError}
    (hcompile : compile service.config.query query = .ok compiled)
    (hresolve : service.vocabulary.resolve service.normalize compiled.expr = .error e) :
    service.find other query page = throw e := by
  obtain ⟨clear, hclear⟩ := exists_clearText service.normalize hcompile
  unfold find
  rw [bind_liftExcept hcompile, bind_liftExcept hclear, bind_liftExcept_eq_throw hresolve]

end

/--
A search is given up before anything is sent. The session, the indexes and the other end of the link
are left as they were.
-/
structure Refuses (service : SearchService) (host : Host (StateM σ)) (query : Text) (page : Nat)
    (state : SearchState) (s : σ) (e : SearchError) : Prop where
  run : ∃ metrics, ((service.search host query page).run state).run s =
    ((.error e, { state with metrics }), (host.clock.run (host.clock.run s).2).2)
  requests : ((service.visit host query page state).run s).1.requests = []

theorem refuses_of_find {query : Text} {page : Nat} {e : SearchError}
    (h : ∀ {m : Type → Type} [Monad m] [LawfulMonad m] (other : Host m),
      service.find other query page = throw e) (state : SearchState) (s : σ) :
    service.Refuses host query page state s e where
  run := by
    obtain ⟨metrics, hrun⟩ := run_search service host query page state s
    rw [h] at hrun
    exact ⟨metrics, hrun⟩
  requests := by
    unfold visit search
    rw [h]
    rfl

theorem docId_shown (id : UInt32) (found : Option Text) :
    (service.shown terms id found).docId = id := by
  unfold shown
  split <;> rfl

theorem map_docId_zipWith_shown {ids : List UInt32} {found : List (Option Text)}
    (h : found.length = ids.length) :
    (List.zipWith (service.shown terms) ids found).map SearchHit.docId = ids := by
  induction ids generalizing found with
  | nil => rfl
  | cons id ids ih =>
    cases found with
    | nil => cases h
    | cons first found =>
      rw [List.zipWith_cons_cons, List.map_cons, docId_shown, ih (Nat.succ.inj h)]

/--
The documents with the given IDs are shown, and indexes are kept while they are looked up.
-/
structure Illustrates (service : SearchService) (host : Host (StateM σ)) (terms : List Text)
    (ids : List UInt32) (hits : List SearchHit) (before : OffsetIndexes × σ)
    (after : OffsetIndexes × σ) : Prop where
  /-- There is one hit for each ID, in the same order. -/
  docIds : hits.map SearchHit.docId = ids
  /-- A hit depends on its own ID and on what is found for it. -/
  looked : ∃ found, hits = List.zipWith (service.shown terms) ids found
  /-- As long as files stay as they are, what is found for a document depends on its own corpus file,
  whatever is in the others. -/
  own : ∀ files, host.Steady files → ∀ others : UInt32 → Files,
    (∀ id record, service.store.get? id = some record →
      others id record.path = files before.2 record.path) →
    hits = ids.map fun id =>
      service.shown terms id (service.store.lookup (others id) before.1 id).1.toOption
  /-- In the course of a history, what is found is as metadata and files say. -/
  answers : ∀ files searched, host.Steady files →
    service.store.Reaches (files before.2) searched before.1 →
    (∃ found : UInt32 → Except SearchError Text,
      (∀ id, service.store.Answers (files before.2) id (found id)) ∧
      hits = ids.map fun id => service.shown terms id (found id).toOption) ∧
    ∃ searched, service.store.Reaches (files after.2) searched after.1
  /-- No number is too large for a machine word while a snippet is made. -/
  words : ∀ text, service.config.snippet.Fits text →
    Snippet.wordOfText? service.config.snippet terms service.normalize text =
      some (Snippet.ofText service.config.snippet terms service.normalize text)

theorem exists_illustrates (service : SearchService) (host : Host (StateM σ)) (terms : List Text)
    (ids : List UInt32) (state : SearchState) (s : σ) :
    ∃ hits metrics indexes s',
      runOn (ids.mapM fun id => ExceptT.lift (service.hit host terms id)) state s =
        (.ok hits, { state with metrics, indexes }, s') ∧
      service.Illustrates host terms ids hits (state.indexes, s) (indexes, s') := by
  obtain ⟨found, metrics, indexes, s', hrun, hlength, hsteady⟩ :=
    runOn_mapM_hit service host terms ids state s
  have halone (files : σ → Files) (h : host.Steady files) :
      List.zipWith (service.shown terms) ids found = ids.map fun id =>
        service.shown terms id
          (service.store.lookup (files s) state.indexes id).1.toOption := by
    rw [(hsteady files h).2.1, List.zipWith_map_right, List.zipWith_self]
  refine ⟨_, metrics, indexes, s', hrun, map_docId_zipWith_shown hlength, ⟨found, rfl⟩, ?_, ?_,
    fun text hfits => Snippet.wordOfText?_eq hfits terms service.normalize⟩
  · intro files h others hothers
    rw [halone files h]
    refine List.map_congr_left fun id _ => ?_
    rw [DocumentStore.fst_lookup_congr fun record hrecord => ⟨hothers id record hrecord, rfl⟩]
  · intro files searched h hreaches
    obtain ⟨hfiles, -, hindexes⟩ := hsteady files h
    refine ⟨⟨fun id => (service.store.lookup (files s) ∅ id).1,
      DocumentStore.answers_lookup_empty service.store (files s), ?_⟩, ?_⟩
    · rw [halone files h]
      simp only [DocumentStore.toOption_lookup_of_faithful hreaches.faithful]
    · rw [hindexes, hfiles]
      exact DocumentStore.exists_reaches_foldl hreaches ids

/--
Failures stay where they belong, in any state of the service and whatever the host does. A query that
cannot be compiled or has an unknown word is refused. Otherwise a search fails exactly if the page
cannot be fetched, and with the same error. If it can, then all documents on it are shown.
-/
theorem search_contains_failures (service : SearchService) (host : Host (StateM σ)) (query : Text)
    (page : Nat) (state : SearchState) (s : σ) :
    (∀ e, compile service.config.query query = .error e →
      service.Refuses host query page state s e) ∧
    ∀ compiled, compile service.config.query query = .ok compiled →
      let words := compiled.expr.leaves.flatMap Token.words
      let unknown := service.vocabulary.unknown service.normalize
      let terms := queryTerms service.normalize compiled
      (∀ word, words.find? unknown = some word →
        service.Refuses host query page state s (.unknownTerm (service.normalize word))) ∧
      (words.find? unknown = none →
        ∃ clear expr, clearText service.normalize compiled = .ok clear ∧
          service.vocabulary.resolve service.normalize compiled.expr = .ok expr ∧
          let run := ((service.search host query page).run state).run s
          let (fetched, client, s') :=
            runOn (ClientM.fetchPage host.toLink service.config.client expr page)
              state.toClientState (host.clock.run s).2
          match fetched with
          | .error e =>
            ∃ metrics, run =
              ((.error e, { state with session := client.session, metrics }), (host.clock.run s').2)
          | .ok ids =>
            ∃ hits metrics indexes s'',
              run = ((.ok { query := clear, page, hits, pages := pageWindow page navigationPages },
                { session := client.session, metrics, indexes }), (host.clock.run s'').2) ∧
              service.Illustrates host terms ids hits (state.indexes, s') (indexes, s'')) := by
  refine ⟨fun e h => refuses_of_find (fun _ => find_of_compile_eq_error h) state s, ?_⟩
  intro compiled hcompile words unknown terms
  refine ⟨fun word hword => ?_, fun hknown => ?_⟩
  · exact refuses_of_find
      (fun _ => find_of_resolve_eq_error hcompile (Vocabulary.resolve_of_unknown hcompile hword)) state s
  · -- The query can be shown, since its text was read in the same way when it was compiled.
    obtain ⟨clear, hclear⟩ := exists_clearText service.normalize hcompile
    obtain ⟨expr, hresolve⟩ := Vocabulary.exists_resolve_of_known hcompile hknown
    refine ⟨clear, expr, hclear, hresolve, ?_⟩
    obtain ⟨metrics, hrun⟩ := run_search service host query page state s
    rw [find_eq_map_hits service host page hcompile hclear hresolve, hits, runOn_map,
      runOn_bind, SearchM.runOn_liftClient] at hrun
    dsimp only
    rw [hrun]
    rcases runOn (ClientM.fetchPage host.toLink service.config.client expr page)
      state.toClientState (host.clock.run s).2 with ⟨fetched, client, s'⟩
    cases fetched with
    | error e => exact ⟨metrics, rfl⟩
    | ok ids =>
      dsimp only
      obtain ⟨hits, metrics', indexes, s'', hhits, hillustrates⟩ :=
        exists_illustrates service host terms ids
          { state with toClientState := client } s'
      rw [hhits]
      exact ⟨hits, metrics, indexes, s'', rfl, hillustrates⟩

end SearchService

namespace DamagedCorpus

/--
The second of three documents has no quotes in its tag.
-/
def corpus : Text :=
  "<doc id=\"a\">Rust and rust.</doc><doc id=b>Rust and Cargo.</doc><doc id=\"c\">Rust, again.</doc>".toList

/--
A document with a byte behind its text that no UTF-8 text has, and one in front of which there is none.
-/
def unreadable : Bytes :=
  Utf8.encode "<doc id=\"d\">Rust, once.".toList ++ 0xFF ::
    Utf8.encode "</doc><doc id=\"e\">Rust news.</doc>".toList

def service : SearchService where
  config := {}
  normalize := Normalizer.default
  vocabulary := .ofTerms ["rust".toList, "cargo".toList]
  store := .ofRecords
    [{ key := "a".toList, title := "Rust".toList, link := none, path := "wiki".toList },
      { key := "b".toList, title := "Cargo".toList, link := none, path := "wiki".toList },
      { key := "c".toList, title := "More".toList, link := none, path := "wiki".toList },
      { key := "d".toList, title := "Old".toList, link := none, path := "news".toList },
      { key := "e".toList, title := "News".toList, link := none, path := "news".toList },
      { key := "f".toList, title := "Crates".toList, link := none, path := "lost".toList }]

def system : SimulatedSystem where
  directory := .ofFiles [("wiki".toList, Utf8.encode corpus), ("news".toList, unreadable)]
  backend := { results := (∅ : Table (List UInt32)).insert "0".toList [9, 1, 0, 3, 2, 5] }

def host : Host (StateM SimulatedSystem) where
  exchange bytes := SimulatedSystem.onBackend (SimulatedBackend.link.exchange bytes)
  pause _ := pure ()
  readFile name := return (← get).directory.read name
  clock := pure 0

def files (system : SimulatedSystem) : Files := system.directory.read

theorem steady : host.Steady files where
  consistent system := system.directory.consistent_read
  fst_readFile _ _ := rfl
  snd_readFile _ _ := rfl
  snd_clock _ := rfl

def rust : CompiledQuery where
  source := "Rust".toList
  expr := { tokens := [.term "Rust".toList], termCount := 1, checked := rfl }

def rustSerde : CompiledQuery where
  source := "rust serde".toList
  expr :=
    { tokens := [.term "rust".toList, .term "serde".toList, .and]
      termCount := 2
      checked := rfl }

def fetched : ClientState × SimulatedSystem :=
  (runOn (ClientM.fetchPage host.toLink service.config.client ⟨[.term 0]⟩ 0) {} system).2

theorem runOn_fetchPage_eq :
    runOn (ClientM.fetchPage host.toLink service.config.client ⟨[.term 0]⟩ 0)
      ({} : SearchState).toClientState (host.clock.run system).2 = (.ok [9, 1, 0, 3, 2, 5], fetched) := by
  refine Prod.ext (eq_ok_of_toOption ?_) rfl
  decide +kernel

def hits : List SearchHit :=
  [{ docId := 9, title := "#9".toList, link := none, snippet := [] },
    { docId := 1, title := "Cargo".toList, link := none, snippet := [] },
    { docId := 0, title := "Rust".toList, link := none, snippet := "Rust and rust.".toList },
    { docId := 3, title := "Old".toList, link := none, snippet := [] },
    { docId := 2, title := "More".toList, link := none, snippet := "Rust, again.".toList },
    { docId := 5, title := "Crates".toList, link := none, snippet := [] }]

theorem three_documents_lost :
    service.Refuses host "rust )".toList 0 {} system (.malformed .unmatchedClose) ∧
      service.Refuses host "rust serde".toList 0 {} system (.unknownTerm "serde".toList) ∧
      (((service.search host "Rust".toList 0).run {}).run system).1.1 =
        .ok { query := "rust".toList, page := 0, hits, pages := [0, 1, 2, 3, 4] } := by
  refine ⟨?_, ?_, ?_⟩
  · exact (SearchService.search_contains_failures service host "rust )".toList 0 {} system).1 _
      (by decide +kernel)
  · have hcompile : compile {} "rust serde".toList = .ok rustSerde := by
      decide +kernel
    have hrefuses := ((SearchService.search_contains_failures service host "rust serde".toList 0 {}
      system).2 _ hcompile).1 "serde".toList (by decide +kernel)
    have hserde : service.normalize "serde".toList = "serde".toList := by
      decide +kernel
    rwa [hserde] at hrefuses
  · have hcompile : compile {} "Rust".toList = .ok rust := by
      decide +kernel
    obtain ⟨clear, expr, hclear, hresolve, hrun⟩ :=
      ((SearchService.search_contains_failures service host "Rust".toList 0 {} system).2 _
        hcompile).2 (by decide +kernel)
    have hshown : SearchService.clearText service.normalize rust = .ok "rust".toList := by
      apply eq_ok_of_toOption
      decide +kernel
    have hresolved : service.vocabulary.resolve service.normalize rust.expr = .ok ⟨[.term 0]⟩ := by
      apply eq_ok_of_toOption
      decide +kernel
    rw [hshown, Except.ok.injEq] at hclear
    rw [hresolved, Except.ok.injEq] at hresolve
    subst hclear hresolve
    rw [runOn_fetchPage_eq] at hrun
    obtain ⟨found, metrics, indexes, s', hrun, hillustrates⟩ := hrun
    have hfound : found = hits := by
      rw [hillustrates.own files steady (fun _ => files fetched.2) fun _ _ _ => rfl]
      decide +kernel
    rw [hrun, hfound]
    rfl

theorem neighbour_has_no_snippet :
    let news := { system with
      backend := { results := (∅ : Table (List UInt32)).insert "0".toList [3, 4] } }
    let mended := { news with
      directory := .ofFiles [("news".toList,
        Utf8.encode "<doc id=\"d\">Rust, once.</doc><doc id=\"e\">Rust news.</doc>".toList)] }
    (((service.search host "Rust".toList 0).run {}).run mended).1.1.toOption.map SearchPage.hits =
        some [{ docId := 3, title := "Old".toList, link := none, snippet := "Rust, once.".toList },
          { docId := 4, title := "News".toList, link := none, snippet := "Rust news.".toList }] ∧
      (((service.search host "Rust".toList 0).run {}).run news).1.1.toOption.map SearchPage.hits =
        some [{ docId := 3, title := "Old".toList, link := none, snippet := [] },
          { docId := 4, title := "News".toList, link := none, snippet := [] }] := by
  decide +kernel

end DamagedCorpus

end BooleanSearch
