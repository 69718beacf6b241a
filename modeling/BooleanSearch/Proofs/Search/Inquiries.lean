import BooleanSearch.Proofs.Search.Containment
import BooleanSearch.Proofs.Search.Preservation

/-!
This module contains all that happens in one search, and what the search adds to the metrics of its
service. Whatever it comes to, each thing that happens is counted in its place, and once.
-/

namespace BooleanSearch

variable {σ α : Type}

def Record.onOther (action : StateM σ α) : StateM (Record σ) α := fun record =>
  let (result, other) := action.run record.other
  (result, { record with other })

def Host.recorded (host : Host (StateM σ)) : Host (StateM (Record σ)) where
  toLink := host.toLink.recorded
  readFile name := Record.onOther (host.readFile name)
  clock := Record.onOther host.clock

structure Inquiry where
  result : Except SearchError SearchPage
  /-- The exchanges that are made, with those that fail. -/
  made : List Exchange
  /-- What comes of the fetch, unless the search is given up before. -/
  fetched : Option (Except SearchError (List UInt32)) := none
  /-- What is made of the text of each document on the page, or why there is no text. -/
  snippets : List (Except SearchError Snippet) := []

namespace Inquiry

def failure? (inquiry : Inquiry) : Option Text :=
  match inquiry.result with
  | .ok _ => none
  | .error e => some e.kind

def isCached (inquiry : Inquiry) : Bool :=
  match inquiry.fetched with
  | some (.ok _) => inquiry.made.isEmpty
  | some (.error _) | none => false

end Inquiry

def Snippet.isHead : Except SearchError Snippet → Bool
  | .ok snippet => snippet.fallback
  | .error _ => false

namespace SearchService

def understand (service : SearchService) (query : Text) :
    Except SearchError (List Text × ResolvedExpr) := do
  let compiled ← compile service.config.query query
  let expr ← service.vocabulary.resolve service.normalize compiled.expr
  return (queryTerms service.normalize compiled, expr)

def illustrate (service : SearchService) (host : Host (StateM σ)) (terms : List Text) (id : UInt32)
    (state : SearchState) (s : σ) : Except SearchError Snippet :=
  (((service.store.text host.readFile id).run.run state.indexes).run (host.clock.run s).2).1.1.map
    (Snippet.ofText service.config.snippet terms service.normalize)

def illustrateAll (service : SearchService) (host : Host (StateM σ)) (terms : List Text) :
    List UInt32 → SearchState → σ → List (Except SearchError Snippet)
  | [], _, _ => []
  | id :: ids, state, s =>
    let ((_, state'), s') := ((service.hit host terms id).run state).run s
    service.illustrate host terms id state s :: service.illustrateAll host terms ids state' s'

def inquire (service : SearchService) (host : Host (StateM σ)) (query : Text) (page : Nat)
    (state : SearchState) (record : Record σ) : Inquiry :=
  let ((result, _), record') := ((service.search host.recorded query page).run state).run record
  let made := record'.exchanges.drop record.exchanges.length
  match service.understand query with
  | .error _ => { result, made }
  | .ok (terms, expr) =>
    let (fetched, client, record) :=
      runOn (ClientM.fetchPage host.recorded.toLink service.config.client expr page)
        state.toClientState (host.recorded.clock.run record).2
    match fetched with
    | .error e => { result, made, fetched := some (.error e) }
    | .ok ids =>
      { result, made, fetched := some (.ok ids)
        snippets := service.illustrateAll host.recorded terms ids
          { state with toClientState := client } record }

end SearchService

theorem Snippet.text_of_fallback {config : SnippetConfig} {terms : List Text}
    {normalize : Normalizer} {text : Text}
    (h : (ofText config terms normalize text).fallback = true) :
    (ofText config terms normalize text).text =
      head config (ScannedText.ofText terms normalize text).tokens := by
  unfold ofText at h ⊢
  dsimp only at h ⊢
  split at h
  · cases h
  · rfl

theorem Snippet.countP_isHead (snippet : Snippet) :
    [Except.ok snippet].countP isHead = snippet.fallback.toNat := by
  obtain ⟨text, fallback⟩ := snippet
  cases fallback <;> rfl

def Snippet.shown : Except SearchError Snippet → Text
  | .ok snippet => snippet.text
  | .error _ => []

namespace Metrics

structure Illustrated (before : Metrics) (snippets : List (Except SearchError Snippet))
    (after : Metrics) : Prop where
  others : after = { before with
    snippetLatency := after.snippetLatency
    snippetFallbacks := after.snippetFallbacks }
  latency : after.snippetLatency.count =
    before.snippetLatency.count + snippets.countP Except.isOk
  fallbacks : after.snippetFallbacks = before.snippetFallbacks + snippets.countP Snippet.isHead

theorem Illustrated.refl (metrics : Metrics) : metrics.Illustrated [] metrics := ⟨rfl, rfl, rfl⟩

theorem Illustrated.trans {before between after : Metrics}
    {snippets snippets' : List (Except SearchError Snippet)}
    (h : before.Illustrated snippets between) (h' : between.Illustrated snippets' after) :
    before.Illustrated (snippets ++ snippets') after where
  others := by
    rw [h'.others, h.others]
  latency := by
    rw [h'.latency, h.latency, List.countP_append, Nat.add_assoc]
  fallbacks := by
    rw [h'.fallbacks, h.fallbacks, List.countP_append, Nat.add_assoc]

def recordOutcome (metrics : Metrics) (result : Except SearchError SearchPage) (seconds : Float)
    (count : Nat) : Metrics :=
  let metrics :=
    match result with
    | .ok _ => metrics.recordSearch seconds
    | .error e => metrics.recordError e.kind
  metrics.setRegisteredQueries count

theorem registeredQueries_recordOutcome (metrics : Metrics) (result : Except SearchError SearchPage)
    (seconds : Float) (count : Nat) :
    (metrics.recordOutcome result seconds count).registeredQueries =
      Int.bmod count UInt64.size := by
  simp only [recordOutcome, setRegisteredQueries]

theorem queries_recordOutcome (metrics : Metrics) (result : Except SearchError SearchPage)
    (seconds : Float) (count : Nat) :
    (metrics.recordOutcome result seconds count).queries = metrics.queries + 1 := by
  cases result <;> rfl

theorem recordOutcome_others (metrics : Metrics) (result : Except SearchError SearchPage)
    (seconds : Float) (count : Nat) :
    let after := metrics.recordOutcome result seconds count
    after.backendRequests = metrics.backendRequests ∧ after.cacheHits = metrics.cacheHits ∧
      after.snippetLatency = metrics.snippetLatency ∧
      after.snippetFallbacks = metrics.snippetFallbacks := by
  cases result <;> exact ⟨rfl, rfl, rfl, rfl⟩

theorem countExchanges_eq (metrics : Metrics) (made : List Exchange) :
    metrics.countExchanges made =
      { metrics with
        backendRequests := (made.map Exchange.kind).foldl Table.increment metrics.backendRequests } := by
  induction made generalizing metrics with
  | nil => rfl
  | cons exchange made ih => exact ih (metrics.countRequest exchange.kind)

end Metrics

namespace SearchService

section

variable (service : SearchService) (host : Host (StateM σ)) (terms : List Text)

theorem run_hit_illustrated (id : UInt32) (state : SearchState) (s : σ) :
    ∃ hit metrics indexes s',
      ((service.hit host terms id).run state).run s =
        ((hit, { state with metrics, indexes }), s') ∧
      state.metrics.Illustrated [service.illustrate host terms id state s] metrics ∧
      hit.docId = id ∧ hit.snippet = Snippet.shown (service.illustrate host terms id state s) := by
  unfold illustrate
  cases hrecord : service.store.get? id with
  | none =>
    have htext : service.store.text host.readFile id = throw (.documentNotFound id) := by
      unfold DocumentStore.text
      rw [hrecord]
    unfold hit
    rw [hrecord, htext]
    exact ⟨_, _, _, _, rfl, ⟨rfl, rfl, rfl⟩, rfl, rfl⟩
  | some record =>
    rw [run_hit_of_record service host terms hrecord]
    unfold snippet
    simp only [runOn_bind, runOn_liftState, SearchM.runOn_liftStore]
    rcases ((service.store.text host.readFile id).run.run state.indexes).run (host.clock.run s).2 with
      ⟨⟨found, indexes⟩, s'⟩
    cases found with
    | error e => exact ⟨_, _, _, _, rfl, ⟨rfl, rfl, rfl⟩, rfl, rfl⟩
    | ok text =>
      refine ⟨_, _, _, _, rfl, ⟨rfl, rfl, ?_⟩, rfl, rfl⟩
      exact congrArg (state.metrics.snippetFallbacks + ·) (Snippet.countP_isHead _).symm

theorem runOn_mapM_hit_illustrated (ids : List UInt32) (state : SearchState) (s : σ) :
    ∃ hits metrics indexes s',
      runOn (ids.mapM fun id => ExceptT.lift (service.hit host terms id)) state s =
        (.ok hits, { state with metrics, indexes }, s') ∧
      state.metrics.Illustrated (service.illustrateAll host terms ids state s) metrics ∧
      hits.map SearchHit.docId = ids ∧
      hits.map SearchHit.snippet =
        (service.illustrateAll host terms ids state s).map Snippet.shown := by
  induction ids generalizing state s with
  | nil => exact ⟨[], _, _, _, rfl, .refl _, rfl, rfl⟩
  | cons id ids ih =>
    obtain ⟨first, metrics, indexes, s', hfirst, hillustrated, hid, hsnippet⟩ :=
      run_hit_illustrated service host terms id state s
    obtain ⟨hits, metrics', indexes', s'', hrest, hillustrated', hids, hsnippets⟩ :=
      ih { state with metrics, indexes } s'
    unfold illustrateAll
    rw [hfirst]
    refine ⟨first :: hits, metrics', indexes', s'', ?_, hillustrated.trans hillustrated', ?_, ?_⟩
    · rw [List.mapM_cons, runOn_bind, SearchM.runOn_lift, hfirst]
      dsimp only
      rw [runOn_bind, hrest]
      rfl
    · rw [List.map_cons, hid, hids]
    · rw [List.map_cons, List.map_cons, hsnippet, hsnippets]

theorem run_search_eq (query : Text) (page : Nat) (state : SearchState) (s : σ) :
    ((service.search host query page).run state).run s =
      let (result, state, s') :=
        runOn (service.find host query page) state (host.clock.run s).2
      let seconds := (host.clock.run s').1 - (host.clock.run s).1
      ((result,
        { state with
          metrics := state.metrics.recordOutcome result seconds state.session.queryCount }),
        (host.clock.run s').2) :=
  rfl

end

end SearchService

/--
A search counts as one query, and either its time or its failure is kept; each exchange, a page that
was cached and each snippet are counted besides.
-/
structure Metrics.Counts (before : Metrics) (inquiry : Inquiry) (after : Metrics) : Prop where
  queries : after.queries = before.queries + 1
  answered : after.searchLatency.count =
    before.searchLatency.count + [inquiry].countP (·.result.isOk)
  errors : after.errors =
    ([inquiry].filterMap Inquiry.failure?).foldl Table.increment before.errors
  requests : after.backendRequests =
    (inquiry.made.map Exchange.kind).foldl Table.increment before.backendRequests
  cacheHits : after.cacheHits = before.cacheHits + [inquiry].countP Inquiry.isCached
  latency : after.snippetLatency.count =
    before.snippetLatency.count + inquiry.snippets.countP Except.isOk
  fallbacks : after.snippetFallbacks =
    before.snippetFallbacks + inquiry.snippets.countP Snippet.isHead

/--
The parts of an inquiry fit together: a page is found if and only if it can be fetched, the hits on it
are the documents that were fetched, and they show the snippets that were made of their texts.
-/
structure Inquiry.Coherent (inquiry : Inquiry) (service : SearchService) : Prop where
  found : ∀ page, inquiry.result = .ok page →
    inquiry.fetched = some (.ok (page.hits.map SearchHit.docId)) ∧
      page.hits.map SearchHit.snippet = inquiry.snippets.map Snippet.shown
  fetched : ∀ ids, inquiry.fetched = some (.ok ids) → ∃ page, inquiry.result = .ok page
  failed : ∀ e, inquiry.fetched = some (.error e) → inquiry.result = .error e
  refused : inquiry.fetched = none → inquiry.made = [] ∧ ∃ e, inquiry.result = .error e
  illustrated : ∀ snippet, .ok snippet ∈ inquiry.snippets → ∃ terms text,
    snippet = Snippet.ofText service.config.snippet terms service.normalize text ∧
      (snippet.fallback = true → snippet.text =
        Snippet.head service.config.snippet (ScannedText.ofText terms service.normalize text).tokens)

theorem Inquiry.isSome_failure? (inquiry : Inquiry) :
    inquiry.failure?.isSome = !inquiry.result.isOk := by
  unfold failure?
  cases inquiry.result <;> rfl

theorem Inquiry.made_eq_nil_of_isCached {inquiry : Inquiry} (h : inquiry.isCached = true) :
    inquiry.made = [] := by
  unfold isCached at h
  split at h
  · exact List.isEmpty_iff.mp h
  · cases h
  · cases h

theorem Inquiry.coherent_of_refused (e : SearchError) (service : SearchService) :
    Coherent { result := .error e, made := [] } service where
  found _ h := by cases h
  fetched _ h := by cases h
  failed _ h := by cases h
  refused _ := ⟨rfl, e, rfl⟩
  illustrated _ h := absurd h List.not_mem_nil

theorem Inquiry.coherent_of_failed (e : SearchError) (made : List Exchange)
    (service : SearchService) :
    Coherent { result := .error e, made, fetched := some (.error e) } service where
  found _ h := by cases h
  fetched _ h := by cases h
  failed _ h := by
    cases h
    rfl
  refused h := by cases h
  illustrated _ h := absurd h List.not_mem_nil

theorem Inquiry.recordOutcome_result (inquiry : Inquiry) (metrics : Metrics) (seconds : Float)
    (count : Nat) :
    let after := metrics.recordOutcome inquiry.result seconds count
    after.searchLatency.count =
        metrics.searchLatency.count + [inquiry].countP (·.result.isOk) ∧
      after.errors = ([inquiry].filterMap Inquiry.failure?).foldl Table.increment metrics.errors := by
  obtain ⟨result, made, fetched, snippets⟩ := inquiry
  cases result <;> exact ⟨rfl, rfl⟩

theorem Metrics.Counts.of_stages {before fetched shown : Metrics} {inquiry : Inquiry}
    (hfetched : fetched =
      if inquiry.isCached then before.countCacheHit else before.countExchanges inquiry.made)
    (hshown : fetched.Illustrated inquiry.snippets shown) (seconds : Float) (count : Nat) :
    before.Counts inquiry (shown.recordOutcome inquiry.result seconds count) := by
  have hparts : fetched = { before with
      backendRequests :=
        (inquiry.made.map Exchange.kind).foldl Table.increment before.backendRequests
      cacheHits := before.cacheHits + [inquiry].countP Inquiry.isCached } := by
    rw [hfetched, List.countP_singleton]
    by_cases hcached : inquiry.isCached = true
    · rw [if_pos hcached, if_pos hcached, Inquiry.made_eq_nil_of_isCached hcached]
      rfl
    · rw [if_neg hcached, if_neg hcached, Metrics.countExchanges_eq]
      rfl
  have hothers := hshown.others
  rw [hparts] at hothers hshown
  obtain ⟨hrequests, hcacheHits, hlatency, hfallbacks⟩ :=
    shown.recordOutcome_others inquiry.result seconds count
  obtain ⟨hanswered, herrors⟩ := inquiry.recordOutcome_result shown seconds count
  constructor
  · rw [Metrics.queries_recordOutcome, hothers]
  · rw [hanswered, hothers]
  · rw [herrors, hothers]
  · rw [hrequests, hothers]
  · rw [hcacheHits, hothers]
  · rw [hlatency]
    exact hshown.latency
  · rw [hfallbacks]
    exact hshown.fallbacks

namespace SearchService

variable {service : SearchService} {host : Host (StateM σ)} {query : Text} {page : Nat}

/--
What a search leaves behind, told by all that happens in it.
-/
structure Accounts (service : SearchService) (host : Host (StateM σ)) (query : Text) (page : Nat)
    (state : SearchState) (record : Record σ) : Prop where
  exchanges : (((service.search host.recorded query page).run state).run record).2.exchanges =
    record.exchanges ++ (service.inquire host query page state record).made
  owned : (((service.search host.recorded query page).run state).run record).1.2.session.Owned
  counts : state.metrics.Counts (service.inquire host query page state record)
    (((service.search host.recorded query page).run state).run record).1.2.metrics
  registered :
    let state := (((service.search host.recorded query page).run state).run record).1.2
    state.metrics.registeredQueries = Int.bmod state.session.queryCount UInt64.size
  coherent : (service.inquire host query page state record).Coherent service

theorem Accounts.of_run (inquiry : Inquiry) {state : SearchState} {record record' : Record σ}
    {session : Session} {indexes : OffsetIndexes} {fetched shown : Metrics} {seconds : Float}
    (hrun : ((service.search host.recorded query page).run state).run record =
      ((inquiry.result, {
        session, indexes
        metrics := shown.recordOutcome inquiry.result seconds session.queryCount }), record'))
    (hinquire : service.inquire host query page state record = inquiry)
    (hexchanges : record'.exchanges = record.exchanges ++ inquiry.made) (howned : session.Owned)
    (hfetched : fetched =
      if inquiry.isCached then
        state.metrics.countCacheHit
      else
        state.metrics.countExchanges inquiry.made)
    (hshown : fetched.Illustrated inquiry.snippets shown) (hcoherent : inquiry.Coherent service) :
    service.Accounts host query page state record where
  exchanges := by
    rw [hrun, hinquire]
    exact hexchanges
  owned := by
    rw [hrun]
    exact howned
  counts := by
    rw [hrun, hinquire]
    exact .of_stages hfetched hshown seconds _
  registered := by
    rw [hrun]
    exact shown.registeredQueries_recordOutcome inquiry.result seconds session.queryCount
  coherent := by
    rw [hinquire]
    exact hcoherent

theorem accounts_of_refused {e e' : SearchError} (hunderstand : service.understand query = .error e)
    (hfind : service.find host.recorded query page = throw e') {state : SearchState}
    (howned : state.session.Owned) (record : Record σ) :
    service.Accounts host query page state record := by
  have hrun := run_search_eq service host.recorded query page state record
  rw [hfind] at hrun
  refine Accounts.of_run { result := .error e', made := [] } hrun ?_ ?_ howned rfl
    (.refl _) (Inquiry.coherent_of_refused e' service)
  · unfold inquire
    rw [hunderstand, hrun]
    exact congrArg (Inquiry.mk _ · none []) List.drop_length
  · exact (List.append_nil _).symm

theorem exists_ofText_of_mem_illustrateAll {terms : List Text} {ids : List UInt32}
    {state : SearchState} {s : σ} {snippet : Snippet}
    (hmem : .ok snippet ∈ service.illustrateAll host terms ids state s) :
    ∃ text, snippet = Snippet.ofText service.config.snippet terms service.normalize text := by
  induction ids generalizing state s with
  | nil => cases hmem
  | cons id ids ih =>
    unfold illustrateAll at hmem
    rcases List.mem_cons.mp hmem with hfirst | hmem
    · unfold illustrate at hfirst
      revert hfirst
      cases (((service.store.text host.readFile id).run.run state.indexes).run
        (host.clock.run s).2).1.1 with
      | error e => exact nofun
      | ok text =>
        rintro ⟨⟩
        exact ⟨text, rfl⟩
    · exact ih hmem

theorem exchanges_mapM_hit (service : SearchService) (host : Host (StateM σ)) (terms : List Text)
    (ids : List UInt32) (state : SearchState) (record : Record σ) :
    (runOn (ids.mapM fun id => ExceptT.lift (service.hit host.recorded terms id)) state
      record).2.2.exchanges = record.exchanges := by
  have hread (name : Text) (other : Record σ) (h : other.exchanges = record.exchanges) :
      ((host.recorded.readFile name).run other).2.exchanges = record.exchanges := h
  have hclock (other : Record σ) (h : other.exchanges = record.exchanges) :
      (host.recorded.clock.run other).2.exchanges = record.exchanges := h
  exact keeps_mapM_hit service hread hclock terms ids state record rfl

theorem inquire_of_fetch {terms : List Text} {expr : ResolvedExpr} {state state' : SearchState}
    {record fetching last : Record σ} {result : Except SearchError SearchPage}
    {fetched : Except SearchError (List UInt32)} {client : ClientState} {made : List Exchange}
    (hunderstand : service.understand query = .ok (terms, expr))
    (hrun : ((service.search host.recorded query page).run state).run record =
      ((result, state'), last))
    (hfetch : runOn (ClientM.fetchPage host.toLink.recorded service.config.client expr page)
      state.toClientState (host.recorded.clock.run record).2 = (fetched, client, fetching))
    (hmade : last.exchanges = record.exchanges ++ made) :
    service.inquire host query page state record =
      { result, made, fetched := some fetched
        snippets := fetched.toOption.elim [] fun ids =>
          service.illustrateAll host.recorded terms ids { state with toClientState := client }
            fetching } := by
  have hlink : host.recorded.toLink = host.toLink.recorded := rfl
  have hdrop : last.exchanges.drop record.exchanges.length = made := by
    rw [hmade]
    exact List.drop_left
  unfold inquire
  rw [hunderstand, hrun]
  dsimp only
  rw [hlink, hfetch, hdrop]
  cases fetched <;> rfl

theorem accounts_of_understood {compiled : CompiledQuery} {clear : Text} {expr : ResolvedExpr}
    (hcompile : compile service.config.query query = .ok compiled)
    (hclear : clearText service.normalize compiled = .ok clear)
    (hresolve : service.vocabulary.resolve service.normalize compiled.expr = .ok expr)
    {state : SearchState} (howned : state.session.Owned) (record : Record σ) :
    service.Accounts host query page state record := by
  have hunderstand : service.understand query =
      .ok (queryTerms service.normalize compiled, expr) := by
    simp only [understand, hcompile, hresolve, bind, Except.bind, pure, Except.pure]
  have hlink : host.recorded.toLink = host.toLink.recorded := rfl
  have hfetch := ClientM.fetchPage_run host.toLink.recorded service.config.client expr page
    state.toClientState (host.recorded.clock.run record).2
  have hmade := ClientM.exists_made_of_fetchPage host.toLink service.config.client expr page
    howned (host.recorded.clock.run record).2
  have hrun := run_search_eq service host.recorded query page state record
  rw [find_eq_map_hits service host.recorded page hcompile hclear hresolve, hits, runOn_map,
    runOn_bind, SearchM.runOn_liftClient, hlink] at hrun
  rcases hfetchPage : runOn (ClientM.fetchPage host.toLink.recorded service.config.client expr page)
    state.toClientState (host.recorded.clock.run record).2 with ⟨fetched, client, record'⟩
  rw [hfetchPage] at hrun hfetch hmade
  obtain ⟨made, hmade, hmetrics⟩ := hmade
  -- Without a page there are no snippets, and all exchanges are those of the fetch.
  cases fetched with
  | error e =>
    exact Accounts.of_run { result := .error e, made, fetched := some (.error e) } hrun
      (inquire_of_fetch hunderstand hrun hfetchPage hmade) hmade (hfetch.owned howned) hmetrics
      (.refl _) (Inquiry.coherent_of_failed e made service)
  | ok ids =>
    obtain ⟨hits, metrics, indexes, record'', hhits, hillustrated, hids, hsnippets⟩ :=
      runOn_mapM_hit_illustrated service host.recorded (queryTerms service.normalize compiled) ids
        { state with toClientState := client } record'
    have hkept := exchanges_mapM_hit service host (queryTerms service.normalize compiled) ids
      { state with toClientState := client } record'
    rw [hhits] at hkept
    dsimp only at hrun
    rw [hhits] at hrun
    refine Accounts.of_run
      {
        result := .ok { query := clear, page, hits, pages := pageWindow page navigationPages }
        made, fetched := some (.ok ids)
        snippets := service.illustrateAll host.recorded (queryTerms service.normalize compiled) ids
          { state with toClientState := client } record' }
      hrun (inquire_of_fetch hunderstand hrun hfetchPage (hkept.trans hmade)) (hkept.trans hmade)
      (hfetch.owned howned) ?_ hillustrated ?_
    · simpa [Inquiry.isCached, Except.isOk, Except.toBool] using hmetrics
    · constructor
      case found =>
        rintro _ ⟨⟩
        exact ⟨by rw [hids], hsnippets⟩
      case fetched => exact fun _ _ => ⟨_, rfl⟩
      case failed =>
        intro _ h
        cases h
      case refused =>
        intro h
        cases h
      case illustrated =>
        intro snippet hmem
        obtain ⟨text, rfl⟩ := exists_ofText_of_mem_illustrateAll hmem
        exact ⟨_, text, rfl, Snippet.text_of_fallback⟩

theorem accounts (service : SearchService) (host : Host (StateM σ)) (query : Text) (page : Nat)
    {state : SearchState} (howned : state.session.Owned) (record : Record σ) :
    service.Accounts host query page state record := by
  cases hcompile : compile service.config.query query with
  | error e =>
    refine accounts_of_refused (e := e) ?_ (find_of_compile_eq_error hcompile) howned record
    simp only [understand, hcompile, bind, Except.bind]
  | ok compiled =>
    cases hresolve : service.vocabulary.resolve service.normalize compiled.expr with
    | error e =>
      refine accounts_of_refused (e := e) ?_ (find_of_resolve_eq_error hcompile hresolve) howned record
      simp only [understand, hcompile, hresolve, bind, Except.bind]
    | ok expr =>
      obtain ⟨clear, hclear⟩ := exists_clearText service.normalize hcompile
      exact accounts_of_understood hcompile hclear hresolve howned record

end SearchService

end BooleanSearch
