import BooleanSearch.Proofs.Metrics.Tally
import BooleanSearch.Proofs.Retrieval.Disturbance
import BooleanSearch.Proofs.Search.Inquiries

/-!
This module contains the accounts of a service: its metrics after any number of searches, set against
all that happened in these searches. No search, exchange or document is left out or counted twice.
-/

namespace BooleanSearch

variable {σ : Type}

inductive Move (σ : Type) where
  | search (query : Text) (page : Nat)
  | change (f : σ → σ)

def Move.isSearch : Move σ → Bool
  | search _ _ => true
  | change _ => false

structure Ledger (σ : Type) where
  state : SearchState := {}
  record : Record σ
  inquiries : List Inquiry := []

namespace Ledger

def move (service : SearchService) (host : Host (StateM σ)) (ledger : Ledger σ) :
    Move σ → Ledger σ
  | .search query page =>
    let run := ((service.search host.recorded query page).run ledger.state).run ledger.record
    { state := run.1.2
      record := run.2
      inquiries :=
        ledger.inquiries ++ [service.inquire host query page ledger.state ledger.record] }
  | .change f => { ledger with record.other := f ledger.record.other }

def after (service : SearchService) (host : Host (StateM σ)) (s : σ) (moves : List (Move σ)) :
    Ledger σ :=
  moves.foldl (move service host) { record := { other := s } }

/--
The metrics of a service agree with all of its searches.
-/
structure Balanced (ledger : Ledger σ) (service : SearchService) : Prop where
  owned : ledger.state.session.Owned
  exchanges : ledger.record.exchanges = ledger.inquiries.flatMap Inquiry.made
  coherent : ∀ inquiry ∈ ledger.inquiries, inquiry.Coherent service
  queries : ledger.state.metrics.queries = ledger.inquiries.length
  answered : ledger.state.metrics.searchLatency.count =
    ledger.inquiries.countP (·.result.isOk)
  errors : ledger.state.metrics.errors = Table.tally (ledger.inquiries.filterMap Inquiry.failure?)
  registered : ledger.state.metrics.registeredQueries =
    Int.bmod ledger.state.session.queryCount UInt64.size
  requests : ledger.state.metrics.backendRequests =
    Table.tally (ledger.record.exchanges.map Exchange.kind)
  cacheHits : ledger.state.metrics.cacheHits = ledger.inquiries.countP Inquiry.isCached
  latency : ledger.state.metrics.snippetLatency.count =
    (ledger.inquiries.flatMap Inquiry.snippets).countP Except.isOk
  fallbacks : ledger.state.metrics.snippetFallbacks =
    (ledger.inquiries.flatMap Inquiry.snippets).countP Snippet.isHead

theorem Balanced.start (service : SearchService) (s : σ) :
    Balanced { record := { other := s } } service where
  owned := fun _ _ => rfl
  exchanges := rfl
  coherent := fun _ hmem => absurd hmem List.not_mem_nil
  queries := rfl
  answered := rfl
  errors := rfl
  registered := by
    show 0 = Int.bmod 0 UInt64.size
    rw [Int.zero_bmod]
  requests := rfl
  cacheHits := rfl
  latency := rfl
  fallbacks := rfl

theorem Balanced.move {ledger : Ledger σ} {service : SearchService} (h : ledger.Balanced service)
    (host : Host (StateM σ)) (move : Move σ) :
    (ledger.move service host move).Balanced service := by
  cases move with
  | change f =>
    exact ⟨h.owned, h.exchanges, h.coherent, h.queries, h.answered, h.errors, h.registered,
      h.requests, h.cacheHits, h.latency, h.fallbacks⟩
  | search query page =>
    have haccounts := service.accounts host query page h.owned ledger.record
    have hcounts := haccounts.counts
    unfold Ledger.move
    dsimp only
    refine ⟨haccounts.owned, ?_, ?_, ?_, ?_, ?_, haccounts.registered, ?_, ?_, ?_, ?_⟩
    · rw [haccounts.exchanges, h.exchanges, List.flatMap_append, List.flatMap_singleton]
    · intro inquiry hmem
      rcases List.mem_append.mp hmem with hmem | hmem
      · exact h.coherent inquiry hmem
      · rw [List.mem_singleton.mp hmem]
        exact haccounts.coherent
    · rw [hcounts.queries, h.queries, List.length_append]
      rfl
    · rw [hcounts.answered, h.answered, List.countP_append]
    · rw [hcounts.errors, h.errors, List.filterMap_append]
      exact List.foldl_append.symm
    · rw [hcounts.requests, h.requests, haccounts.exchanges, List.map_append]
      exact List.foldl_append.symm
    · rw [hcounts.cacheHits, h.cacheHits, List.countP_append]
    · rw [hcounts.latency, h.latency, List.flatMap_append, List.countP_append,
        List.flatMap_singleton]
    · rw [hcounts.fallbacks, h.fallbacks, List.flatMap_append, List.countP_append,
        List.flatMap_singleton]

theorem Balanced.after (service : SearchService) (host : Host (StateM σ)) (s : σ)
    (moves : List (Move σ)) : (Ledger.after service host s moves).Balanced service := by
  induction moves using List.reverseRecOn with
  | nil => exact .start service s
  | append_singleton moves move ih =>
    unfold Ledger.after
    rw [List.foldl_append]
    exact ih.move host move

theorem length_inquiries_after (service : SearchService) (host : Host (StateM σ)) (s : σ)
    (moves : List (Move σ)) :
    (Ledger.after service host s moves).inquiries.length = moves.countP Move.isSearch := by
  induction moves using List.reverseRecOn with
  | nil => rfl
  | append_singleton moves move ih =>
    unfold Ledger.after at ih ⊢
    rw [List.foldl_append, List.countP_append, ← ih]
    cases move with
    | search query page => exact List.length_append
    | change f => rfl

end Ledger

/--
A host whose exchanges are those of a simulated backend, which nothing else touches.
-/
structure Host.Fronts (host : Host (StateM σ)) (backend : σ → SimulatedBackend) : Prop where
  fst_exchange (bytes : Bytes) (s : σ) :
    ((host.exchange bytes).run s).1 = ((backend s).exchange bytes).1
  snd_exchange (bytes : Bytes) (s : σ) :
    backend ((host.exchange bytes).run s).2 = ((backend s).exchange bytes).2
  snd_pause (milliseconds : Nat) (s : σ) : backend ((host.pause milliseconds).run s).2 = backend s
  snd_readFile (name : Text) (s : σ) : backend ((host.readFile name).run s).2 = backend s
  snd_clock (s : σ) : backend (host.clock.run s).2 = backend s

theorem SimulatedBackend.received_exchange (backend : SimulatedBackend) (bytes : Bytes) :
    (backend.exchange bytes).2.received =
      backend.received ++
        if Exchange.isDelivered ⟨bytes, (backend.exchange bytes).1⟩ then
          [Received.ofBytes bytes]
        else
          [] := by
  cases hundelivered : backend.undelivered with
  | succ undelivered =>
    simp [exchange, hundelivered, Exchange.isDelivered]
  | zero =>
    cases hlost : backend.lost with
    | zero =>
      simp only [exchange, hundelivered, respond, act_update, hlost]
      simp [Exchange.isDelivered]
    | succ lost =>
      simp only [exchange, hundelivered, respond, act_update, hlost]
      simp [Exchange.isDelivered]

/--
A backend has received what was delivered according to the record, after it had received `earlier`.
-/
def Record.Delivered (backend : σ → SimulatedBackend) (earlier : List Received)
    (record : Record σ) : Prop :=
  (backend record.other).received =
    earlier ++ (record.exchanges.filter Exchange.isDelivered).map fun exchange =>
      Received.ofBytes exchange.request

namespace Record.Delivered

variable {backend : σ → SimulatedBackend} {earlier : List Received} {record : Record σ} {other : σ}

theorem of_received_eq (h : record.Delivered backend earlier)
    (hother : (backend other).received = (backend record.other).received) :
    Record.Delivered backend earlier { record with other } :=
  hother.trans h

theorem exchange (h : record.Delivered backend earlier) {made : Exchange}
    (hother : (backend other).received = (backend record.other).received ++
      if made.isDelivered then [Received.ofBytes made.request] else []) :
    Record.Delivered backend earlier { other, exchanges := record.exchanges ++ [made] } := by
  unfold Record.Delivered at h ⊢
  rw [hother, h, List.append_assoc, List.filter_append, List.map_append, List.filter_cons]
  split <;> rfl

end Record.Delivered

namespace Host.Fronts

variable {host : Host (StateM σ)} {backend : σ → SimulatedBackend} {earlier : List Received}

theorem endures (h : host.Fronts backend) :
    ClientM.Endures host.recorded.toLink fun _ record => record.Delivered backend earlier where
  exchange := by
    intro request bytes _ _ record hdelivered
    have hexchange := (backend record.other).received_exchange bytes
    rw [← h.fst_exchange, ← h.snd_exchange] at hexchange
    exact hdelivered.exchange hexchange
  pause := fun milliseconds _ record hdelivered =>
    hdelivered.of_received_eq
      (congrArg SimulatedBackend.received (h.snd_pause milliseconds record.other))
  session := fun _ _ _ hdelivered => hdelivered

theorem delivered_after (h : host.Fronts backend) (service : SearchService) (s : σ)
    {moves : List (Move σ)}
    (hmoves : ∀ f, .change f ∈ moves → ∀ s, (backend (f s)).received = (backend s).received) :
    (Ledger.after service host s moves).record.Delivered backend (backend s).received := by
  induction moves using List.reverseRecOn with
  | nil => exact (List.append_nil _).symm
  | append_singleton moves move ih =>
    have hdelivered := ih fun f hmem => hmoves f (List.mem_append_left _ hmem)
    unfold Ledger.after
    rw [List.foldl_append]
    cases move with
    | change f => exact hdelivered.of_received_eq (hmoves f (by simp) _)
    | search query page =>
      have hread (name : Text) (record : Record σ)
          (hrecord : record.Delivered backend (backend s).received) :
          ((host.recorded.readFile name).run record).2.Delivered backend (backend s).received :=
        hrecord.of_received_eq
          (congrArg SimulatedBackend.received (h.snd_readFile name record.other))
      have hclock (record : Record σ) (hrecord : record.Delivered backend (backend s).received) :
          (host.recorded.clock.run record).2.Delivered backend (backend s).received :=
        hrecord.of_received_eq (congrArg SimulatedBackend.received (h.snd_clock record.other))
      exact service.keeps_search h.endures hread hclock query page _ _ hdelivered

end Host.Fronts

/--
After any number of searches, and whatever has happened to the host between them, the metrics of a
service agree with all that happened in these searches. Every search counts as answered or under the
kind of its failure, every exchange under the kind of its request, a fetch counts as cached if it
brought a page without any exchange, and a snippet counts if its document has a text. Behind the
exchanges may stand a simulated backend. Then it received exactly the ones that were delivered.
-/
theorem metrics_account_for_searches (service : SearchService) (host : Host (StateM σ)) (s : σ)
    (moves : List (Move σ)) :
    let last := Ledger.after service host s moves
    let metrics := last.state.metrics
    let exchanges := last.record.exchanges
    let snippets := last.inquiries.flatMap Inquiry.snippets
    (last.inquiries.length = moves.countP Move.isSearch ∧
      (∀ inquiry ∈ last.inquiries, inquiry.Coherent service) ∧
      exchanges = last.inquiries.flatMap Inquiry.made) ∧
    metrics.queries = last.inquiries.length ∧
    metrics.searchLatency.count = last.inquiries.countP (·.result.isOk) ∧
    (∀ kind, metrics.errors.count kind = last.inquiries.countP (·.failure? = some kind)) ∧
    metrics.searchLatency.count + metrics.errors.total = metrics.queries ∧
    (last.state.session.queryCount < 2 ^ 53 →
      metrics.registeredQueries = last.state.session.queryCount) ∧
    (∀ kind, metrics.backendRequests.count kind = exchanges.countP (·.kind = kind)) ∧
    metrics.backendRequests.total = exchanges.length ∧
    metrics.cacheHits = last.inquiries.countP Inquiry.isCached ∧
    metrics.snippetLatency.count = snippets.countP Except.isOk ∧
    metrics.snippetFallbacks = snippets.countP Snippet.isHead ∧
    ∀ backend : σ → SimulatedBackend, host.Fronts backend →
      (∀ f, .change f ∈ moves → ∀ s, (backend (f s)).received = (backend s).received) →
      last.record.Delivered backend (backend s).received ∧
      (backend s).received.length + metrics.backendRequests.total =
        (backend last.record.other).received.length +
          exchanges.countP (!·.isDelivered) := by
  dsimp only
  have hlength := Ledger.length_inquiries_after service host s moves
  have hbalanced := Ledger.Balanced.after service host s moves
  have herrors := hbalanced.errors
  have hrequests := hbalanced.requests
  refine ⟨⟨hlength, hbalanced.coherent, hbalanced.exchanges⟩, hbalanced.queries, hbalanced.answered,
    ?_, ?_, ?_, ?_, ?_, hbalanced.cacheHits, hbalanced.latency, hbalanced.fallbacks, ?_⟩
  · intro kind
    rw [herrors, Table.count_tally, List.count_filterMap]
    exact List.countP_congr (by simp)
  · rw [hbalanced.answered, hbalanced.queries, herrors, Table.total_tally,
      List.length_filterMap_eq_countP, List.length_eq_countP_add_countP fun inquiry : Inquiry =>
        inquiry.result.isOk]
    congr 1
    exact List.countP_congr fun inquiry _ => by simp [inquiry.isSome_failure?]
  · intro hcount
    -- The gauge is a signed number, which is the number itself below half of its range.
    have hsize : UInt64.size = 2 ^ 64 := rfl
    rw [hbalanced.registered]
    exact Int.bmod_eq_of_le_mul_two (by omega) (by omega)
  · intro kind
    rw [hrequests, Table.count_tally, List.count_eq_countP, List.countP_map]
    exact List.countP_congr (by simp)
  · rw [hrequests, Table.total_tally, List.length_map]
  · intro backend hfronts hmoves
    have hdelivered := hfronts.delivered_after service s hmoves
    refine ⟨hdelivered, ?_⟩
    have hlength := congrArg List.length hdelivered
    rw [List.length_append, List.length_map, ← List.countP_eq_length_filter] at hlength
    rw [hlength, hrequests, Table.total_tally, List.length_map, Nat.add_assoc,
      List.length_eq_countP_add_countP Exchange.isDelivered]
    congr 2
    exact List.countP_congr (by simp)

namespace DamagedCorpus

theorem fronts : host.Fronts SimulatedSystem.backend where
  fst_exchange _ _ := rfl
  snd_exchange _ _ := rfl
  snd_pause _ _ := rfl
  snd_readFile _ _ := rfl
  snd_clock _ := rfl

/--
A page that is fetched, and cached the next time; a registration that is never delivered; and a query
that is refused.
-/
def moves : List (Move SimulatedSystem) :=
  [.search "Rust".toList 0, .search "rust".toList 0,
    .change fun system => { system with backend.undelivered := 5 }, .search "cargo".toList 0,
    .search "rust )".toList 0]

def last : Ledger SimulatedSystem := .after service host system moves

theorem four_searches_accounted_for :
    last.state.metrics.queries = 4 ∧
      last.state.metrics.errors.count "request_not_delivered".toList = 1 ∧
      last.state.metrics.cacheHits = 1 ∧
      last.state.metrics.backendRequests.total = last.record.other.backend.received.length + 2 ∧
      last.state.metrics.snippetLatency.count = 4 := by
  obtain ⟨-, hqueries, -, herrors, -, -, -, -, hcached, hlatency, -, hbackend⟩ :=
    metrics_account_for_searches service host system moves
  have hmoves : ∀ f, .change f ∈ moves → ∀ system : SimulatedSystem,
      (f system).backend.received = system.backend.received := by
    intro f hmem
    simp only [moves, List.mem_cons, reduceCtorEq, Move.change.injEq, List.not_mem_nil, or_false,
      false_or] at hmem
    rw [hmem]
    exact fun _ => rfl
  obtain ⟨-, htotal⟩ := hbackend SimulatedSystem.backend fronts hmoves
  have hcounts : last.inquiries.length = 4 ∧
      last.inquiries.countP (·.failure? = some "request_not_delivered".toList) = 1 ∧
      last.inquiries.countP Inquiry.isCached = 1 ∧
      last.record.exchanges.countP (!·.isDelivered) = 2 ∧
      (last.inquiries.flatMap Inquiry.snippets).countP Except.isOk = 4 := by
    decide +kernel
  obtain ⟨hlength, hfailed, hhits, hundelivered, hmade⟩ := hcounts
  have hnone : system.backend.received.length = 0 := rfl
  rw [hnone, Nat.zero_add] at htotal
  refine ⟨hqueries.trans hlength, (herrors _).trans hfailed, hcached.trans hhits, ?_,
    hlatency.trans hmade⟩
  rw [← hundelivered]
  exact htotal

end DamagedCorpus

end BooleanSearch
