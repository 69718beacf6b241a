import Mathlib.Control.Lawful
import BooleanSearch.Proofs.Retrieval.Run
import BooleanSearch.Proofs.Text.Distinct
import BooleanSearch.Proofs.Vocabulary.Lookup
import BooleanSearch.Search.Service
import BooleanSearch.Simulated.System

/-!
This module contains the theorem that the resolved expression of a query decides everything that a
search does and finds, except for the text in which the query is shown. The host may be of any kind:
the same requests are sent, the same files are read, and the service is left in the same state.
-/

namespace BooleanSearch

namespace SearchService

variable {m : Type → Type} [Monad m]

def hits (service : SearchService) (host : Host m) (expr : ResolvedExpr) (terms : List Text)
    (page : Nat) : SearchM m (List SearchHit) := do
  let ids ← SearchM.liftClient (ClientM.fetchPage host.toLink service.config.client expr page)
  ids.mapM fun id => ExceptT.lift (service.hit host terms id)

theorem bind_liftExcept [LawfulMonad m] {α β : Type} {x : Except SearchError α} {a : α}
    (h : x = .ok a) (f : α → SearchM m β) : ((liftM x : SearchM m α) >>= f) = f a := by
  rw [h]
  exact pure_bind (m := SearchM m) a f

theorem find_eq_map_hits [LawfulMonad m] (service : SearchService) (host : Host m)
    {query clear : Text} {compiled : CompiledQuery} {expr : ResolvedExpr} (page : Nat)
    (hcompile : compile service.config.query query = .ok compiled)
    (hclear : clearText service.normalize compiled = .ok clear)
    (hresolve : service.vocabulary.resolve service.normalize compiled.expr = .ok expr) :
    service.find host query page =
      (fun hits => { query := clear, page, hits, pages := pageWindow page navigationPages }) <$>
        service.hits host expr (queryTerms service.normalize compiled) page := by
  unfold find hits
  rw [bind_liftExcept hcompile, bind_liftExcept hclear, bind_liftExcept hresolve]
  simp only [← bind_pure_comp, bind_assoc]

theorem search_eq_map_of_find [LawfulMonad m] (service : SearchService) (host : Host m)
    {query other : Text} {page : Nat} {f : SearchPage → SearchPage}
    (h : service.find host other page = f <$> service.find host query page) :
    service.search host other page = Except.map f <$> service.search host query page := by
  unfold search
  rw [h]
  simp only [ExceptT.run_map, map_bind, bind_map_left, map_pure]
  congr 1
  funext started
  congr 1
  funext result
  congr 1
  funext finished
  cases result <;> rfl

theorem exists_clearText {config : QueryConfig} {query : Text} {compiled : CompiledQuery}
    (normalize : Normalizer) (h : compile config query = .ok compiled) :
    ∃ clear, clearText normalize compiled = .ok clear := by
  obtain ⟨hsource, -, tokens, htokens, -⟩ := checks_of_compile h
  unfold clearText
  rw [hsource, htokens]
  exact ⟨_, rfl⟩

theorem queryTerms_eq (normalize : Normalizer) (compiled : CompiledQuery) :
    queryTerms normalize compiled =
      Text.distinct ((compiled.expr.leaves.flatMap Token.words).map normalize) :=
  Text.distinct_map_distinct normalize _

theorem queryTerms_eq_of_resolve {terms : List Text} (hsize : terms.length ≤ UInt32.size)
    {normalize : Normalizer} {compiled compiled' : CompiledQuery} {expr : ResolvedExpr}
    (h : (Vocabulary.ofTerms terms).resolve normalize compiled.expr = .ok expr)
    (h' : (Vocabulary.ofTerms terms).resolve normalize compiled'.expr = .ok expr) :
    queryTerms normalize compiled = queryTerms normalize compiled' := by
  -- Repetitions are left out before words are normalized and once more after that. What remains
  -- is the same for queries that are resolved to the same expression.
  rw [queryTerms_eq, queryTerms_eq, Vocabulary.map_normalize_eq_of_resolve hsize h h']

end SearchService

def Link.noting {m : Type → Type} [Monad m] (link : Link m) : Link (StateT (List Bytes) m) where
  exchange request := do
    modify (· ++ [request])
    link.exchange request
  pause milliseconds := link.pause milliseconds

/--
The same host, where every request is noted before it is sent.
-/
def Host.noting {m : Type → Type} [Monad m] (host : Host m) : Host (StateT (List Bytes) m) where
  toLink := host.toLink.noting
  readFile name := host.readFile name
  clock := host.clock

structure Visit where
  result : Except SearchError SearchPage
  /-- The handles, the document IDs fetched so far, the indexes and the metrics afterwards. -/
  state : SearchState
  /-- The requests that were sent, in order. -/
  requests : List Bytes

namespace SearchService

variable {m : Type → Type} [Monad m]

def visit (service : SearchService) (host : Host m) (query : Text) (page : Nat)
    (state : SearchState) : m Visit := do
  let ((result, state), requests) ← ((service.search host.noting query page).run state).run []
  return { result, state, requests }

/--
Two queries that are resolved to the same expression are searched for in the same way. From any state
of the service, and whatever the host does, the same requests are sent, the same state is left, and
the same error or the same page is the result, but for the text in which the query is shown.
-/
theorem search_determined_by_resolved_expression [LawfulMonad m] (service : SearchService)
    (host : Host m) {terms : List Text} (hvocabulary : service.vocabulary = .ofTerms terms)
    (hsize : terms.length ≤ UInt32.size) {query other : Text}
    {compiled compiled' : CompiledQuery} {expr : ResolvedExpr}
    (hcompile : compile service.config.query query = .ok compiled)
    (hcompile' : compile service.config.query other = .ok compiled')
    (hresolve : service.vocabulary.resolve service.normalize compiled.expr = .ok expr)
    (hresolve' : service.vocabulary.resolve service.normalize compiled'.expr = .ok expr)
    (page : Nat) (state : SearchState) :
    ∃ clear, clearText service.normalize compiled' = .ok clear ∧
      service.visit host other page state =
        (fun visit =>
          { visit with result := visit.result.map fun found => { found with query := clear } }) <$>
          service.visit host query page state := by
  obtain ⟨shown, hshown⟩ := exists_clearText service.normalize hcompile
  obtain ⟨clear, hclear⟩ := exists_clearText service.normalize hcompile'
  refine ⟨clear, hclear, ?_⟩
  have hterms : queryTerms service.normalize compiled = queryTerms service.normalize compiled' := by
    rw [hvocabulary] at hresolve hresolve'
    exact queryTerms_eq_of_resolve hsize hresolve hresolve'
  have hfind : service.find host.noting other page =
      (fun found => { found with query := clear }) <$> service.find host.noting query page := by
    rw [find_eq_map_hits service host.noting page hcompile hshown hresolve,
      find_eq_map_hits service host.noting page hcompile' hclear hresolve', hterms,
      ← comp_map]
    rfl
  unfold visit
  rw [search_eq_map_of_find service host.noting hfind]
  simp only [StateT.run_map, bind_map_left, map_bind, map_pure]

end SearchService

namespace RepeatedWords

def service : SearchService where
  config := {}
  normalize := Normalizer.default
  vocabulary := .ofTerms ["rust".toList, "cargo".toList]
  store := .ofRecords
    [{ key := "a".toList, title := "Rust".toList, link := none, path := "wiki".toList },
      { key := "b".toList, title := "Cargo".toList, link := none, path := "wiki".toList }]

def corpus : Text := "<doc id=\"a\">Rust and rust.</doc><doc id=\"b\">Cargo is for RUST.</doc>".toList

def system : SimulatedSystem where
  directory := .ofFiles [("wiki".toList, Utf8.encode corpus)]
  backend := { results := (∅ : Table (List UInt32)).insert "0 0 & 0 |".toList [1, 0] }

def host : Host (StateT (Option Nat) (StateM SimulatedSystem)) :=
  SimulatedSystem.host SimulatedSystem.backendLink

def query : Text := "Rust rust | RUST".toList

def other : Text := "rust && rust || rust".toList

def expr (first second third : Text) : Postfix where
  tokens := [.term first, .term second, .and, .term third, .or]
  termCount := 3
  checked := rfl

def compiled : CompiledQuery := ⟨query, expr "Rust".toList "rust".toList "RUST".toList⟩

def compiled' : CompiledQuery := ⟨other, expr "rust".toList "rust".toList "rust".toList⟩

def resolved : ResolvedExpr := ⟨[.term 0, .term 0, .and, .term 0, .or]⟩

def seen (query : Text) : Visit := (((service.visit host query 0 {}).run none).run system).1.1

def page : SearchPage where
  query := "rust & rust | rust".toList
  page := 0
  hits :=
    [{ docId := 1, title := "Cargo".toList, link := none, snippet := "Cargo is for RUST.".toList },
      { docId := 0, title := "Rust".toList, link := none, snippet := "Rust and rust.".toList }]
  pages := [0, 1, 2, 3, 4]

theorem found_alike :
    compile {} query = .ok compiled ∧ compile {} other = .ok compiled' ∧
      service.vocabulary.resolve service.normalize compiled.expr = .ok resolved ∧
      service.vocabulary.resolve service.normalize compiled'.expr = .ok resolved ∧
      service.visit host other 0 {} =
        (fun visit =>
          { visit with
            result := visit.result.map fun found =>
              { found with query := "rust & rust | rust".toList } }) <$>
          service.visit host query 0 {} ∧
      (seen query).result = .ok page ∧ (seen other).result = .ok page ∧
      (seen other).requests = (seen query).requests ∧
      (seen query).requests.map Request.decode? =
        [some (.new "0 0 & 0 |".toList), some (.existing 0)] := by
  have hcompile : compile {} query = .ok compiled := by
    decide +kernel
  have hcompile' : compile {} other = .ok compiled' := by
    decide +kernel
  have hresolve : service.vocabulary.resolve service.normalize compiled.expr = .ok resolved := by
    apply eq_ok_of_toOption
    decide +kernel
  have hresolve' : service.vocabulary.resolve service.normalize compiled'.expr = .ok resolved := by
    apply eq_ok_of_toOption
    decide +kernel
  obtain ⟨clear, hclear, hvisit⟩ := SearchService.search_determined_by_resolved_expression service
    host rfl (by decide) hcompile hcompile' hresolve hresolve' 0 {}
  have hshown : SearchService.clearText service.normalize compiled' =
      .ok "rust & rust | rust".toList := by
    apply eq_ok_of_toOption
    decide +kernel
  rw [hshown, Except.ok.injEq] at hclear
  rw [← hclear] at hvisit
  have hseen : seen other =
      { seen query with
        result := (seen query).result.map fun found =>
          { found with query := "rust & rust | rust".toList } } := by
    unfold seen
    rw [hvisit]
    rfl
  have hfound : (seen query).result = .ok page := by
    apply eq_ok_of_toOption
    decide +kernel
  refine ⟨hcompile, hcompile', hresolve, hresolve', hvisit, hfound, ?_, ?_, by decide +kernel⟩
  · rw [hseen, hfound]
    rfl
  · rw [hseen]

end RepeatedWords

end BooleanSearch
