import BooleanSearch.Proofs.Documents.Steadiness
import BooleanSearch.Proofs.Retrieval.Metering
import BooleanSearch.Search.Service

/-!
This module contains what a search keeps. If something is kept by exchanges, by reading files and by
reading the clock, then it is kept by all that a service does.
-/

namespace BooleanSearch

variable {σ : Type} {P : σ → Prop} {host : Host (StateM σ)}

theorem DocumentStore.keeps_text (hread : ∀ name s, P s → P ((host.readFile name).run s).2)
    (store : DocumentStore) (id : UInt32) :
    Keeps (fun (_ : OffsetIndexes) s => P s) (store.text host.readFile id).run := by
  have hparametric : Parametric host.readFile host.readFile fun x _ =>
      Keeps (fun (_ : OffsetIndexes) s => P s) x.run := {
    pure := fun _ => .pure _
    throw := .throw
    bind := fun hx hf => hx.bindExcept hf
    indexes := fun _ _ h => h
    keep := fun _ => .modify fun _ _ h => h
    check := .liftExcept
    read := fun name => .lift fun _ s h => hread name s h }
  exact hparametric.text store id

namespace SearchService

variable (service : SearchService)

theorem keeps_hit (hread : ∀ name s, P s → P ((host.readFile name).run s).2)
    (hclock : ∀ s, P s → P (host.clock.run s).2) (terms : List Text) (id : UInt32) :
    Keeps (fun (_ : SearchState) s => P s) (service.hit host terms id) := by
  have htick : Keeps (fun (_ : SearchState) s => P s)
      (liftM host.clock : SearchM (StateM σ) Float).run :=
    .lift fun _ s h => hclock s h
  have hstore : Keeps (fun (_ : SearchState) s => P s)
      (SearchM.liftStore (service.store.text host.readFile id)).run :=
    fun state s h => DocumentStore.keeps_text hread service.store id state.indexes s h
  unfold hit
  cases service.store.get? id with
  | none => exact .pure _
  | some record =>
    refine Keeps.bind ?_ fun _ => .pure _
    unfold snippet
    apply htick.bindExcept
    intro started
    apply hstore.bindExcept
    intro text
    apply htick.bindExcept
    intro finished
    refine Keeps.bindExcept (.modify ?_) fun _ => .pure _
    exact fun _ _ h => h

theorem keeps_mapM_hit (hread : ∀ name s, P s → P ((host.readFile name).run s).2)
    (hclock : ∀ s, P s → P (host.clock.run s).2) (terms : List Text) (ids : List UInt32) :
    Keeps (fun (_ : SearchState) s => P s)
      (ids.mapM fun id => (ExceptT.lift (service.hit host terms id) : SearchM (StateM σ) _)).run := by
  induction ids with
  | nil => exact .pure _
  | cons id ids ih =>
    rw [List.mapM_cons]
    have hfirst : Keeps (fun (_ : SearchState) s => P s)
        (ExceptT.lift (service.hit host terms id) : SearchM (StateM σ) _).run :=
      fun state s h => keeps_hit service hread hclock terms id state s h
    apply hfirst.bindExcept
    intro hit
    exact ih.bindExcept fun _ => .pure _

theorem keeps_search (hlink : ClientM.Endures host.toLink fun _ s => P s)
    (hread : ∀ name s, P s → P ((host.readFile name).run s).2)
    (hclock : ∀ s, P s → P (host.clock.run s).2) (query : Text) (page : Nat) :
    Keeps (fun (_ : SearchState) s => P s) (service.search host query page) := by
  have hfetch (expr : ResolvedExpr) : Keeps (fun (_ : SearchState) s => P s)
      (SearchM.liftClient
        (ClientM.fetchPage host.toLink service.config.client expr page)).run :=
    fun state s h =>
      hlink.parametric.fetchPage (.modify fun _ _ h => h) expr page state.toClientState s h
  have hfind : Keeps (fun (_ : SearchState) s => P s) (service.find host query page).run := by
    unfold find
    apply Keeps.liftExcept_bind
    intro compiled _
    apply Keeps.liftExcept_bind
    intro clear _
    apply Keeps.liftExcept_bind
    intro expr _
    apply (hfetch expr).bindExcept
    intro ids
    exact (keeps_mapM_hit service hread hclock _ ids).bindExcept fun _ => .pure _
  intro state s h
  exact hclock _ (hfind _ _ (hclock s h))

end SearchService

end BooleanSearch
