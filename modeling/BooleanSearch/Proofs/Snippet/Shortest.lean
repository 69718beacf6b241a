import BooleanSearch.Proofs.Snippet.Sliding

/-!
This module contains the theorem that the shortest window is what its name says: among all windows in
which every rank occurs it has the smallest span, and among those with the same span it starts first.
-/

namespace BooleanSearch

namespace Window

def Covers (window : Window) (occurrences : List Occurrence) (ranks : Nat) : Prop :=
  ∀ rank, 1 ≤ rank → rank ≤ ranks → window.Shows occurrences rank

variable {ranks : Nat} {occurrences : List Occurrence} {window : Window}

theorem position_le_of_mem_sweep {last other : Occurrence}
    (hsorted : occurrences.Pairwise (·.position ≤ ·.position))
    (hlast : last ∈ (sweep ranks occurrences).1) (hother : other ∈ occurrences)
    (hrank : other.rank = last.rank) : last.position ≤ other.position := by
  induction occurrences with
  | nil => cases hother
  | cons occurrence rest ih =>
    rw [fst_sweep_cons, meet, List.mem_cons, List.mem_filter] at hlast
    rw [List.pairwise_cons] at hsorted
    rcases hlast with rfl | ⟨hlast, hnew⟩
    · rcases List.mem_cons.mp hother with rfl | hother
      · exact Nat.le_refl _
      · exact hsorted.1 other hother
    · rcases List.mem_cons.mp hother with rfl | hother
      · simp [hrank] at hnew
      · exact ih hsorted.2 hlast hother

theorem le_length_sweep (hall : ∀ rank, 1 ≤ rank → rank ≤ ranks →
    rank ∈ occurrences.map Occurrence.rank) : ranks ≤ (sweep ranks occurrences).1.length := by
  have hsubset : List.range' 1 ranks ⊆ (sweep ranks occurrences).1.map Occurrence.rank := by
    intro rank hrank
    rw [List.mem_range'_1] at hrank
    rw [mem_map_rank_sweep]
    exact hall rank hrank.1 (by omega)
  have hlength := (List.Nodup.subperm List.nodup_range' hsubset).length_le
  rwa [List.length_range', List.length_map] at hlength

theorem Covers.mem_map_rank (h : window.Covers occurrences ranks) {rank : Nat} (hpos : 1 ≤ rank)
    (hle : rank ≤ ranks) : rank ∈ occurrences.map Occurrence.rank := by
  obtain ⟨occurrence, hmem, hrank, -⟩ := h rank hpos hle
  exact List.mem_map.mpr ⟨occurrence, hmem, hrank⟩

theorem Covers.of_cons {occurrence : Occurrence} {rest : List Occurrence}
    (h : window.Covers (occurrence :: rest) ranks) :
    (window.start ≤ occurrence.position ∧ occurrence.position ≤ window.stop) ∨
      window.Covers rest ranks := by
  by_cases hinside : window.start ≤ occurrence.position ∧ occurrence.position ≤ window.stop
  · exact .inl hinside
  · refine .inr fun rank hpos hle => ?_
    obtain ⟨other, hmem, hrank, hother⟩ := h rank hpos hle
    rcases List.mem_cons.mp hmem with rfl | hmem
    · exact absurd hother hinside
    · exact ⟨other, hmem, hrank, hother⟩

theorem exists_mem_sweep_of_covers (hpos : 1 ≤ ranks)
    (hsorted : occurrences.Pairwise (·.position ≤ ·.position))
    (hranks : ∀ occurrence ∈ occurrences, 1 ≤ occurrence.rank ∧ occurrence.rank ≤ ranks)
    (h : window.Covers occurrences ranks) :
    ∃ inner ∈ (sweep ranks occurrences).2,
      window.start ≤ inner.start ∧ inner.stop ≤ window.stop := by
  induction occurrences with
  | nil =>
    obtain ⟨occurrence, hmem, -⟩ := h ranks hpos (Nat.le_refl _)
    cases hmem
  | cons occurrence rest ih =>
    have hlength := le_length_sweep fun rank => h.mem_map_rank
    have hmet : (sweep ranks (occurrence :: rest)).1[ranks - 1]? = some _ :=
      List.getElem?_eq_getElem (by omega)
    generalize (sweep ranks (occurrence :: rest)).1[ranks - 1] = last at hmet
    have hlast := List.mem_of_getElem? hmet
    rw [fst_sweep_cons] at hmet
    rw [sweep_cons, hmet]
    rcases h.of_cons with hinside | hrest
    · refine ⟨_, List.mem_cons_self, hinside.1, ?_⟩
      have hrank := hranks last ((sublist_sweep ranks _).subset hlast)
      obtain ⟨other, hmem, heq, -, hstop⟩ := h last.rank hrank.1 hrank.2
      exact Nat.le_trans (position_le_of_mem_sweep hsorted hlast hmem heq) hstop
    · rw [List.pairwise_cons] at hsorted
      rw [List.forall_mem_cons] at hranks
      obtain ⟨inner, hinner, hbounds⟩ := ih hsorted.2 hranks.2 hrest
      exact ⟨inner, List.mem_cons_of_mem _ hinner, hbounds⟩

theorem starts_sublist (ranks : Nat) (occurrences : List Occurrence) :
    ((sweep ranks occurrences).2.map Window.start).Sublist
      (occurrences.map Occurrence.position) := by
  induction occurrences with
  | nil => exact List.Sublist.refl _
  | cons occurrence rest ih =>
    rw [sweep_cons]
    dsimp only
    split
    next => exact ih.cons_cons _
    next => exact ih.cons _

theorem least_of_minOn? {windows : List Window} (hstarts : windows.Pairwise (·.start < ·.start))
    (h : windows.minOn? span = some window) {other : Window} (hother : other ∈ windows) :
    window.span ≤ other.span ∧ (other.span = window.span → window.start ≤ other.start) := by
  induction windows generalizing window with
  | nil => cases hother
  | cons first rest ih =>
    rw [List.pairwise_cons] at hstarts
    rw [List.minOn?_cons, Option.some.injEq] at h
    cases hrest : rest.minOn? span with
    | none =>
      rw [hrest, Option.elim_none] at h
      have hnil : rest = [] := by
        by_contra hne
        have hsome := List.isSome_minOn?_iff (f := span).mpr hne
        rw [hrest] at hsome
        cases hsome
      subst hnil
      obtain rfl := List.mem_singleton.mp hother
      exact ⟨Nat.le_of_eq (congrArg span h.symm), fun _ => Nat.le_of_eq (congrArg start h.symm)⟩
    | some best =>
      rw [hrest, Option.elim_some, minOn_eq_if] at h
      have hbest := List.minOn?_mem hrest
      split at h
      -- The first window is kept on a tie, and it starts before all others.
      next hle =>
        subst h
        rcases List.mem_cons.mp hother with rfl | hother
        · exact ⟨Nat.le_refl _, fun _ => Nat.le_refl _⟩
        · refine ⟨Nat.le_trans hle (ih hstarts.2 hrest hother).1, fun _ => ?_⟩
          exact Nat.le_of_lt (hstarts.1 other hother)
      next hlt =>
        subst h
        rcases List.mem_cons.mp hother with rfl | hother
        · exact ⟨by omega, fun heq => absurd (Nat.le_of_eq heq) hlt⟩
        · exact ih hstarts.2 hrest hother

theorem mem_sweep_of_shortest? (h : shortest? occurrences ranks = some window) :
    window ∈ (sweep ranks occurrences).2 := by
  unfold shortest? at h
  split at h
  next => cases h
  next => exact List.minOn?_mem h

theorem exists_first_of_mem_sweep (h : window ∈ (sweep ranks occurrences).2) :
    ∃ first ∈ occurrences, first.position = window.start := by
  obtain ⟨first, behind, last, hsuffix, -, rfl⟩ := exists_of_mem_sweep h
  exact ⟨first, hsuffix.subset List.mem_cons_self, rfl⟩

theorem exists_last_of_mem_sweep (h : window ∈ (sweep ranks occurrences).2) :
    ∃ last ∈ occurrences, last.position = window.stop := by
  obtain ⟨first, behind, last, hsuffix, hlast, rfl⟩ := exists_of_mem_sweep h
  have hmem := (sublist_sweep ranks _).subset (List.mem_of_getElem? hlast)
  exact ⟨last, hsuffix.subset hmem, rfl⟩

theorem covers_of_shortest? (hranks : ∀ occurrence ∈ occurrences,
      1 ≤ occurrence.rank ∧ occurrence.rank ≤ ranks)
    (hsorted : occurrences.Pairwise (·.position ≤ ·.position))
    (h : shortest? occurrences ranks = some window) : window.Covers occurrences ranks := by
  intro rank hpos hle
  refine shows_of_shortest? hsorted ?_ (List.mem_range'_1.mpr ⟨hpos, by omega⟩) h
  intro occurrence hmem
  have hrank := hranks occurrence hmem
  exact List.mem_range'_1.mpr ⟨hrank.1, by omega⟩

theorem sweep_ne_nil (hpos : 1 ≤ ranks) (h : ranks ≤ (sweep ranks occurrences).1.length) :
    (sweep ranks occurrences).2 ≠ [] := by
  cases occurrences with
  | nil => exact absurd h (Nat.not_le_of_lt hpos)
  | cons occurrence rest =>
    rw [fst_sweep_cons] at h
    rw [sweep_cons, List.getElem?_eq_getElem (by omega)]
    exact List.cons_ne_nil _ _

theorem shortest?_eq_none_iff
    (hranks : ∀ occurrence ∈ occurrences, 1 ≤ occurrence.rank ∧ occurrence.rank ≤ ranks)
    (hsorted : occurrences.Pairwise (·.position ≤ ·.position)) :
    shortest? occurrences ranks = none ↔
      ranks = 0 ∨ ∃ rank, 1 ≤ rank ∧ rank ≤ ranks ∧
        ∀ occurrence ∈ occurrences, occurrence.rank ≠ rank := by
  constructor
  · intro hnone
    by_contra! hall
    obtain ⟨hzero, hall⟩ := hall
    have hlength : ranks ≤ (sweep ranks occurrences).1.length := by
      refine le_length_sweep fun rank hpos hle => ?_
      obtain ⟨occurrence, hmem, hrank⟩ := hall rank hpos hle
      exact List.mem_map.mpr ⟨occurrence, hmem, hrank⟩
    have hsome := List.isSome_minOn?_iff (f := span).mpr
      (sweep_ne_nil (Nat.pos_of_ne_zero hzero) hlength)
    unfold shortest? at hnone
    rw [if_neg hzero] at hnone
    rw [hnone] at hsome
    cases hsome
  · rintro (rfl | ⟨rank, hpos, hle, habsent⟩)
    · rfl
    · cases h : shortest? occurrences ranks with
      | none => rfl
      | some window =>
        obtain ⟨occurrence, hmem, hrank, -⟩ :=
          covers_of_shortest? hranks hsorted h rank hpos hle
        exact absurd hrank (habsent occurrence hmem)

/--
As long as the counts of all ranks fit into a list, a slide over occurrences with growing positions never
looks outside of a list and never goes below zero. It finds no window exactly if there are no ranks or
one of them does not occur. Otherwise the window starts and stops at occurrences and covers all ranks;
no window that does so is shorter, and none of the same span starts earlier.
-/
theorem shortest_covering_window (hfits : occurrences ≠ [] → CountsFit ranks)
    (hpositions : occurrences.Pairwise (·.position < ·.position))
    (hranks : ∀ occurrence ∈ occurrences, 1 ≤ occurrence.rank ∧ occurrence.rank ≤ ranks) :
    slide? occurrences ranks = some (shortest? occurrences ranks) ∧
      (shortest? occurrences ranks = none ↔
        ranks = 0 ∨ ∃ rank, 1 ≤ rank ∧ rank ≤ ranks ∧
          ∀ occurrence ∈ occurrences, occurrence.rank ≠ rank) ∧
      ∀ window, shortest? occurrences ranks = some window →
        (∃ first ∈ occurrences, first.position = window.start) ∧
        (∃ last ∈ occurrences, last.position = window.stop) ∧
        window.Covers occurrences ranks ∧
        ∀ other : Window, other.Covers occurrences ranks →
          window.span ≤ other.span ∧ (other.span = window.span → window.start ≤ other.start) := by
  have hsorted := hpositions.imp Nat.le_of_lt
  have hslide := slide?_eq_counted? (fun occurrence hmem => (hranks occurrence hmem).2) hsorted
  refine ⟨hslide.trans (counted?_eq_shortest? hfits),
    shortest?_eq_none_iff hranks hsorted, ?_⟩
  intro window h
  have hwindow := mem_sweep_of_shortest? h
  refine ⟨exists_first_of_mem_sweep hwindow, exists_last_of_mem_sweep hwindow,
    covers_of_shortest? hranks hsorted h, ?_⟩
  intro other hother
  unfold shortest? at h
  split at h
  next => cases h
  next hzero =>
    -- Inside of every window that covers all ranks lies one that the sweep comes by.
    obtain ⟨inner, hinner, hstart, hstop⟩ :=
      exists_mem_sweep_of_covers (Nat.pos_of_ne_zero hzero) hsorted hranks hother
    have hordered := start_le_stop_of_mem_sweep hsorted hinner
    have hstarts : (sweep ranks occurrences).2.Pairwise (·.start < ·.start) := by
      rw [← List.pairwise_map]
      exact (List.pairwise_map.mpr hpositions).sublist (starts_sublist ranks occurrences)
    obtain ⟨hspan, htie⟩ := least_of_minOn? hstarts h hinner
    have hinside : inner.span ≤ other.span := by
      unfold span
      omega
    refine ⟨Nat.le_trans hspan hinside, fun heq => ?_⟩
    have hsame : inner.span = other.span := by omega
    have hstart : inner.start = other.start := by
      unfold span at hsame
      omega
    rw [← hstart]
    exact htie (by omega)

end Window

namespace RepeatedRanks

def occurrences : List Occurrence := [⟨0, 1⟩, ⟨2, 1⟩, ⟨5, 2⟩, ⟨9, 2⟩, ⟨12, 1⟩]

theorem covered_from_second :
    Window.slide? occurrences 2 = some (some ⟨2, 5⟩) ∧
      (⟨9, 12⟩ : Window).Covers occurrences 2 ∧
      ∀ other : Window, other.Covers occurrences 2 →
        3 ≤ other.span ∧ (other.span = 3 → 2 ≤ other.start) := by
  have hpositions : occurrences.Pairwise (·.position < ·.position) := by decide
  have hranks : ∀ occurrence ∈ occurrences, 1 ≤ occurrence.rank ∧ occurrence.rank ≤ 2 := by decide
  have hshortest : Window.shortest? occurrences 2 = some ⟨2, 5⟩ := by decide
  obtain ⟨hslide, -, hleast⟩ := Window.shortest_covering_window (fun _ => by decide) hpositions hranks
  obtain ⟨-, -, -, hleast⟩ := hleast ⟨2, 5⟩ hshortest
  rw [hshortest] at hslide
  refine ⟨hslide, ?_, hleast⟩
  intro rank hpos hle
  obtain rfl | rfl : rank = 1 ∨ rank = 2 := by omega
  · exact ⟨⟨12, 1⟩, by decide, rfl, by decide, by decide⟩
  · exact ⟨⟨9, 2⟩, by decide, rfl, by decide, by decide⟩

end RepeatedRanks

namespace LargestWord

def occurrences : List Occurrence := [⟨0, 1⟩]

def ranks : Nat := 18446744073709551615

theorem no_list_of_counts :
    occurrences.Pairwise (·.position < ·.position) ∧
      (∀ occurrence ∈ occurrences, 1 ≤ occurrence.rank ∧ occurrence.rank ≤ ranks) ∧
      (1 ≤ 2 ∧ 2 ≤ ranks ∧ ∀ occurrence ∈ occurrences, occurrence.rank ≠ 2) ∧
      Window.slide? occurrences ranks = none := by
  have hfits : ¬ Window.CountsFit ranks := by decide
  refine ⟨by decide, by decide, by decide, ?_⟩
  unfold Window.slide?
  rw [if_neg (by decide), if_neg hfits]

end LargestWord

end BooleanSearch
