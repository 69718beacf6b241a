import Mathlib.Data.Finset.Card
import Mathlib.Data.Nat.PSub
import BooleanSearch.Proofs.Snippet.Covering

/-!
This module contains the search for the shortest window by a window that slides over the occurrences.
It takes in one occurrence after the other, and as soon as it covers all ranks it gives up occurrences
at its left end. Nothing outside of a list is looked at and no number falls below zero on the way, and
the window that is found is the shortest one of the sweep.
-/

namespace BooleanSearch

structure Tally where
  /-- How often each rank occurs. -/
  counts : List Nat
  /-- The number of ranks that occur. -/
  covered : Nat

namespace Tally

def add? (tally : Tally) (occurrence : Occurrence) : Option Tally := do
  let count ← tally.counts[occurrence.rank]?
  return {
    counts := tally.counts.set occurrence.rank (count + 1)
    covered := if count = 0 then tally.covered + 1 else tally.covered }

def remove? (tally : Tally) (occurrence : Occurrence) : Option Tally := do
  let count ← (← tally.counts[occurrence.rank]?).ppred
  let covered ← if count = 0 then tally.covered.ppred else some tally.covered
  return { counts := tally.counts.set occurrence.rank count, covered }

end Tally

structure Slide where
  /-- The number of occurrences that were given up. -/
  left : Nat
  tally : Tally
  /-- The shortest window so far. -/
  best : Option Window

namespace Slide

def start (ranks : Nat) : Slide := ⟨0, ⟨List.replicate (ranks + 1) 0, 0⟩, none⟩

/--
The shorter one of two windows, and the one that was there before if none is shorter. There is no
result if a window ends before it starts.
-/
def shorter? : Option Window → Window → Option Window
  | none, window => some window
  | some best, window => do
    let span ← window.stop.psub window.start
    let least ← best.stop.psub best.start
    return if span < least then window else best

/--
Give up occurrences as long as all ranks are covered. There is no result if there is none to give up.
-/
def settle? (occurrences : List Occurrence) (ranks : Nat) (last : Occurrence) (slide : Slide) :
    Option Slide :=
  if slide.tally.covered = ranks then
    match hfirst : occurrences[slide.left]? with
    | none => none
    | some first => do
      let best ← shorter? slide.best ⟨first.position, last.position⟩
      let tally ← slide.tally.remove? first
      settle? occurrences ranks last ⟨slide.left + 1, tally, some best⟩
  else
    some slide
termination_by occurrences.length - slide.left
decreasing_by
  obtain ⟨hlt, -⟩ := List.getElem?_eq_some_iff.mp hfirst
  omega

def advance? (occurrences : List Occurrence) (ranks : Nat) (slide : Slide) (last : Occurrence) :
    Option Slide := do
  let tally ← slide.tally.add? last
  settle? occurrences ranks last { slide with tally }

end Slide

namespace Window

/--
The shortest window that a slide over the occurrences comes by. There is no result if the list of counts
would be too long, or if the slide has to look outside of a list or would make a number fall below zero.
-/
def slide? (occurrences : List Occurrence) (ranks : Nat) : Option (Option Window) :=
  if occurrences = [] ∨ ranks = 0 then
    some none
  else if CountsFit ranks then
    (occurrences.foldlM (Slide.advance? occurrences ranks) (Slide.start ranks)).map Slide.best
  else
    none

section

variable (ranks : Nat) {occurrences : List Occurrence}

theorem fst_sweep_cons (occurrence : Occurrence) (rest : List Occurrence) :
    (sweep ranks (occurrence :: rest)).1 = meet occurrence (sweep ranks rest).1 := by
  rw [sweep_cons]

theorem mem_map_rank_sweep {rank : Nat} :
    rank ∈ (sweep ranks occurrences).1.map Occurrence.rank ↔
      rank ∈ occurrences.map Occurrence.rank := by
  induction occurrences with
  | nil => rfl
  | cons occurrence rest ih =>
    rw [fst_sweep_cons]
    by_cases hrank : rank = occurrence.rank
    · simp [meet, hrank]
    · simp only [List.mem_map] at ih
      simp only [meet, List.map_cons, List.mem_cons, hrank, false_or, List.mem_map,
        List.mem_filter, ← ih]
      grind

theorem length_sweep :
    (sweep ranks occurrences).1.length = (occurrences.map Occurrence.rank).toFinset.card := by
  rw [← List.length_map (f := Occurrence.rank),
    ← List.toFinset_card_of_nodup (nodup_sweep ranks occurrences)]
  congr 1
  ext rank
  simp only [List.mem_toFinset, mem_map_rank_sweep]

theorem length_sweep_cons (occurrence : Occurrence) (rest : List Occurrence) :
    (sweep ranks (occurrence :: rest)).1.length =
      if occurrence.rank ∈ rest.map Occurrence.rank then (sweep ranks rest).1.length
      else (sweep ranks rest).1.length + 1 := by
  simp only [length_sweep, List.map_cons, List.toFinset_cons, Finset.card_insert_eq_ite,
    List.mem_toFinset]

theorem length_sweep_le_cons (occurrence : Occurrence) (rest : List Occurrence) :
    (sweep ranks rest).1.length ≤ (sweep ranks (occurrence :: rest)).1.length := by
  rw [length_sweep_cons]
  split
  next => exact Nat.le_refl _
  next => exact Nat.le_succ _

theorem sweep_concat (occurrences : List Occurrence) (last : Occurrence) :
    (sweep ranks (occurrences ++ [last])).1 =
      if last.rank ∈ occurrences.map Occurrence.rank then (sweep ranks occurrences).1
      else (sweep ranks occurrences).1 ++ [last] := by
  induction occurrences with
  | nil => simp [sweep_cons, meet, sweep]
  | cons occurrence rest ih =>
    rw [List.cons_append, fst_sweep_cons, ih, fst_sweep_cons, List.map_cons]
    by_cases hrank : last.rank = occurrence.rank
    · rw [hrank, if_pos List.mem_cons_self]
      split
      next => rfl
      next => simp [meet, hrank]
    · rw [if_congr (List.mem_cons.trans (or_iff_right hrank)) rfl rfl]
      split
      next => rfl
      next => simp [meet, hrank]

theorem sweep_prefix_append (occurrences behind : List Occurrence) :
    (sweep ranks occurrences).1 <+: (sweep ranks (occurrences ++ behind)).1 := by
  induction behind generalizing occurrences with
  | nil => simp
  | cons last behind ih =>
    rw [List.append_cons]
    refine List.IsPrefix.trans ?_ (ih (occurrences ++ [last]))
    rw [sweep_concat]
    split
    next => exact List.prefix_rfl
    next => exact List.prefix_append _ _

theorem sweep_eq_cons {first last : Occurrence} {behind front : List Occurrence}
    (hlast : first :: behind = front ++ [last])
    (hfront : (sweep ranks front).1.length < ranks)
    (hall : (sweep ranks (first :: behind)).1.length = ranks) (ahead : List Occurrence) :
    (sweep ranks (first :: behind ++ ahead)).2 =
      ⟨first.position, last.position⟩ :: (sweep ranks (behind ++ ahead)).2 := by
  have hmet : (sweep ranks (first :: behind)).1[ranks - 1]? = some last := by
    rw [hlast, sweep_concat] at hall ⊢
    split at hall
    next => omega
    next hnew =>
      rw [List.length_append, List.length_singleton] at hall
      rw [if_neg hnew, List.getElem?_append_right (by omega),
        show ranks - 1 - (sweep ranks front).1.length = 0 by omega]
      rfl
  obtain ⟨later, hlater⟩ := sweep_prefix_append ranks (first :: behind) ahead
  have hahead : (sweep ranks (first :: behind ++ ahead)).1[ranks - 1]? = some last := by
    rw [← hlater, List.getElem?_append_left (by omega), hmet]
  rw [List.cons_append, sweep_cons]
  rw [List.cons_append, fst_sweep_cons] at hahead
  rw [hahead]

end

end Window

namespace Tally

/--
A tally of the ranks in a stretch of occurrences.
-/
structure Counts (tally : Tally) (ranks : Nat) (inside : List Occurrence) : Prop where
  counts : ∀ rank ≤ ranks, tally.counts[rank]? = some ((inside.map Occurrence.rank).count rank)
  covered : tally.covered = (Window.sweep ranks inside).1.length

variable {tally : Tally} {ranks : Nat} {inside : List Occurrence} {occurrence : Occurrence}

theorem counts_start (ranks : Nat) : (Slide.start ranks).tally.Counts ranks [] where
  counts rank hrank := by
    simp only [Slide.start, List.map_nil, List.count_nil, List.getElem?_replicate]
    rw [if_pos (by omega)]
  covered := rfl

theorem Counts.add (h : tally.Counts ranks inside) (hrank : occurrence.rank ≤ ranks) :
    ∃ grown, tally.add? occurrence = some grown ∧ grown.Counts ranks (inside ++ [occurrence]) := by
  refine ⟨_, by simp only [add?, h.counts _ hrank]; rfl, ?_, ?_⟩
  · intro rank hle
    have hlt := (List.getElem?_eq_some_iff.mp (h.counts _ hrank)).choose
    rw [List.getElem?_set]
    by_cases heq : occurrence.rank = rank
    · simp [heq, List.count_append, heq ▸ hlt]
    · simp [heq, List.count_append, h.counts rank hle]
  · rw [Window.sweep_concat, h.covered, if_congr List.count_eq_zero rfl rfl, ite_not]
    split
    next => rfl
    next => rw [List.length_append, List.length_singleton]

theorem Counts.remove (h : tally.Counts ranks (occurrence :: inside))
    (hrank : occurrence.rank ≤ ranks) :
    ∃ shrunk, tally.remove? occurrence = some shrunk ∧ shrunk.Counts ranks inside := by
  have hcount : tally.counts[occurrence.rank]? =
      some ((inside.map Occurrence.rank).count occurrence.rank + 1) := by
    rw [h.counts _ hrank, List.map_cons, List.count_cons_self]
  have hcovered := h.covered
  rw [Window.length_sweep_cons] at hcovered
  have hremoved : tally.remove? occurrence =
      some ⟨tally.counts.set occurrence.rank ((inside.map Occurrence.rank).count occurrence.rank),
        (Window.sweep ranks inside).1.length⟩ := by
    simp only [remove?, hcount, hcovered]
    by_cases hmem : occurrence.rank ∈ inside.map Occurrence.rank
    · have hne : (inside.map Occurrence.rank).count occurrence.rank ≠ 0 :=
        fun hzero => List.count_eq_zero.mp hzero hmem
      simp [hmem, hne]
    · have hzero := List.count_eq_zero.mpr hmem
      simp [hmem, hzero]
  refine ⟨_, hremoved, ?_, rfl⟩
  intro rank hle
  have hlt := (List.getElem?_eq_some_iff.mp hcount).choose
  rw [List.getElem?_set]
  by_cases heq : occurrence.rank = rank
  · simp [heq, heq ▸ hlt]
  · simp [heq, h.counts rank hle]

end Tally

namespace Window

theorem start_le_stop_of_mem_sweep {ranks : Nat} {occurrences : List Occurrence} {window : Window}
    (hsorted : occurrences.Pairwise (·.position ≤ ·.position))
    (h : window ∈ (sweep ranks occurrences).2) : window.start ≤ window.stop := by
  obtain ⟨first, behind, last, hsuffix, hlast, rfl⟩ := exists_of_mem_sweep h
  have hmem := (sublist_sweep ranks (first :: behind)).subset (List.mem_of_getElem? hlast)
  have hsorted := hsorted.sublist hsuffix.sublist
  cases List.mem_cons.mp hmem with
  | inl heq => exact Nat.le_of_eq (congrArg Occurrence.position heq.symm)
  | inr hmem => exact List.rel_of_pairwise_cons hsorted hmem

theorem sweep_eq_nil {ranks : Nat} {occurrences : List Occurrence}
    (h : (sweep ranks occurrences).1.length < ranks) : (sweep ranks occurrences).2 = [] := by
  induction occurrences with
  | nil => rfl
  | cons occurrence rest ih =>
    have hrest := length_sweep_le_cons ranks occurrence rest
    rw [fst_sweep_cons] at h hrest
    rw [sweep_cons, List.getElem?_eq_none (by omega)]
    exact ih (by omega)

end Window

namespace Slide

open Window (sweep span)

theorem shorter?_eq {earlier : List Window} {window : Window}
    (hearlier : ∀ other ∈ earlier, other.start ≤ other.stop)
    (hwindow : window.start ≤ window.stop) :
    shorter? (earlier.minOn? span) window = (earlier ++ [window]).minOn? span := by
  rw [List.minOn?_append]
  cases hbest : earlier.minOn? span with
  | none => rfl
  | some best =>
    have hordered := hearlier best (List.minOn?_mem hbest)
    have hmin : (if window.span < best.span then window else best) = minOn span best window := by
      rw [minOn_eq_if, ← ite_not]
      simp only [Nat.not_lt]
    simp only [shorter?, Nat.psub_eq_sub hordered, Nat.psub_eq_sub hwindow]
    exact congrArg some hmin

/--
A slide has given up what is in front and has not come to what is ahead. Its best window is the
shortest one of those that start in front.
-/
structure Stands (ranks : Nat) (front inside ahead : List Occurrence) (slide : Slide) : Prop where
  left : slide.left = front.length
  tally : slide.tally.Counts ranks inside
  best : ∃ earlier, slide.best = earlier.minOn? span ∧
    (sweep ranks (front ++ (inside ++ ahead))).2 = earlier ++ (sweep ranks (inside ++ ahead)).2

variable {ranks : Nat} {front inside ahead occurrences : List Occurrence} {last : Occurrence}
variable {slide : Slide}

theorem stands_start (ranks : Nat) (occurrences : List Occurrence) :
    Stands ranks [] [] occurrences (start ranks) where
  left := rfl
  tally := Tally.counts_start ranks
  best := ⟨[], rfl, rfl⟩

theorem Stands.giveUp {first : Occurrence} {behind : List Occurrence}
    (hoccurrences : occurrences = front ++ (first :: behind ++ ahead))
    (hranks : ∀ occurrence ∈ occurrences, occurrence.rank ≤ ranks)
    (hsorted : occurrences.Pairwise (·.position ≤ ·.position))
    (hlast : (first :: behind).getLast? = some last)
    (hfew : (sweep ranks (first :: behind).dropLast).1.length < ranks)
    (h : Stands ranks front (first :: behind) ahead slide) (hcovered : slide.tally.covered = ranks) :
    ∃ next, settle? occurrences ranks last slide = settle? occurrences ranks last next ∧
      Stands ranks (front ++ [first]) behind ahead next := by
  have hfirst : occurrences[slide.left]? = some first := by
    rw [h.left, hoccurrences, List.getElem?_append_right (Nat.le_refl _)]
    simp
  have hall : (sweep ranks (first :: behind)).1.length = ranks := by
    rw [← h.tally.covered, hcovered]
  -- The sweep comes by the window that is given up here, whatever stands ahead of it.
  have hwindow := Window.sweep_eq_cons ranks (List.dropLast_append_getLast? last hlast).symm hfew
    hall ahead
  obtain ⟨earlier, hbest, hwindows⟩ := h.best
  rw [hwindow] at hwindows
  have hordered : ∀ window ∈ (sweep ranks occurrences).2, window.start ≤ window.stop :=
    fun window => Window.start_le_stop_of_mem_sweep hsorted
  rw [hoccurrences, hwindows, List.forall_mem_append, List.forall_mem_cons] at hordered
  have hshorter := shorter?_eq hordered.1 hordered.2.1
  rw [← hbest] at hshorter
  have hne : earlier ++ [(⟨first.position, last.position⟩ : Window)] ≠ [] := by simp
  obtain ⟨best, hsome⟩ := Option.isSome_iff_exists.mp (List.isSome_minOn?_iff (f := span).mpr hne)
  obtain ⟨tally, hremove, htally⟩ := h.tally.remove (hranks first (by simp [hoccurrences]))
  refine ⟨⟨slide.left + 1, tally, some best⟩, ?_, ?_, htally, ?_⟩
  · rw [settle?, if_pos hcovered]
    split
    next hnone => simp [hfirst] at hnone
    next first' hfirst' =>
      rw [hfirst, Option.some.injEq] at hfirst'
      subst hfirst'
      rw [hshorter, hsome, hremove]
      rfl
  · rw [h.left, List.length_append, List.length_singleton]
  · refine ⟨earlier ++ [⟨first.position, last.position⟩], hsome.symm, ?_⟩
    rw [List.append_assoc, List.append_assoc]
    exact hwindows

theorem stands_settle (hoccurrences : occurrences = front ++ (inside ++ ahead))
    (hranks : ∀ occurrence ∈ occurrences, occurrence.rank ≤ ranks)
    (hsorted : occurrences.Pairwise (·.position ≤ ·.position))
    (hlast : inside = [] ∨ inside.getLast? = some last)
    (hfew : (sweep ranks inside.dropLast).1.length < ranks)
    (h : Stands ranks front inside ahead slide) :
    ∃ front' inside' settled, settle? occurrences ranks last slide = some settled ∧
      front ++ inside = front' ++ inside' ∧ Stands ranks front' inside' ahead settled ∧
      (sweep ranks inside').1.length < ranks := by
  -- What the window gives up at its start goes to the front.
  induction inside generalizing front slide with
  | nil =>
    have hcovered : ¬ slide.tally.covered = ranks := by
      rw [h.tally.covered]
      exact Nat.ne_of_lt hfew
    refine ⟨front, [], slide, ?_, rfl, h, hfew⟩
    rw [settle?, if_neg hcovered]
  | cons first behind ih =>
    have hlast : (first :: behind).getLast? = some last := hlast.resolve_left (List.cons_ne_nil _ _)
    by_cases hcovered : slide.tally.covered = ranks
    · obtain ⟨next, hsettle, hnext⟩ := h.giveUp hoccurrences hranks hsorted hlast hfew hcovered
      have hbehind : (behind = [] ∨ behind.getLast? = some last) ∧
          (sweep ranks behind.dropLast).1.length < ranks := by
        cases behind with
        | nil => exact ⟨.inl rfl, Nat.lt_of_le_of_lt (Nat.zero_le _) hfew⟩
        | cons second behind =>
          refine ⟨.inr (by rw [← hlast, List.getLast?_cons_cons]), ?_⟩
          exact Nat.lt_of_le_of_lt (Window.length_sweep_le_cons ranks first _) hfew
      obtain ⟨front', inside', settled, hsettled, hsplit, hstands, hfew⟩ :=
        ih (by rw [hoccurrences]; simp) hbehind.1 hbehind.2 hnext
      rw [List.append_assoc] at hsplit
      exact ⟨front', inside', settled, hsettle.trans hsettled, hsplit, hstands, hfew⟩
    · refine ⟨front, first :: behind, slide, ?_, rfl, h, ?_⟩
      · rw [settle?, if_neg hcovered]
      · have hle : (sweep ranks (first :: behind)).1.length ≤
            (sweep ranks (first :: behind).dropLast).1.length + 1 := by
          conv_lhs => rw [← List.dropLast_append_getLast? last hlast, Window.sweep_concat]
          split
          next => exact Nat.le_succ _
          next => simp
        rw [h.tally.covered] at hcovered
        omega

theorem stands_advance (hoccurrences : occurrences = front ++ (inside ++ last :: ahead))
    (hranks : ∀ occurrence ∈ occurrences, occurrence.rank ≤ ranks)
    (hsorted : occurrences.Pairwise (·.position ≤ ·.position))
    (hfew : (sweep ranks inside).1.length < ranks)
    (h : Stands ranks front inside (last :: ahead) slide) :
    ∃ front' inside' next, advance? occurrences ranks slide last = some next ∧
      occurrences = front' ++ (inside' ++ ahead) ∧ Stands ranks front' inside' ahead next ∧
      (sweep ranks inside').1.length < ranks := by
  rw [List.append_cons] at hoccurrences
  obtain ⟨tally, hadd, htally⟩ := h.tally.add (hranks last (by simp [hoccurrences]))
  have htaken : Stands ranks front (inside ++ [last]) ahead { slide with tally } := by
    refine ⟨h.left, htally, ?_⟩
    rw [← List.append_cons]
    exact h.best
  obtain ⟨front', inside', settled, hsettled, hsplit, hstands, hfew⟩ :=
    stands_settle hoccurrences hranks hsorted (.inr List.getLast?_concat)
      (by rwa [List.dropLast_concat]) htaken
  refine ⟨front', inside', settled, ?_, ?_, hstands, hfew⟩
  · rw [advance?, hadd]
    exact hsettled
  · rw [hoccurrences, ← List.append_assoc, hsplit, List.append_assoc]

theorem best_of_stands (hoccurrences : occurrences = front ++ (inside ++ ahead))
    (hranks : ∀ occurrence ∈ occurrences, occurrence.rank ≤ ranks)
    (hsorted : occurrences.Pairwise (·.position ≤ ·.position))
    (hfew : (sweep ranks inside).1.length < ranks) (h : Stands ranks front inside ahead slide) :
    (ahead.foldlM (advance? occurrences ranks) slide).map best =
      some ((sweep ranks occurrences).2.minOn? span) := by
  induction ahead generalizing front inside slide with
  | nil =>
    obtain ⟨earlier, hbest, hwindows⟩ := h.best
    rw [List.append_nil, Window.sweep_eq_nil hfew, List.append_nil] at hwindows
    rw [hoccurrences, List.append_nil, hwindows, ← hbest]
    rfl
  | cons last ahead ih =>
    obtain ⟨front', inside', next, hadvance, hoccurrences, hnext, hfew⟩ :=
      stands_advance hoccurrences hranks hsorted hfew h
    rw [List.foldlM_cons, hadvance]
    exact ih hoccurrences hfew hnext

end Slide

namespace Window

theorem slide?_eq_counted? {occurrences : List Occurrence} {ranks : Nat}
    (hranks : ∀ occurrence ∈ occurrences, occurrence.rank ≤ ranks)
    (hsorted : occurrences.Pairwise (·.position ≤ ·.position)) :
    slide? occurrences ranks = counted? occurrences ranks := by
  unfold slide? counted? shortest?
  by_cases hempty : occurrences = [] ∨ ranks = 0
  · rw [if_pos hempty, if_pos hempty]
  · obtain ⟨-, hzero⟩ := not_or.mp hempty
    have hfew : (sweep ranks []).1.length < ranks := Nat.pos_of_ne_zero hzero
    have hbest : (occurrences.foldlM (Slide.advance? occurrences ranks) (Slide.start ranks)).map
        Slide.best = some ((sweep ranks occurrences).2.minOn? span) :=
      Slide.best_of_stands rfl hranks hsorted hfew (Slide.stands_start ranks occurrences)
    rw [if_neg hempty, if_neg hempty, if_neg hzero, hbest]

theorem counted?_eq_shortest? {occurrences : List Occurrence} {ranks : Nat}
    (hfits : occurrences ≠ [] → CountsFit ranks) :
    counted? occurrences ranks = some (shortest? occurrences ranks) := by
  unfold counted? shortest?
  by_cases hempty : occurrences = [] ∨ ranks = 0
  · rw [if_pos hempty]
    rcases hempty with rfl | rfl
    · simp [sweep]
    · rfl
  · rw [if_neg hempty, if_pos (hfits (not_or.mp hempty).1)]

end Window

end BooleanSearch
