import Mathlib.Data.Finset.Card
import Mathlib.Data.List.Destutter
import BooleanSearch.Proofs.Text.Lines
import BooleanSearch.Proofs.Text.Utf8
import BooleanSearch.Proofs.Vocabulary.Meaning

/-!
This module contains the construction of a vocabulary from sorted entries, as a compact map of strings
needs it: the listed words are sorted by their UTF-8 forms, and of equal neighbours the first one is
kept. A map that is built from these entries answers like the vocabulary.
-/

namespace BooleanSearch

/--
An implementation of finite maps that are built at once from entries in the order of their keys.
-/
structure SortedMaps where
  Map : Type
  /-- There is no result if the keys are not increasing. -/
  build? : List (Bytes × UInt64) → Option Map
  get? : Map → Bytes → Option UInt64
  containsKey : Map → Bytes → Bool
  size : Map → Nat

namespace SortedMaps

/--
What is expected of finite maps: increasing keys are accepted, and nothing else, and exactly the given
entries are found.
-/
structure Lawful (maps : SortedMaps) : Prop where
  increasing_of_build? : ∀ entries map, maps.build? entries = some map →
    entries.Pairwise (·.1 < ·.1)
  build? : ∀ entries, entries.Pairwise (·.1 < ·.1) → ∃ map, maps.build? entries = some map
  get? : ∀ entries map, maps.build? entries = some map →
    ∀ key, maps.get? map key = entries.lookup key
  containsKey : ∀ entries map, maps.build? entries = some map →
    ∀ key, maps.containsKey map key = (entries.lookup key).isSome
  size : ∀ entries map, maps.build? entries = some map → maps.size map = entries.length

end SortedMaps

namespace Vocabulary

def listed (terms : List Text) : List (Text × UInt64) :=
  terms.zipIdx.map fun (term, position) => (term, UInt64.ofNat position)

/--
The order of words by their UTF-8 forms.
-/
def precedes (entry other : Text × UInt64) : Bool :=
  decide (Utf8.encode entry.1 ≤ Utf8.encode other.1)

/--
The listed words in the order of their UTF-8 forms. Words with the same form stay in the order in which
they are listed, and all but the first of them are left out.
-/
def distinctEntries (terms : List Text) : List (Text × UInt64) :=
  ((listed terms).mergeSort precedes).destutter fun entry other => entry.1 ≠ other.1

def entries (terms : List Text) : List (Bytes × UInt64) :=
  (distinctEntries terms).map fun (term, id) => (Utf8.encode term, id)

theorem precedes_trans (a b c : Text × UInt64) (hab : precedes a b = true)
    (hbc : precedes b c = true) : precedes a c = true := by
  simp only [precedes, decide_eq_true_eq] at hab hbc ⊢
  exact List.le_trans hab hbc

theorem precedes_total (a b : Text × UInt64) : (precedes a b || precedes b a) = true := by
  simp only [precedes, Bool.or_eq_true, decide_eq_true_eq]
  apply List.le_total

theorem filter_mergeSort (found : List (Text × UInt64)) (term : Text) :
    (found.mergeSort precedes).filter (·.1 == term) = found.filter (·.1 == term) := by
  -- The entries of one word are in order before, and sorting is stable.
  have hsame : (found.filter (·.1 == term)).Pairwise (precedes · ·) := by
    apply List.pairwise_of_forall_mem_list
    intro entry hentry other hother
    have hterm : entry.1 = term := by simpa using (List.mem_filter.mp hentry).2
    have hterm' : other.1 = term := by simpa using (List.mem_filter.mp hother).2
    simp [precedes, hterm, hterm']
  have hstable := List.sublist_mergeSort precedes_trans precedes_total hsame
    List.filter_sublist
  have hwithin := hstable.filter (·.1 == term)
  rw [List.filter_filter] at hwithin
  simp only [Bool.and_self] at hwithin
  have hperm := (List.mergeSort_perm found precedes).filter (·.1 == term)
  exact (hwithin.eq_of_length hperm.length_eq.symm).symm

theorem find?_mergeSort (found : List (Text × UInt64)) (term : Text) :
    (found.mergeSort precedes).find? (·.1 == term) = found.find? (·.1 == term) := by
  rw [← List.head?_filter, ← List.head?_filter, filter_mergeSort]

theorem find?_destutter' (found : List (Text × UInt64)) (first : Text × UInt64) (term : Text) :
    (found.destutter' (·.1 ≠ ·.1) first).find? (·.1 == term) =
      (first :: found).find? (·.1 == term) := by
  induction found generalizing first with
  | nil => rfl
  | cons entry found ih =>
    rw [List.destutter'_cons]
    by_cases hnew : first.1 ≠ entry.1
    · rw [if_pos hnew, List.find?_cons, ih, List.find?_cons (a := first)]
    · rw [if_neg hnew, ih, List.find?_cons, List.find?_cons (a := first), List.find?_cons]
      rw [ne_eq, Decidable.not_not] at hnew
      rw [hnew]
      cases entry.1 == term <;> rfl

theorem find?_distinctEntries (terms : List Text) (term : Text) :
    (distinctEntries terms).find? (·.1 == term) = (listed terms).find? (·.1 == term) := by
  rw [← find?_mergeSort (listed terms)]
  unfold distinctEntries
  cases (listed terms).mergeSort precedes with
  | nil => rfl
  | cons first found => apply find?_destutter'

def Before (entry other : Text × UInt64) : Prop := Utf8.encode entry.1 < Utf8.encode other.1

instance : Trans Before Before Before := ⟨List.lt_trans⟩

theorem pairwise_distinctEntries (terms : List Text) : (distinctEntries terms).Pairwise Before := by
  have hsorted : (distinctEntries terms).Pairwise (precedes · ·) :=
    (List.pairwise_mergeSort precedes_trans precedes_total (listed terms)).sublist
      (List.destutter_sublist _ _)
  -- Neighbours are in order and differ, and the strict order is transitive.
  rw [← List.isChain_iff_pairwise, List.isChain_iff_getElem]
  intro position hposition
  have hle := List.isChain_iff_getElem.mp hsorted.isChain position hposition
  have hne := List.isChain_iff_getElem.mp (List.isChain_destutter _ _) position hposition
  apply Std.lt_of_le_of_ne
  · simpa only [precedes, decide_eq_true_eq] using hle
  · rwa [ne_eq, Utf8.encode_inj]

theorem pairwise_entries (terms : List Text) : (entries terms).Pairwise (·.1 < ·.1) :=
  List.pairwise_map.mpr (pairwise_distinctEntries terms)

theorem lookup_eq_find? (found : List (Text × UInt64)) (term : Text) :
    found.lookup term = (found.find? (·.1 == term)).map Prod.snd := by
  induction found with
  | nil => rfl
  | cons entry found ih =>
    rw [List.lookup_cons, List.find?_cons, ih, BEq.comm]
    cases entry.1 == term <;> rfl

theorem find?_zipIdx (terms : List Text) (first : Nat) (term : Text) :
    (((terms.zipIdx first).map fun (term, position) => (term, UInt64.ofNat position)).find?
        (·.1 == term)).map Prod.snd =
      (terms.idxOf? term).map fun position => UInt64.ofNat (first + position) := by
  induction terms generalizing first with
  | nil => rfl
  | cons other terms ih =>
    rw [List.zipIdx_cons, List.map_cons, List.find?_cons, List.idxOf?_cons]
    cases hterm : other == term with
    | true => simp
    | false =>
      rw [ih, if_neg Bool.false_ne_true, Option.map_map]
      congr 1
      funext position
      rw [Function.comp_apply, Nat.add_assoc, Nat.add_comm 1 position]

theorem lookup_entries (terms : List Text) (term : Text) :
    (entries terms).lookup (Utf8.encode term) = (terms.idxOf? term).map UInt64.ofNat := by
  have hencoded := Utf8.lookup_map_encode id (distinctEntries terms) term
  rw [Option.map_id, lookup_eq_find?, find?_distinctEntries, listed, find?_zipIdx] at hencoded
  simp only [Nat.zero_add] at hencoded
  exact hencoded

theorem map_fst_listed (terms : List Text) : (listed terms).map Prod.fst = terms := by
  unfold listed
  rw [List.map_map]
  exact List.zipIdx_map_fst 0 terms

theorem mem_map_fst_distinctEntries {terms : List Text} {term : Text} :
    term ∈ (distinctEntries terms).map Prod.fst ↔ term ∈ terms := by
  have hfound (found : List (Text × UInt64)) :
      term ∈ found.map Prod.fst ↔ (found.find? (·.1 == term)).isSome := by
    simp
  rw [hfound, find?_distinctEntries, ← hfound, map_fst_listed]

theorem length_entries (terms : List Text) : (entries terms).length = terms.toFinset.card := by
  have hnodup : ((distinctEntries terms).map Prod.fst).Nodup := by
    apply List.pairwise_map.mpr
    apply (pairwise_distinctEntries terms).imp
    intro entry other hbefore heq
    exact Std.ne_of_lt hbefore (congrArg Utf8.encode heq)
  have hterms : ((distinctEntries terms).map Prod.fst).toFinset = terms.toFinset := by
    ext term
    rw [List.mem_toFinset, List.mem_toFinset, mem_map_fst_distinctEntries]
  rw [← hterms, List.toFinset_card_of_nodup hnodup, entries, List.length_map, List.length_map]

theorem mem_ids_ofTerms {terms : List Text} {term : Text} :
    term ∈ (ofTerms terms).ids ↔ term ∈ terms := by
  have hid := id?_ofTerms terms term
  rw [id?] at hid
  rw [Std.TreeMap.mem_iff_isSome_getElem?, hid, Option.isSome_map, List.isSome_idxOf?]

theorem size_ofTerms (terms : List Text) : (ofTerms terms).size = terms.toFinset.card := by
  have hkeys : (ofTerms terms).ids.keys.toFinset = terms.toFinset := by
    ext term
    rw [List.mem_toFinset, List.mem_toFinset, Std.TreeMap.mem_keys, mem_ids_ofTerms]
  unfold size
  rw [← Std.TreeMap.length_keys, ← List.toFinset_card_of_nodup Std.TreeMap.nodup_keys, hkeys]

structure Indexes (vocabulary : Vocabulary) (terms : List Text) : Prop where
  id? : ∀ term, (vocabulary.id? term).map UInt32.toNat = terms.idxOf? term
  contains : ∀ term, vocabulary.contains term = (vocabulary.id? term).isSome
  injective : ∀ term ∈ terms, ∀ other ∈ terms,
    vocabulary.id? term = vocabulary.id? other → term = other
  size : vocabulary.size = terms.toFinset.card

/--
A map that answers like a vocabulary. IDs are cut to 32 bits when they are read.
-/
structure Mirrors (vocabulary : Vocabulary) (maps : SortedMaps) (map : maps.Map) : Prop where
  id? : ∀ term, (maps.get? map (Utf8.encode term)).map UInt64.toUInt32 = vocabulary.id? term
  contains : ∀ term, maps.containsKey map (Utf8.encode term) = vocabulary.contains term
  size : maps.size map = vocabulary.size

theorem indexes_ofTerms {terms : List Text} (hsize : terms.length < UInt32.size) :
    (ofTerms terms).Indexes terms where
  id? term := by
    rw [id?_ofTerms, Option.map_map]
    cases hposition : terms.idxOf? term with
    | none => rfl
    | some position =>
      obtain ⟨hlt, -⟩ := List.idxOf?_eq_some_iff.mp hposition
      exact congrArg some (UInt32.toNat_ofNat_of_lt' (Nat.lt_trans hlt hsize))
  contains := contains_eq_isSome _
  injective term hterm other _ hid := by
    have hsome : ((ofTerms terms).id? term).isSome = true := by
      rw [id?_ofTerms, Option.isSome_map, List.isSome_idxOf?]
      exact hterm
    obtain ⟨id, hterm⟩ := Option.isSome_iff_exists.mp hsome
    apply eq_of_id?_ofTerms (Nat.le_of_lt hsize) hterm
    rw [← hid, hterm]
  size := size_ofTerms terms

theorem mirrors_of_build? {maps : SortedMaps} (hmaps : maps.Lawful) {terms : List Text}
    {map : maps.Map} (hmap : maps.build? (entries terms) = some map) :
    (ofTerms terms).Mirrors maps map where
  id? term := by
    rw [hmaps.get? _ _ hmap, lookup_entries, id?_ofTerms, Option.map_map]
    congr 1
    funext position
    apply UInt64.toUInt32_ofNat'
  contains term := by
    rw [hmaps.containsKey _ _ hmap, lookup_entries, contains_eq_isSome, id?_ofTerms,
      Option.isSome_map, Option.isSome_map]
  size := by
    rw [hmaps.size _ _ hmap, length_entries, size_ofTerms]

theorem ofFile_writeLines {records : List (Text × LineEnding)}
    (h : ∀ record ∈ records, record.1.IsRecord) :
    ofFile (.ok (Utf8.encode (Text.writeLines records))) =
      .ok (ofTerms (records.map Prod.fst)) := by
  simp only [ofFile, textOfFile, Utf8.decode?_encode, ← Text.recordLines_writeLines h]
  rfl

/--
Up to 2^32 listed words give entries from which a map can be built. The map answers like the vocabulary,
where the ID of a word is the position at which it is listed first, and the same vocabulary is read from
a file with one word per line.
-/
theorem ids_are_first_positions {maps : SortedMaps} (hmaps : maps.Lawful) {terms : List Text}
    (hsize : terms.length < UInt32.size) :
    (entries terms).Pairwise (·.1 < ·.1) ∧
      (∃ map, maps.build? (entries terms) = some map ∧ (ofTerms terms).Mirrors maps map) ∧
      (ofTerms terms).Indexes terms ∧
      ∀ records : List (Text × LineEnding), records.map Prod.fst = terms →
        (∀ record ∈ records, record.1.IsRecord) →
          ofFile (.ok (Utf8.encode (Text.writeLines records))) = .ok (ofTerms terms) := by
  obtain ⟨map, hmap⟩ := hmaps.build? _ (pairwise_entries terms)
  refine ⟨pairwise_entries terms, ⟨map, hmap, mirrors_of_build? hmaps hmap⟩,
    indexes_ofTerms hsize, ?_⟩
  rintro records rfl hrecords
  apply ofFile_writeLines hrecords

end Vocabulary

def SortedMaps.lists : SortedMaps where
  Map := List (Bytes × UInt64)
  build? entries := if entries.Pairwise (·.1 < ·.1) then some entries else none
  get? entries key := entries.lookup key
  containsKey entries key := (entries.lookup key).isSome
  size := List.length

theorem SortedMaps.build?_lists {entries map : List (Bytes × UInt64)} :
    lists.build? entries = some map ↔ entries.Pairwise (·.1 < ·.1) ∧ entries = map := by
  unfold lists
  dsimp only
  split
  next h => simp [h]
  next h => simp [h]

theorem SortedMaps.lawful_lists : lists.Lawful where
  increasing_of_build? _ _ h := (build?_lists.mp h).1
  build? entries h := ⟨entries, build?_lists.mpr ⟨h, rfl⟩⟩
  get? _ _ h _ := by
    rw [(build?_lists.mp h).2]
    rfl
  containsKey _ _ h _ := by
    rw [(build?_lists.mp h).2]
    rfl
  size _ _ h := by
    rw [(build?_lists.mp h).2]
    rfl

namespace RepeatedTerms

def records : List (Text × LineEnding) :=
  [("zoë".toList, .crlf), ("ant".toList, .lf), ("zoë".toList, .lf), ([], .crlf), ("ant".toList, .lf)]

def terms : List Text := records.map Prod.fst

theorem first_ids_kept :
    SortedMaps.lists.Lawful ∧ terms.length < UInt32.size ∧
      (Vocabulary.entries terms).Pairwise (·.1 < ·.1) ∧
      (∃ map, SortedMaps.lists.build? (Vocabulary.entries terms) = some map ∧
        (Vocabulary.ofTerms terms).Mirrors SortedMaps.lists map) ∧
      ((Vocabulary.ofTerms terms).id? "ant".toList).map UInt32.toNat = some 1 ∧
      (Vocabulary.ofTerms terms).size = 3 ∧
      Vocabulary.ofFile (.ok (Utf8.encode (Text.writeLines records))) =
        .ok (Vocabulary.ofTerms terms) := by
  have hsize : terms.length < UInt32.size := by decide
  obtain ⟨hentries, hmap, hindexes, hfile⟩ :=
    Vocabulary.ids_are_first_positions SortedMaps.lawful_lists hsize
  refine ⟨SortedMaps.lawful_lists, hsize, hentries, hmap, hindexes.id? _, hindexes.size, ?_⟩
  apply hfile records rfl
  decide +kernel

end RepeatedTerms

end BooleanSearch
