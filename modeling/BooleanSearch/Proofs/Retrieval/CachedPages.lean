import Mathlib.Algebra.GroupWithZero.Nat
import BooleanSearch.Proofs.Retrieval.Pages
import BooleanSearch.Retrieval.Session

/-!
This module contains the pages of the document IDs that are kept for a query. The number of pages, the
test for the end of the list and the pages themselves come from three formulas. The theorem says that
they agree with one another, and that on machine words none of them overflows or leaves the list.

Where a page may be missing for two reasons, `none` says that a check failed, and `some none` that the
page has not been fetched.
-/

namespace BooleanSearch.CachedResults

/--
The word for a number. There is none for a number that is too large.
-/
def word? (n : Nat) : Option UInt64 := if n < UInt64.size then some (UInt64.ofNat n) else none

def slice? (ids : CachedResults) (start stop : UInt64) : Option (List UInt32) :=
  if start ≤ stop ∧ stop.toNat ≤ ids.length then
    some ((ids.take stop.toNat).drop start.toNat)
  else
    none

def wordLength (ids : CachedResults) : UInt64 := UInt64.ofNat ids.length

/--
The document IDs of a page. A page whose position is no word has not been fetched; all other numbers must
be words.
-/
def wordPage? (ids : CachedResults) (page pageSize : UInt64) : Option (Option (List UInt32)) :=
  match word? (page.toNat * pageSize.toNat) with
  | none => some none
  | some start =>
    if ids.wordLength ≤ start then
      some none
    else do
      let stop ← word? (start.toNat + pageSize.toNat)
      let slice ← slice? ids start (min stop ids.wordLength)
      return some slice

def wordPagesCovered? (ids : CachedResults) (pageSize : UInt64) : Option UInt64 :=
  if pageSize = 0 then
    none
  else if ids.wordLength % pageSize = 0 then
    some (ids.wordLength / pageSize)
  else
    word? ((ids.wordLength / pageSize).toNat + 1)

def wordIsExhausted? (ids : CachedResults) (pageSize : UInt64) : Option Bool :=
  if pageSize = 0 then none else some (ids.wordLength % pageSize != 0)

variable {ids : CachedResults} {page count size : Nat} {pageSize : UInt64}

theorem wordSize_eq : UInt64.size = 2 ^ 64 := rfl

theorem lt_pagesCovered_iff (hsize : 0 < size) :
    page < ids.pagesCovered size ↔ page * size < ids.length := by
  unfold pagesCovered
  rw [← Nat.succ_le_iff, Nat.le_div_iff_mul_le hsize, Nat.succ_mul]
  omega

theorem page?_of_length_lt (hlength : ids.length < 2 ^ 63) :
    ids.page? page size =
      if page * size < ids.length then some (pageOf ids page size) else none := by
  have hfits : (page * size < UInt64.size ∧ page * size < ids.length) ↔
      page * size < ids.length := by
    refine and_iff_right_of_imp fun hlt => ?_
    rw [wordSize_eq]
    omega
  simp only [page?, hfits, pageOf]

theorem isSome_page?_iff (hlength : ids.length < 2 ^ 63) (hsize : 0 < size) :
    (ids.page? page size).isSome ↔ page < ids.pagesCovered size := by
  rw [page?_of_length_lt hlength, lt_pagesCovered_iff hsize]
  split <;> simp [*]

/-! On words the formulas come to the same. -/

theorem word?_eq_some_iff {n : Nat} {word : UInt64} : word? n = some word ↔ word.toNat = n := by
  unfold word?
  split
  next hfits => rw [Option.some_inj, ← UInt64.toNat_inj, UInt64.toNat_ofNat_of_lt' hfits, eq_comm]
  next hfits =>
    refine iff_of_false nofun fun heq => hfits ?_
    rw [← heq]
    exact word.toNat_lt

theorem exists_word? {n : Nat} (h : n < UInt64.size) :
    ∃ word, word? n = some word ∧ word.toNat = n := by
  have hword : word? n = some (UInt64.ofNat n) := if_pos h
  exact ⟨_, hword, word?_eq_some_iff.mp hword⟩

theorem toNat_pos (hsize : pageSize ≠ 0) : 0 < pageSize.toNat := by
  rw [Ne, ← UInt64.toNat_inj] at hsize
  exact Nat.pos_of_ne_zero hsize

theorem toNat_min (a b : UInt64) : (min a b).toNat = min a.toNat b.toNat := by
  change (if a ≤ b then a else b).toNat = _
  split
  next hle => rw [Nat.min_eq_left (UInt64.le_iff_toNat_le.mp hle)]
  next hlt =>
    rw [UInt64.le_iff_toNat_le] at hlt
    rw [Nat.min_eq_right (by omega)]

theorem toNat_wordLength (hlength : ids.length < 2 ^ 63) : ids.wordLength.toNat = ids.length := by
  apply UInt64.toNat_ofNat_of_lt'
  rw [wordSize_eq]
  omega

theorem slice?_eq_some {start stop : UInt64} (hle : start.toNat ≤ stop.toNat)
    (hstop : stop.toNat ≤ ids.length) :
    ids.slice? start stop = some ((ids.take stop.toNat).drop start.toNat) :=
  if_pos ⟨UInt64.le_iff_toNat_le.mpr hle, hstop⟩

theorem stop_lt_of_start_lt (hlength : ids.length < 2 ^ 63)
    (hstart : page * pageSize.toNat < ids.length) :
    page * pageSize.toNat + pageSize.toNat < UInt64.size := by
  -- The end of a page that begins inside of the list is a word: the first page ends at its
  -- size, and any other page is no longer than what stands in front of it.
  have hbound := pageSize.toNat_lt
  rw [wordSize_eq]
  cases page with
  | zero => omega
  | succ before =>
    have hle : pageSize.toNat ≤ (before + 1) * pageSize.toNat :=
      Nat.le_mul_of_pos_left _ (Nat.succ_pos before)
    omega

theorem wordPage?_of_start_lt (hlength : ids.length < 2 ^ 63) {page : UInt64}
    (hinside : page.toNat * pageSize.toNat < ids.length) :
    wordPage? ids page pageSize = some (some (pageOf ids page.toNat pageSize.toNat)) := by
  have hwordLength := toNat_wordLength hlength
  have hfits := stop_lt_of_start_lt hlength hinside
  obtain ⟨start, hproduct, hstart⟩ := exists_word? (Nat.lt_of_le_of_lt (Nat.le_add_right _ _) hfits)
  rw [← hstart] at hfits
  obtain ⟨stop, hsum, hstop⟩ := exists_word? hfits
  have hcheck : ¬ ids.wordLength ≤ start := by
    rw [UInt64.le_iff_toNat_le, hwordLength]
    omega
  have hmin : (min stop ids.wordLength).toNat =
      min (page.toNat * pageSize.toNat + pageSize.toNat) ids.length := by
    rw [toNat_min, hstop, hstart, hwordLength]
  have hslice : ids.slice? start (min stop ids.wordLength) =
      some (pageOf ids page.toNat pageSize.toNat) := by
    rw [slice?_eq_some (by omega) (by omega), hmin, hstart, drop_take_min]
    rfl
  unfold wordPage?
  rw [hproduct]
  simp only [if_neg hcheck, hsum, hslice, Option.bind_eq_bind, Option.bind_some, Option.pure_def]

theorem wordPage?_of_le_start (hlength : ids.length < 2 ^ 63) {page : UInt64}
    (hbeyond : ids.length ≤ page.toNat * pageSize.toNat) :
    wordPage? ids page pageSize = some none := by
  unfold wordPage?
  cases hproduct : word? (page.toNat * pageSize.toNat) with
  | none => rfl
  | some start =>
    have hcheck : ids.wordLength ≤ start := by
      rw [UInt64.le_iff_toNat_le, toNat_wordLength hlength, word?_eq_some_iff.mp hproduct]
      exact hbeyond
    exact if_pos hcheck

theorem wordPage?_eq (hlength : ids.length < 2 ^ 63) (page : UInt64) :
    wordPage? ids page pageSize = some (ids.page? page.toNat pageSize.toNat) := by
  rw [page?_of_length_lt hlength]
  split
  next hinside => exact wordPage?_of_start_lt hlength hinside
  next hbeyond => exact wordPage?_of_le_start hlength (Nat.le_of_not_lt hbeyond)

theorem toNat_wordLength_mod (hlength : ids.length < 2 ^ 63) :
    (ids.wordLength % pageSize).toNat = ids.length % pageSize.toNat := by
  rw [UInt64.toNat_mod, toNat_wordLength hlength]

theorem wordLength_mod_eq_zero_iff (hlength : ids.length < 2 ^ 63) (pageSize : UInt64) :
    ids.wordLength % pageSize = 0 ↔ ids.isExhausted pageSize.toNat = false := by
  rw [isExhausted_eq_false_iff, ← toNat_wordLength_mod hlength, ← UInt64.toNat_inj]
  rfl

theorem wordIsExhausted?_eq (hlength : ids.length < 2 ^ 63) (hsize : pageSize ≠ 0) :
    wordIsExhausted? ids pageSize = some (ids.isExhausted pageSize.toNat) := by
  have hzero := wordLength_mod_eq_zero_iff hlength pageSize
  unfold wordIsExhausted?
  rw [if_neg hsize, Option.some_inj]
  cases hexhausted : ids.isExhausted pageSize.toNat with
  | false => simp [hzero.mpr hexhausted]
  | true => simpa [hexhausted] using hzero

theorem pagesCovered_eq_div (hsize : 0 < size) (h : ids.isExhausted size = false) :
    ids.pagesCovered size = ids.length / size := by
  rw [← pagesCovered_mul hsize h, Nat.mul_div_cancel _ hsize]

theorem pagesCovered_eq_succ (hsize : 0 < size) (h : ids.isExhausted size = true) :
    ids.pagesCovered size = ids.length / size + 1 := by
  have hrest : ids.length % size ≠ 0 := by simpa [isExhausted] using h
  have hlt := Nat.mod_lt ids.length hsize
  have hdiv := Nat.div_add_mod' ids.length size
  unfold pagesCovered
  apply Nat.div_eq_of_lt_le
  · rw [Nat.succ_mul]
    omega
  · rw [Nat.succ_mul, Nat.succ_mul]
    omega

theorem wordPagesCovered?_eq (hlength : ids.length < 2 ^ 63) (hsize : pageSize ≠ 0) :
    (wordPagesCovered? ids pageSize).map UInt64.toNat = some (ids.pagesCovered pageSize.toNat) := by
  have hpositive := toNat_pos hsize
  have hquotient : (ids.wordLength / pageSize).toNat = ids.length / pageSize.toNat := by
    rw [UInt64.toNat_div, toNat_wordLength hlength]
  have hzero := wordLength_mod_eq_zero_iff hlength pageSize
  unfold wordPagesCovered?
  rw [if_neg hsize]
  split
  next hrest =>
    rw [Option.map_some, hquotient, pagesCovered_eq_div hpositive (hzero.mp hrest)]
  next hrest =>
    have hfits : (ids.wordLength / pageSize).toNat + 1 < UInt64.size := by
      have hle := Nat.div_le_self ids.length pageSize.toNat
      rw [hquotient, wordSize_eq]
      omega
    obtain ⟨covered, hcovered, hnat⟩ := exists_word? hfits
    have hexhausted : ids.isExhausted pageSize.toNat = true := by
      simpa using mt hzero.mpr hrest
    rw [hcovered, Option.map_some, hnat, hquotient, pagesCovered_eq_succ hpositive hexhausted]

/-! All pages together are the list. -/

def pages (ids : CachedResults) (size : Nat) : List (List UInt32) :=
  (List.range (ids.pagesCovered size)).map (pageOf ids · size)

theorem getElem?_pages (hlength : ids.length < 2 ^ 63) (hsize : 0 < size) (page : Nat) :
    (ids.pages size)[page]? = ids.page? page size := by
  rw [page?_of_length_lt hlength]
  unfold pages
  rw [List.getElem?_map]
  split
  next hinside =>
    rw [List.getElem?_range ((lt_pagesCovered_iff hsize).mpr hinside), Option.map_some]
  next hbeyond =>
    have hle := Nat.le_of_not_lt (mt (lt_pagesCovered_iff hsize).mp hbeyond)
    rw [List.getElem?_eq_none (by rwa [List.length_range]), Option.map_none]

theorem flatten_map_pageOf (ids : List UInt32) (count size : Nat) :
    ((List.range count).map (pageOf ids · size)).flatten = ids.take (count * size) := by
  induction count with
  | zero => simp
  | succ count ih =>
    rw [List.range_succ, List.map_append, List.flatten_append, ih, List.map_singleton,
      List.flatten_singleton, take_append_pageOf]

theorem length_le_pagesCovered_mul (hsize : 0 < size) :
    ids.length ≤ ids.pagesCovered size * size :=
  Nat.le_of_not_lt (mt (lt_pagesCovered_iff hsize).mpr (Nat.lt_irrefl _))

theorem flatten_pages (hsize : 0 < size) : (ids.pages size).flatten = ids := by
  unfold pages
  rw [flatten_map_pageOf, List.take_of_length_le (length_le_pagesCovered_mul hsize)]

theorem pages_eq_concat (h : ids.pagesCovered size = count + 1) :
    ids.pages size = (List.range count).map (pageOf ids · size) ++ [pageOf ids count size] := by
  unfold pages
  rw [h, List.range_succ, List.map_append, List.map_singleton]

theorem length_of_mem_dropLast_pages (hsize : 0 < size) {slice : List UInt32}
    (h : slice ∈ (ids.pages size).dropLast) : slice.length = size := by
  cases hcovered : ids.pagesCovered size with
  | zero =>
    unfold pages at h
    rw [hcovered] at h
    cases h
  | succ count =>
    rw [pages_eq_concat hcovered, List.dropLast_concat] at h
    obtain ⟨page, hpage, rfl⟩ := List.mem_map.mp h
    rw [List.mem_range] at hpage
    -- The last page begins inside of the list, and this one ends where it begins, or before.
    have hlast : count * size < ids.length := (lt_pagesCovered_iff hsize).mp (by omega)
    have hend : (page + 1) * size ≤ count * size := Nat.mul_le_mul_right size hpage
    rw [Nat.succ_mul] at hend
    rw [length_pageOf]
    omega

theorem isExhausted_iff_last (hsize : 0 < size) :
    ids.isExhausted size ↔ ∃ last ∈ (ids.pages size).getLast?, last.length < size := by
  have hle : ids.length ≤ ids.pagesCovered size * size := length_le_pagesCovered_mul hsize
  cases hcovered : ids.pagesCovered size with
  | zero =>
    rw [hcovered, Nat.zero_mul, Nat.le_zero, List.length_eq_zero_iff] at hle
    unfold pages
    rw [hcovered, hle]
    simp [isExhausted]
  | succ count =>
    have hlast : count * size < ids.length := (lt_pagesCovered_iff hsize).mp (by omega)
    rw [hcovered, Nat.succ_mul] at hle
    obtain ⟨rest, hrest⟩ := Nat.exists_eq_add_of_le (Nat.le_of_lt hlast)
    have hmod : ids.length % size = rest % size := by
      rw [hrest, Nat.mul_add_mod_self_right]
    rw [pages_eq_concat hcovered, List.getLast?_concat]
    simp only [Option.mem_def, Option.some.injEq, exists_eq_left', length_pageOf]
    rw [← Bool.not_eq_false, isExhausted_eq_false_iff, hmod]
    by_cases hfull : rest = size
    · rw [hfull, Nat.mod_self]
      omega
    · rw [Nat.mod_eq_of_lt (by omega)]
      omega

/--
The pages of the document IDs that are kept for a query are the list cut into parts of one size, and only
the last one may be shorter. Exactly the pages that are counted are there, and no page is more to come
exactly if the last one is shorter. No number on the way to a page is too large for a machine word, and
no page reaches beyond the list.
-/
theorem pages_partition_cache (ids : CachedResults) (pageSize : UInt64)
    (hlength : ids.length < 2 ^ 63) (hsize : pageSize ≠ 0) :
    (∀ page : UInt64,
      wordPage? ids page pageSize = some (ids.page? page.toNat pageSize.toNat) ∧
      ((ids.page? page.toNat pageSize.toNat).isSome ↔
        page.toNat < ids.pagesCovered pageSize.toNat)) ∧
    (wordPagesCovered? ids pageSize).map UInt64.toNat = some (ids.pagesCovered pageSize.toNat) ∧
    wordIsExhausted? ids pageSize = some (ids.isExhausted pageSize.toNat) ∧
    ∃ pages : List (List UInt32), pages.length = ids.pagesCovered pageSize.toNat ∧
      (∀ page, pages[page]? = ids.page? page pageSize.toNat) ∧
      pages.flatten = ids ∧
      (∀ page ∈ pages.dropLast, page.length = pageSize.toNat) ∧
      (ids.isExhausted pageSize.toNat ↔ ∃ last ∈ pages.getLast?, last.length < pageSize.toNat) := by
  have hpositive := toNat_pos hsize
  refine ⟨fun page => ⟨wordPage?_eq hlength page, isSome_page?_iff hlength hpositive⟩,
    wordPagesCovered?_eq hlength hsize, wordIsExhausted?_eq hlength hsize,
    ids.pages pageSize.toNat, ?_, getElem?_pages hlength hpositive, flatten_pages hpositive,
    fun page hpage => length_of_mem_dropLast_pages hpositive hpage,
    isExhausted_iff_last hpositive⟩
  unfold pages
  rw [List.length_map, List.length_range]

end BooleanSearch.CachedResults

namespace BooleanSearch.FiveDocuments

open CachedResults

def ids : CachedResults := [10, 20, 30, 40, 50]

theorem paged_in_pairs_or_at_once :
    ids.length < 2 ^ 63 ∧ (2 : UInt64) ≠ 0 ∧ (18446744073709551615 : UInt64) ≠ 0 ∧
      wordPage? ids 2 2 = some (some [50]) ∧
      wordPage? ids 18446744073709551615 2 = some none ∧
      (wordPagesCovered? ids 2).map UInt64.toNat = some 3 ∧
      (∃ pages : List (List UInt32), pages.length = 3 ∧ pages.flatten = ids ∧
        (∀ page ∈ pages.dropLast, page.length = 2) ∧
        ∃ last ∈ pages.getLast?, last.length < 2) ∧
      wordPage? ids 0 18446744073709551615 = some (some ids) := by
  have hlength : ids.length < 2 ^ 63 := by decide
  obtain ⟨hpage, hcovered, -, pages, hcount, -, hflatten, hfull, hlast⟩ :=
    pages_partition_cache ids 2 hlength (by decide)
  obtain ⟨honce, -⟩ := pages_partition_cache ids 18446744073709551615 hlength (by decide)
  refine ⟨hlength, by decide, by decide, (hpage 2).1, (hpage 18446744073709551615).1, hcovered,
    ⟨pages, hcount, hflatten, hfull, hlast.mp (by decide)⟩, (honce 0).1⟩

end BooleanSearch.FiveDocuments
