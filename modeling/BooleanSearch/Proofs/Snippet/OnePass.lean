import BooleanSearch.Table
import BooleanSearch.Proofs.Snippet.Scanning
import BooleanSearch.Proofs.Snippet.Tokens

/-!
This module contains the scan of a text in a single pass, with the word that is being read, a table of
ranks and a counter, and the theorem that it finds the tokens of the text, the words that are asked for,
and their ranks.
-/

namespace BooleanSearch

structure Scanner where
  scanned : ScannedText
  /-- The word that is being read. -/
  word : Text
  /-- The ranks of the terms, where zero stands for a term that has not been found. -/
  ranks : Table Nat

namespace Scanner

def start (terms : List Text) : Scanner where
  scanned := ⟨[], [], 0⟩
  word := []
  ranks := terms.foldl (fun ranks term => ranks.insert term 0) ∅

def flush (normalize : Normalizer) (scanner : Scanner) : Scanner :=
  let ⟨⟨tokens, occurrences, distinct⟩, word, ranks⟩ := scanner
  if word.isEmpty then
    scanner
  else
    match ranks[normalize word]? with
    | none => ⟨⟨tokens ++ [word], occurrences, distinct⟩, [], ranks⟩
    | some rank =>
      let distinct := if rank = 0 then distinct + 1 else distinct
      let rank := if rank = 0 then distinct else rank
      ⟨⟨tokens ++ [word], occurrences ++ [⟨tokens.length, rank⟩], distinct⟩, [],
        ranks.insert (normalize word) rank⟩

def advance (normalize : Normalizer) (scanner : Scanner) (c : Char) : Scanner :=
  if Text.isAlphanumeric c then
    { scanner with word := scanner.word ++ [c] }
  else
    let scanner := scanner.flush normalize
    { scanner with scanned.tokens := scanner.scanned.tokens ++ [[c]] }

def run (terms : List Text) (normalize : Normalizer) (text : Text) : Scanner :=
  text.foldl (advance normalize) (start terms)

end Scanner

namespace ScannedText

def scan (terms : List Text) (normalize : Normalizer) (text : Text) : ScannedText :=
  ((Scanner.run terms normalize text).flush normalize).scanned

def ofTokens (terms : List Text) (normalize : Normalizer) (tokens : List Text) : ScannedText where
  tokens := tokens
  occurrences := (hits terms normalize tokens).map fun (position, form) =>
    ⟨position, (forms terms normalize tokens).idxOf form + 1⟩
  distinct := (forms terms normalize tokens).length

theorem ofText_eq_ofTokens (terms : List Text) (normalize : Normalizer) (text : Text) :
    ofText terms normalize text = ofTokens terms normalize text.tokens := rfl

variable {terms : List Text} {normalize : Normalizer} {token : Text}

theorem hits_concat (terms tokens : List Text) (normalize : Normalizer) (token : Text) :
    hits terms normalize (tokens ++ [token]) = hits terms normalize tokens ++
      if token.isWord ∧ normalize token ∈ terms then [(tokens.length, normalize token)] else [] := by
  unfold hits
  rw [List.zipIdx_append, List.filterMap_append]
  congr 1
  by_cases hword : token.isWord = true
  · by_cases hmem : normalize token ∈ terms
    · simp [hword, hmem]
    · simp [hword, hmem]
  · simp [hword]

theorem ofTokens_concat_other (tokens : List Text) (h : ¬ (token.isWord ∧ normalize token ∈ terms)) :
    ofTokens terms normalize (tokens ++ [token]) =
      { ofTokens terms normalize tokens with tokens := tokens ++ [token] } ∧
    forms terms normalize (tokens ++ [token]) = forms terms normalize tokens := by
  have hhits := hits_concat terms tokens normalize token
  rw [if_neg h, List.append_nil] at hhits
  have hforms : forms terms normalize (tokens ++ [token]) = forms terms normalize tokens := by
    rw [forms, hhits, forms]
  refine ⟨?_, hforms⟩
  rw [ofTokens, hhits, hforms, ofTokens]

theorem forms_concat_word (tokens : List Text) (hword : token.isWord)
    (hmem : normalize token ∈ terms) :
    forms terms normalize (tokens ++ [token]) =
      Text.addDistinct (forms terms normalize tokens) (normalize token) := by
  rw [forms, hits_concat, if_pos ⟨hword, hmem⟩, List.map_append, List.map_singleton,
    Text.distinct_concat, forms]

theorem ofTokens_concat_word (tokens : List Text) (hword : token.isWord)
    (hmem : normalize token ∈ terms) :
    ofTokens terms normalize (tokens ++ [token]) =
      ⟨tokens ++ [token],
        (ofTokens terms normalize tokens).occurrences ++
          [⟨tokens.length, (Text.addDistinct (forms terms normalize tokens)
            (normalize token)).idxOf (normalize token) + 1⟩],
        (Text.addDistinct (forms terms normalize tokens) (normalize token)).length⟩ := by
  rw [ofTokens, forms_concat_word tokens hword hmem, hits_concat, if_pos ⟨hword, hmem⟩,
    List.map_append, List.map_singleton, ofTokens]
  congr 2
  apply List.map_congr_left
  rintro ⟨position, form⟩ hhit
  dsimp only
  rw [Text.idxOf_addDistinct (mem_forms_of_mem_hits hhit)]

end ScannedText

namespace Scanner

open ScannedText (ofTokens forms)

variable {terms tokens : List Text} {normalize : Normalizer} {scanner : Scanner} {text : Text}

def rank? (terms forms : List Text) (form : Text) : Option Nat :=
  if form ∈ terms then some (if form ∈ forms then forms.idxOf form + 1 else 0) else none

/--
What a scan holds when some tokens are finished.
-/
structure Stands (terms : List Text) (normalize : Normalizer) (tokens : List Text)
    (scanner : Scanner) : Prop where
  scanned : scanner.scanned = ofTokens terms normalize tokens
  ranks : ∀ form, scanner.ranks[form]? = rank? terms (forms terms normalize tokens) form

/--
What a scan holds when a text has been read: its tokens are finished up to the word that is being read,
which nothing alphanumeric stands in front of.
-/
structure Reads (terms : List Text) (normalize : Normalizer) (text : Text) (scanner : Scanner) :
    Prop where
  isAlphanumeric_of_mem : ∀ c ∈ scanner.word, Text.isAlphanumeric c = true
  exists_front : ∃ front, text = front ++ scanner.word ∧
    (∀ c ∈ front.getLast?, Text.isAlphanumeric c = false) ∧
    Stands terms normalize front.tokens scanner

theorem getElem?_ranks_start (terms : List Text) (form : Text) :
    (start terms).ranks[form]? = if form ∈ terms then some 0 else none := by
  induction terms using List.reverseRecOn with
  | nil => rfl
  | append_singleton terms last ih =>
    unfold start at ih ⊢
    dsimp only at ih ⊢
    rw [List.foldl_append, List.foldl_cons, List.foldl_nil, Std.TreeMap.getElem?_insert, ih]
    by_cases hlast : last = form
    · simp [hlast]
    · simp [hlast, Ne.symm hlast]

theorem stands_start (terms : List Text) (normalize : Normalizer) :
    Stands terms normalize [] (start terms) :=
  ⟨rfl, getElem?_ranks_start terms⟩

theorem reads_start (terms : List Text) (normalize : Normalizer) :
    Reads terms normalize [] (start terms) :=
  ⟨nofun, [], rfl, nofun, stands_start terms normalize⟩

theorem Stands.push_other (h : Stands terms normalize tokens scanner) {c : Char}
    (hc : Text.isAlphanumeric c = false) :
    Stands terms normalize (tokens ++ [[c]])
      { scanner with scanned.tokens := scanner.scanned.tokens ++ [[c]] } := by
  have hother : ¬ (Text.isWord [c] ∧ normalize [c] ∈ terms) := by
    rintro ⟨hword, -⟩
    rw [Text.isWord, List.head?_cons, Option.any_some, hc] at hword
    cases hword
  obtain ⟨htokens, hforms⟩ := ScannedText.ofTokens_concat_other tokens hother
  constructor
  · rw [htokens, h.scanned]
    rfl
  · rw [hforms]
    exact h.ranks

theorem rank_addDistinct (forms : List Text) (form : Text) :
    let rank := if form ∈ forms then forms.idxOf form + 1 else 0
    let distinct := if rank = 0 then forms.length + 1 else forms.length
    distinct = (Text.addDistinct forms form).length ∧
      (if rank = 0 then distinct else rank) = (Text.addDistinct forms form).idxOf form + 1 := by
  by_cases hmem : form ∈ forms
  · simp [Text.addDistinct, hmem]
  · simp [hmem, Text.length_addDistinct hmem, Text.idxOf_addDistinct_self hmem]

theorem rank?_addDistinct {form : Text} (hform : form ∈ terms) (forms : List Text) (other : Text) :
    rank? terms (Text.addDistinct forms form) other =
      if form = other then some ((Text.addDistinct forms form).idxOf form + 1)
      else rank? terms forms other := by
  unfold rank?
  by_cases hother : form = other
  · obtain rfl := hother
    rw [if_pos hform, if_pos (Text.mem_addDistinct forms form), if_pos rfl]
  · have hkept : other ∈ Text.addDistinct forms form ↔ other ∈ forms := by
      rw [Text.mem_addDistinct_iff]
      exact or_iff_left (Ne.symm hother)
    rw [if_neg hother]
    by_cases hmem : other ∈ forms
    · rw [if_pos hmem, if_pos (hkept.mpr hmem), Text.idxOf_addDistinct hmem]
    · rw [if_neg hmem, if_neg (mt hkept.mp hmem)]

theorem Stands.flush (h : Stands terms normalize tokens scanner) (hword : scanner.word.isWord) :
    Stands terms normalize (tokens ++ [scanner.word]) (scanner.flush normalize) := by
  obtain ⟨scanned, word, ranks⟩ := scanner
  obtain ⟨rfl, hranks⟩ := h
  dsimp only at hword hranks
  have hne : word.isEmpty = false := by
    cases word with
    | nil => cases hword
    | cons => rfl
  have hrank := hranks (normalize word)
  unfold Scanner.flush
  dsimp only [ofTokens]
  rw [hne, if_neg Bool.false_ne_true, hrank, rank?]
  by_cases hmem : normalize word ∈ terms
  · have htokens := ScannedText.ofTokens_concat_word tokens hword hmem
    have hforms := ScannedText.forms_concat_word tokens hword hmem
    obtain ⟨hdistinct, hnext⟩ := rank_addDistinct (forms terms normalize tokens) (normalize word)
    -- The rank from the table, raised if it is zero, is the one that the form has from now on.
    rw [if_pos hmem]
    dsimp only at hdistinct hnext ⊢
    rw [hnext, hdistinct]
    constructor
    · exact htokens.symm
    · intro form
      rw [Std.TreeMap.getElem?_insert, hforms, rank?_addDistinct hmem, hranks]
      simp only [Std.LawfulEqCmp.compare_eq_iff_eq]
  · obtain ⟨htokens, hforms⟩ := ScannedText.ofTokens_concat_other tokens
      (not_and_of_not_right (word.isWord = true) hmem)
    rw [if_neg hmem]
    constructor
    · exact htokens.symm
    · rw [hforms]
      exact hranks

theorem flush_of_nil (h : scanner.word = []) : scanner.flush normalize = scanner := by
  obtain ⟨⟨tokens, occurrences, distinct⟩, word, ranks⟩ := scanner
  cases h
  rfl

theorem word_flush (normalize : Normalizer) (scanner : Scanner) :
    (scanner.flush normalize).word = [] := by
  obtain ⟨⟨tokens, occurrences, distinct⟩, word, ranks⟩ := scanner
  unfold flush
  dsimp only
  split
  next h => exact List.isEmpty_iff.mp h
  next =>
    split
    next => rfl
    next => rfl

theorem Reads.flush (h : Reads terms normalize text scanner) :
    Stands terms normalize text.tokens (scanner.flush normalize) := by
  obtain ⟨halnum, front, rfl, hfront, hstands⟩ := h
  by_cases hnil : scanner.word = []
  · rw [flush_of_nil hnil, hnil, List.append_nil]
    exact hstands
  · have hword : scanner.word.isWord := by
      rw [Text.isWord, List.head?_eq_some_head hnil]
      exact halnum _ (List.head_mem hnil)
    rw [Text.tokens_append_word hnil halnum hfront]
    exact hstands.flush hword

theorem Reads.advance (h : Reads terms normalize text scanner) (c : Char) :
    Reads terms normalize (text ++ [c]) (scanner.advance normalize c) := by
  unfold Scanner.advance
  split
  next hc =>
    -- The word goes on, and the finished tokens stay.
    obtain ⟨halnum, front, rfl, hfront, hstands⟩ := h
    refine ⟨?_, front, List.append_assoc .., hfront, hstands.scanned, hstands.ranks⟩
    intro d hd
    rcases List.mem_append.mp hd with hd | hd
    · exact halnum d hd
    · rw [List.mem_singleton.mp hd]
      exact hc
  next hc =>
    -- The word ends, and no word is being read behind the character.
    have hc : Text.isAlphanumeric c = false := by simpa using hc
    have hword := word_flush normalize scanner
    refine ⟨?_, text ++ [c], ?_, ?_, ?_⟩
    · rw [hword]
      nofun
    · rw [hword, List.append_nil]
    · simpa using hc
    · rw [Text.tokens_concat_other text hc]
      exact h.flush.push_other hc

theorem reads_run (terms : List Text) (normalize : Normalizer) (text : Text) :
    Reads terms normalize text (run terms normalize text) := by
  induction text using List.reverseRecOn with
  | nil => exact reads_start terms normalize
  | append_singleton text c ih =>
    rw [run, List.foldl_append]
    exact ih.advance c

end Scanner

namespace ScannedText

theorem scan_eq_ofText (terms : List Text) (normalize : Normalizer) (text : Text) :
    scan terms normalize text = ofText terms normalize text := by
  rw [ofText_eq_ofTokens]
  exact (Scanner.reads_run terms normalize text).flush.scanned

/--
A text is scanned for the words whose normal forms are among `terms`.
-/
structure IsScan (terms : List Text) (normalize : Normalizer) (text : Text)
    (scanned : ScannedText) : Prop where
  flatten_tokens : scanned.tokens.flatten = text
  isToken : ∀ front token behind, scanned.tokens = front ++ token :: behind →
    Text.IsToken front.flatten token behind.flatten
  not_adjacent : scanned.tokens.IsChain fun first second =>
    ¬ (first.isWord = true ∧ second.isWord = true)
  increasing : scanned.occurrences.Pairwise (·.position < ·.position)
  mem_positions_iff : ∀ position, position ∈ scanned.occurrences.map (·.position) ↔
    ∃ word, scanned.tokens[position]? = some word ∧ word.isWord = true ∧ normalize word ∈ terms
  rank_eq_iff : ∀ first ∈ scanned.occurrences, ∀ second ∈ scanned.occurrences,
    ∀ word other, scanned.tokens[first.position]? = some word →
      scanned.tokens[second.position]? = some other →
      (first.rank = second.rank ↔ normalize word = normalize other)
  /-- The ranks in the order in which they first appear. -/
  ranks : (scanned.occurrences.map (·.rank)).eraseDups = List.range' 1 scanned.distinct
  distinct : scanned.distinct =
    Finset.card {term ∈ terms.toFinset |
      ∃ word ∈ scanned.tokens, word.isWord = true ∧ normalize word = term}

/--
The single pass finds the tokens of every text, the words that are asked for, and their ranks.
-/
theorem isScan_scan (terms : List Text) (normalize : Normalizer) (text : Text) :
    scan terms normalize text = ofText terms normalize text ∧
      IsScan terms normalize text (scan terms normalize text) := by
  have hscan := scan_eq_ofText terms normalize text
  refine ⟨hscan, ?_⟩
  rw [hscan]
  exact {
    flatten_tokens := Text.flatten_tokens text
    isToken := fun _ _ _ => Text.isToken_of_tokens
    not_adjacent := Text.isChain_tokens text
    increasing := pairwise_occurrences terms normalize text
    mem_positions_iff := fun _ => mem_positions_iff
    rank_eq_iff := fun _ hfirst _ hsecond _ _ => rank_eq_iff hfirst hsecond
    ranks := eraseDups_ranks terms normalize text
    distinct := distinct_eq_card terms normalize text
  }

end ScannedText

end BooleanSearch
