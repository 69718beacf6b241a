import Mathlib.Data.List.Forall2
import BooleanSearch.Vocabulary.Basic

/-!
This module contains the theorems on what the IDs of a vocabulary tell about words. Up to 2^32 listed
words have IDs of their own, so that the IDs of a resolved expression determine the normal forms of
all words of the query in their order.
-/

namespace BooleanSearch

namespace Vocabulary

theorem getElem?_foldl_insertIfNew (terms : List Text) (first : Nat) (ids : Table UInt32)
    (term : Text) :
    ((terms.zipIdx first).foldl (fun ids (term, position) =>
      ids.insertIfNew term (UInt32.ofNat position)) ids)[term]? =
      ids[term]?.or ((terms.idxOf? term).map fun position => UInt32.ofNat (first + position)) := by
  induction terms generalizing first ids with
  | nil => simp
  | cons listed terms ih =>
    simp only [List.zipIdx_cons, List.foldl_cons]
    rw [ih, Std.TreeMap.getElem?_insertIfNew, List.idxOf?_cons]
    by_cases hterm : listed = term
    · subst hterm
      cases hknown : ids[listed]? with
      | none =>
        have hmem : listed ∉ ids := by
          rw [Std.TreeMap.mem_iff_isSome_getElem?, hknown]
          simp
        simp [hmem]
      | some id =>
        have hmem : listed ∈ ids := by
          rw [Std.TreeMap.mem_iff_isSome_getElem?, hknown]
          simp
        simp [hmem]
    · have hbeq : (listed == term) = false := by simpa using hterm
      simp only [Std.compare_eq_iff_eq, hterm, hbeq, false_and, Bool.false_eq_true, ↓reduceIte,
        Option.map_map]
      congr 2
      funext position
      simp only [Function.comp_apply, Nat.add_assoc, Nat.add_comm 1 position]

theorem id?_ofTerms (terms : List Text) (term : Text) :
    (ofTerms terms).id? term = (terms.idxOf? term).map UInt32.ofNat := by
  unfold id? ofTerms
  rw [getElem?_foldl_insertIfNew]
  simp

theorem eq_of_id?_ofTerms {terms : List Text} (hsize : terms.length ≤ UInt32.size)
    {term other : Text} {id : UInt32} (hterm : (ofTerms terms).id? term = some id)
    (hother : (ofTerms terms).id? other = some id) : term = other := by
  rw [id?_ofTerms, Option.map_eq_some_iff] at hterm hother
  obtain ⟨position, hposition, hid⟩ := hterm
  obtain ⟨position', hposition', hid'⟩ := hother
  obtain ⟨hlt, hlisted, -⟩ := List.idxOf?_eq_some_iff.mp hposition
  obtain ⟨hlt', hlisted', -⟩ := List.idxOf?_eq_some_iff.mp hposition'
  have hsame : position = position' := by
    have h := congrArg UInt32.toNat (hid.trans hid'.symm)
    rwa [UInt32.toNat_ofNat_of_lt' (by omega), UInt32.toNat_ofNat_of_lt' (by omega)] at h
  subst hsame
  exact hlisted.symm.trans hlisted'

end Vocabulary

def ResolvedToken.ids : ResolvedToken → List UInt32
  | term id => [id]
  | phrase ids _ => ids
  | and | or | not => []

theorem mapM_eq_ok_iff {α β ε : Type} {f : α → Except ε β} {as : List α} {bs : List β} :
    as.mapM f = .ok bs ↔ List.Forall₂ (fun a b => f a = .ok b) as bs := by
  induction as generalizing bs with
  | nil =>
    rw [List.forall₂_nil_left_iff, List.mapM_nil]
    simp [pure, Except.pure, eq_comm]
  | cons a as ih =>
    have hcons : (a :: as).mapM f = .ok bs ↔
        ∃ b behind, f a = .ok b ∧ as.mapM f = .ok behind ∧ bs = b :: behind := by
      rw [List.mapM_cons]
      cases f a with
      | error e => simp [bind, Except.bind]
      | ok b =>
        cases as.mapM f with
        | error e => simp [bind, Except.bind]
        | ok behind => simp [bind, Except.bind, pure, Except.pure, eq_comm]
    rw [hcons, List.forall₂_cons_left_iff]
    simp only [ih]

namespace Vocabulary

variable {vocabulary : Vocabulary} {normalize : Normalizer}

theorem id?_of_lookup {word : Text} {id : UInt32}
    (h : vocabulary.lookup normalize word = .ok id) :
    vocabulary.id? (normalize word) = some id := by
  unfold lookup at h
  split at h
  next hid =>
    cases h
    exact hid
  next => cases h

theorem words_of_resolveToken {token : Token} {resolved : ResolvedToken}
    (h : vocabulary.resolveToken normalize token = .ok resolved) :
    List.Forall₂ (fun word id => vocabulary.id? (normalize word) = some id) token.words
      resolved.ids := by
  cases token with
  | term word =>
    simp only [resolveToken] at h
    cases hlookup : vocabulary.lookup normalize word with
    | error e =>
      rw [hlookup] at h
      cases h
    | ok id =>
      rw [hlookup] at h
      cases h
      exact .cons (id?_of_lookup hlookup) .nil
  | phrase words distance =>
    simp only [resolveToken] at h
    cases hids : words.mapM (vocabulary.lookup normalize) with
    | error e =>
      rw [hids] at h
      cases h
    | ok ids =>
      rw [hids] at h
      cases h
      exact (mapM_eq_ok_iff.mp hids).imp fun _ _ => id?_of_lookup
  | and | or | not =>
    cases h
    exact .nil
  | leftParen | rightParen => cases h

theorem flatMap_words_filter (tokens : List Token) :
    (tokens.filter Token.isLeaf).flatMap Token.words = tokens.flatMap Token.words := by
  induction tokens with
  | nil => rfl
  | cons token tokens ih =>
    cases token <;> simpa [List.filter_cons, Token.isLeaf, Token.words] using ih

theorem words_of_resolve {expr : Postfix} {resolved : ResolvedExpr}
    (h : vocabulary.resolve normalize expr = .ok resolved) :
    List.Forall₂ (fun word id => vocabulary.id? (normalize word) = some id)
      (expr.leaves.flatMap Token.words) (resolved.tokens.flatMap ResolvedToken.ids) := by
  unfold resolve at h
  cases htokens : expr.tokens.mapM (vocabulary.resolveToken normalize) with
  | error e =>
    rw [htokens] at h
    cases h
  | ok tokens =>
    rw [htokens] at h
    cases h
    rw [Postfix.leaves, flatMap_words_filter]
    exact List.rel_flatMap (mapM_eq_ok_iff.mp htokens) fun _ _ => words_of_resolveToken

theorem map_normalize_eq_of_forall₂ {terms : List Text} (hsize : terms.length ≤ UInt32.size)
    {words words' : List Text} {ids : List UInt32}
    (h : List.Forall₂ (fun word id => (ofTerms terms).id? (normalize word) = some id) words ids)
    (h' : List.Forall₂ (fun word id => (ofTerms terms).id? (normalize word) = some id) words' ids) :
    words.map normalize = words'.map normalize := by
  induction h generalizing words' with
  | nil =>
    cases h'
    rfl
  | cons hword hwords ih =>
    cases h' with
    | cons hword' hwords' =>
      rw [List.map_cons, List.map_cons, eq_of_id?_ofTerms hsize hword hword', ih hwords']

theorem map_normalize_eq_of_resolve {terms : List Text} (hsize : terms.length ≤ UInt32.size)
    {expr expr' : Postfix} {resolved : ResolvedExpr}
    (h : (ofTerms terms).resolve normalize expr = .ok resolved)
    (h' : (ofTerms terms).resolve normalize expr' = .ok resolved) :
    (expr.leaves.flatMap Token.words).map normalize =
      (expr'.leaves.flatMap Token.words).map normalize :=
  map_normalize_eq_of_forall₂ hsize (words_of_resolve h) (words_of_resolve h')

end Vocabulary

end BooleanSearch
