import BooleanSearch.Proofs.Query.InfixForm
import BooleanSearch.Proofs.Vocabulary.Lookup

/-!
This module contains the theorem that resolution keeps the meaning of a query. What IDs, phrases and
operators mean is left open: whatever it is, the operands of a resolved expression are put together on
a stack to the value that the tree of the query has. A query with an unknown word is not resolved, and
the first such word decides the error.
-/

namespace BooleanSearch

universe u

structure Interpretation (α : Type u) where
  term : UInt32 → α
  phrase : List UInt32 → Option UInt32 → α
  not : α → α
  and : α → α → α
  or : α → α → α

variable {α : Type u}

/--
The operands on a stack after a token, which takes its own operands from the top. There is none if
they are too few.
-/
def ResolvedToken.reduce? (meaning : Interpretation α) : List α → ResolvedToken → Option (List α)
  | stack, term id => some (meaning.term id :: stack)
  | stack, phrase ids distance => some (meaning.phrase ids distance :: stack)
  | operand :: stack, not => some (meaning.not operand :: stack)
  | right :: left :: stack, and => some (meaning.and left right :: stack)
  | right :: left :: stack, or => some (meaning.or left right :: stack)
  | _, not | _, and | _, or => none

def ResolvedExpr.reduce? (meaning : Interpretation α) (expr : ResolvedExpr) : Option (List α) :=
  expr.tokens.foldlM (ResolvedToken.reduce? meaning) []

namespace Expression

def value (meaning : Interpretation α) (id : Text → UInt32) : Expression → α
  | term word => meaning.term (id word)
  | phrase words distance => meaning.phrase (words.map id) distance
  | not operand => meaning.not (operand.value meaning id)
  | and left right => meaning.and (left.value meaning id) (right.value meaning id)
  | or left right => meaning.or (left.value meaning id) (right.value meaning id)

def words (tree : Expression) : List Text := tree.leaves.flatMap Token.words

@[simp]
theorem words_term (word : Text) : (term word).words = [word] := rfl

@[simp]
theorem words_phrase (words : List Text) (distance : Option UInt32) :
    (phrase words distance).words = words :=
  List.append_nil words

@[simp]
theorem words_not (operand : Expression) : (not operand).words = operand.words := rfl

@[simp]
theorem words_and (left right : Expression) : (and left right).words = left.words ++ right.words :=
  List.flatMap_append

@[simp]
theorem words_or (left right : Expression) : (or left right).words = left.words ++ right.words :=
  List.flatMap_append

def resolved (id : Text → UInt32) : Expression → List ResolvedToken
  | term word => [.term (id word)]
  | phrase words distance => [.phrase (words.map id) distance]
  | not operand => operand.resolved id ++ [.not]
  | and left right => left.resolved id ++ (right.resolved id ++ [.and])
  | or left right => left.resolved id ++ (right.resolved id ++ [.or])

theorem foldlM_resolved (meaning : Interpretation α) (id : Text → UInt32) (tree : Expression)
    (stack : List α) (rest : List ResolvedToken) :
    (tree.resolved id ++ rest).foldlM (ResolvedToken.reduce? meaning) stack =
      rest.foldlM (ResolvedToken.reduce? meaning) (tree.value meaning id :: stack) := by
  induction tree generalizing stack rest with
  | term => rfl
  | phrase => rfl
  | not operand ih =>
    simp only [resolved, List.append_assoc]
    rw [ih]
    rfl
  | and left right lih rih | or left right lih rih =>
    simp only [resolved, List.append_assoc]
    rw [lih, rih]
    rfl

theorem reduce?_resolved (meaning : Interpretation α) (id : Text → UInt32) (tree : Expression) :
    (ResolvedExpr.mk (tree.resolved id)).reduce? meaning = some [tree.value meaning id] := by
  have h := foldlM_resolved meaning id tree [] []
  rw [List.append_nil] at h
  exact h

end Expression

theorem mapM_append_of_ok {β γ ε : Type} {f : β → Except ε γ} {l : List β} {r : List γ}
    (h : l.mapM f = .ok r) (l' : List β) :
    (l ++ l').mapM f = (l'.mapM f).map (r ++ ·) := by
  rw [List.mapM_append, h]
  cases l'.mapM f <;> rfl

theorem mapM_append_of_error {β γ ε : Type} {f : β → Except ε γ} {l : List β} {e : ε}
    (h : l.mapM f = .error e) (l' : List β) : (l ++ l').mapM f = .error e := by
  rw [List.mapM_append, h]
  rfl

namespace Vocabulary

variable {vocabulary : Vocabulary} {normalize : Normalizer} {id : Text → UInt32} {word : Text}
variable {tree : Expression}

def unknown (vocabulary : Vocabulary) (normalize : Normalizer) (word : Text) : Bool :=
  !vocabulary.contains (normalize word)

theorem contains_eq_isSome (vocabulary : Vocabulary) (term : Text) :
    vocabulary.contains term = (vocabulary.id? term).isSome :=
  Std.TreeMap.contains_eq_isSome_getElem?

theorem unknown_eq_true_iff :
    vocabulary.unknown normalize word = true ↔ vocabulary.id? (normalize word) = none := by
  simp [unknown, contains_eq_isSome]

theorem lookup_of_unknown (h : vocabulary.unknown normalize word = true) :
    vocabulary.lookup normalize word = .error (.unknownTerm (normalize word)) := by
  unfold lookup
  rw [unknown_eq_true_iff.mp h]

theorem lookup_of_id? {id : UInt32} (h : vocabulary.id? (normalize word) = some id) :
    vocabulary.lookup normalize word = .ok id := by
  unfold lookup
  rw [h]

theorem mapM_lookup_of_known {words : List Text}
    (hknown : ∀ word ∈ words, vocabulary.id? (normalize word) = some (id word)) :
    words.mapM (vocabulary.lookup normalize) = .ok (words.map id) := by
  rw [mapM_eq_ok_iff, List.forall₂_map_right_iff, List.forall₂_same]
  intro word hword
  exact lookup_of_id? (hknown word hword)

theorem mapM_lookup_of_unknown {words : List Text}
    (hunknown : words.find? (vocabulary.unknown normalize) = some word) :
    words.mapM (vocabulary.lookup normalize) = .error (.unknownTerm (normalize word)) := by
  induction words with
  | nil => cases hunknown
  | cons first words ih =>
    rw [List.mapM_cons]
    by_cases hfirst : vocabulary.unknown normalize first = true
    · rw [List.find?_cons_of_pos hfirst, Option.some.injEq] at hunknown
      rw [lookup_of_unknown hfirst, hunknown]
      rfl
    · rw [List.find?_cons_of_neg hfirst] at hunknown
      rw [unknown_eq_true_iff] at hfirst
      obtain ⟨id, hid⟩ := Option.ne_none_iff_exists'.mp hfirst
      rw [lookup_of_id? hid, ih hunknown]
      rfl

theorem mapM_resolveToken_of_known
    (hknown : ∀ word ∈ tree.words, vocabulary.id? (normalize word) = some (id word)) :
    tree.postorder.mapM (vocabulary.resolveToken normalize) = .ok (tree.resolved id) := by
  induction tree with
  | term word =>
    rw [Expression.postorder, List.mapM_cons, resolveToken, lookup_of_id? (hknown word (by simp))]
    rfl
  | phrase words distance =>
    rw [Expression.words_phrase] at hknown
    rw [Expression.postorder, List.mapM_cons, resolveToken, mapM_lookup_of_known hknown]
    rfl
  | not operand ih =>
    rw [Expression.postorder, mapM_append_of_ok (ih hknown)]
    rfl
  | and left right lih rih | or left right lih rih =>
    simp only [Expression.words_and, Expression.words_or, List.forall_mem_append] at hknown
    rw [Expression.postorder, mapM_append_of_ok (lih hknown.1), mapM_append_of_ok (rih hknown.2)]
    rfl

theorem exists_id_of_known {words : List Text}
    (hknown : words.find? (vocabulary.unknown normalize) = none) :
    ∃ id : Text → UInt32, ∀ word ∈ words, vocabulary.id? (normalize word) = some (id word) := by
  refine ⟨fun word => (vocabulary.id? (normalize word)).getD 0, ?_⟩
  intro word hword
  have hknown := List.find?_eq_none.mp hknown word hword
  rw [unknown_eq_true_iff] at hknown
  obtain ⟨id, hid⟩ := Option.ne_none_iff_exists'.mp hknown
  simp only [hid, Option.getD_some]

theorem mapM_resolveToken_binary {left right : Expression} (operator : Token)
    (hleft : ∀ word, left.words.find? (vocabulary.unknown normalize) = some word →
      left.postorder.mapM (vocabulary.resolveToken normalize) =
        .error (.unknownTerm (normalize word)))
    (hright : ∀ word, right.words.find? (vocabulary.unknown normalize) = some word →
      right.postorder.mapM (vocabulary.resolveToken normalize) =
        .error (.unknownTerm (normalize word)))
    (hunknown : (left.words ++ right.words).find? (vocabulary.unknown normalize) = some word) :
    (left.postorder ++ (right.postorder ++ [operator])).mapM (vocabulary.resolveToken normalize) =
      .error (.unknownTerm (normalize word)) := by
  rw [List.find?_append, Option.or_eq_some_iff] at hunknown
  cases hunknown with
  | inl hfirst => exact mapM_append_of_error (hleft word hfirst) _
  | inr hsecond =>
    obtain ⟨id, hid⟩ := exists_id_of_known hsecond.1
    rw [mapM_append_of_ok (mapM_resolveToken_of_known hid),
      mapM_append_of_error (hright word hsecond.2)]
    rfl

theorem mapM_resolveToken_of_unknown
    (hunknown : tree.words.find? (vocabulary.unknown normalize) = some word) :
    tree.postorder.mapM (vocabulary.resolveToken normalize) =
      .error (.unknownTerm (normalize word)) := by
  induction tree generalizing word with
  | term first =>
    have hlookup := lookup_of_unknown (List.find?_some hunknown)
    obtain rfl : word = first := List.mem_singleton.mp (List.mem_of_find?_eq_some hunknown)
    rw [Expression.postorder, List.mapM_cons, resolveToken, hlookup]
    rfl
  | phrase words distance =>
    rw [Expression.words_phrase] at hunknown
    rw [Expression.postorder, List.mapM_cons, resolveToken, mapM_lookup_of_unknown hunknown]
    rfl
  | not operand ih => exact mapM_append_of_error (ih hunknown) _
  | and left right lih rih =>
    rw [Expression.words_and] at hunknown
    exact mapM_resolveToken_binary .and (fun _ => lih) (fun _ => rih) hunknown
  | or left right lih rih =>
    rw [Expression.words_or] at hunknown
    exact mapM_resolveToken_binary .or (fun _ => lih) (fun _ => rih) hunknown

theorem resolve_listing_of_known
    (hknown : ∀ word ∈ tree.words, vocabulary.id? (normalize word) = some (id word)) :
    vocabulary.resolve normalize tree.listing = .ok ⟨tree.resolved id⟩ := by
  unfold resolve Expression.listing
  rw [mapM_resolveToken_of_known hknown]
  rfl

theorem resolve_listing_of_unknown
    (hunknown : tree.words.find? (vocabulary.unknown normalize) = some word) :
    vocabulary.resolve normalize tree.listing = .error (.unknownTerm (normalize word)) := by
  unfold resolve Expression.listing
  rw [mapM_resolveToken_of_unknown hunknown]
  rfl

end Vocabulary

/--
A compiled query has one tree, and it is resolved exactly if the normal forms of all its words are in
the vocabulary. Its tokens can then be put together on a stack: no operand is missing, and the only one
that is left is the value of the tree, whatever IDs, phrases and operators mean. Otherwise the first
unknown word of the query is reported.
-/
theorem resolved_with_meaning_of_query {config : QueryConfig} {query : Text}
    {compiled : CompiledQuery} (hcompile : compile config query = .ok compiled)
    (vocabulary : Vocabulary) (normalize : Normalizer) :
    ∃ raw tree, (Lexer.ofText query).tokens = .ok raw ∧
      (∀ other, Derives .orExpr raw other ↔ other = tree) ∧
      let words := raw.flatMap Token.words
      let result := vocabulary.resolve normalize compiled.expr
      ((∃ expr, result = .ok expr) ↔
        ∀ word ∈ words, vocabulary.contains (normalize word) = true) ∧
      (∀ expr, result = .ok expr →
        ∃ id : Text → UInt32,
          (∀ word ∈ words, vocabulary.id? (normalize word) = some (id word)) ∧
          ∀ {α : Type u} (meaning : Interpretation α),
            expr.reduce? meaning = some [tree.value meaning id]) ∧
      ∀ e, result = .error e →
        ∃ word, words.find? (fun word => !vocabulary.contains (normalize word)) = some word ∧
          e = .unknownTerm (normalize word) := by
  obtain ⟨raw, tree, hraw, htree, hlisting⟩ := exists_derivation_of_compile hcompile
  have hwords : raw.flatMap Token.words = tree.words := by
    rw [Expression.words, htree.leaves_eq, Vocabulary.flatMap_words_filter]
  refine ⟨raw, tree, hraw, fun other => ⟨htree.unique, fun h => h ▸ htree⟩, ?_⟩
  dsimp only
  rw [hwords, hlisting]
  -- Words are looked up from left to right, so that the first unknown one decides.
  cases hfind : tree.words.find? (vocabulary.unknown normalize) with
  | none =>
    obtain ⟨id, hid⟩ := Vocabulary.exists_id_of_known hfind
    rw [Vocabulary.resolve_listing_of_known hid]
    refine ⟨⟨fun _ word hword => ?_, fun _ => ⟨_, rfl⟩⟩, ?_, by simp⟩
    · rw [Vocabulary.contains_eq_isSome, hid word hword]
      rfl
    · intro expr hexpr
      rw [Except.ok.injEq] at hexpr
      subst hexpr
      exact ⟨id, hid, fun meaning => tree.reduce?_resolved meaning id⟩
  | some word =>
    rw [Vocabulary.resolve_listing_of_unknown hfind]
    refine ⟨⟨by simp, fun hall => ?_⟩, by simp, ?_⟩
    · have hunknown := List.find?_some hfind
      unfold Vocabulary.unknown at hunknown
      rw [hall word (List.mem_of_find?_eq_some hfind)] at hunknown
      cases hunknown
    · intro e he
      rw [Except.error.injEq] at he
      exact ⟨word, hfind, he.symm⟩

namespace SafeBorrowing

def query : Text := "Rust | \"Memory SAFETY\"/3 !borrow".toList

def compiled : CompiledQuery where
  source := query
  expr :=
    { tokens :=
        [.term "Rust".toList, .phrase ["Memory".toList, "SAFETY".toList] (some 3),
          .term "borrow".toList, .not, .and, .or]
      termCount := 4
      checked := rfl }

def vocabulary : Vocabulary :=
  .ofTerms ["borrow".toList, "memory".toList, "rust".toList, "safety".toList]

def sparse : Vocabulary := .ofTerms ["memory".toList, "rust".toList]

def raw : List Token :=
  [.term "Rust".toList, .or, .phrase ["Memory".toList, "SAFETY".toList] (some 3), .not,
    .term "borrow".toList]

def tree : Expression :=
  .or (.term "Rust".toList)
    (.and (.phrase ["Memory".toList, "SAFETY".toList] (some 3)) (.not (.term "borrow".toList)))

theorem derives_tree : Derives .orExpr raw tree := by
  have hrust : Derives .orExpr [.term "Rust".toList] (.term "Rust".toList) :=
    .ofAnd (.ofNot (.ofPrimary .term))
  have hsafety : Derives .andExpr [.phrase ["Memory".toList, "SAFETY".toList] (some 3)]
      (.phrase ["Memory".toList, "SAFETY".toList] (some 3)) :=
    .ofNot (.ofPrimary .phrase)
  exact .or hrust (.impliedAnd hsafety (.not (.ofPrimary .term)))

theorem resolved_as_disjunction :
    compile {} query = .ok compiled ∧
      (∃ expr, vocabulary.resolve Normalizer.default compiled.expr = .ok expr ∧
        ∀ {α : Type} (meaning : Interpretation α), expr.reduce? meaning =
          some [meaning.or (meaning.term 2)
            (meaning.and (meaning.phrase [1, 3] (some 3)) (meaning.not (meaning.term 0)))]) ∧
      sparse.resolve Normalizer.default compiled.expr =
        .error (.unknownTerm "safety".toList) := by
  have hcompile : compile {} query = .ok compiled := by
    decide +kernel
  have hlex : (Lexer.ofText query).tokens = .ok raw := by
    decide +kernel
  refine ⟨hcompile, ?_, ?_⟩
  · obtain ⟨raw', tree', hraw, htree, hknown, hvalue, -⟩ :=
      resolved_with_meaning_of_query.{0} hcompile vocabulary Normalizer.default
    rw [hlex, Except.ok.injEq] at hraw
    subst hraw
    obtain rfl := (htree _).mp derives_tree
    obtain ⟨expr, hexpr⟩ := hknown.mpr (by decide +kernel)
    obtain ⟨id, hid, hreduced⟩ := hvalue expr hexpr
    have hread (word : Text) (number : UInt32) (hword : word ∈ raw.flatMap Token.words)
        (hnumber : vocabulary.id? (Normalizer.default word) = some number) : id word = number := by
      rw [hid word hword, Option.some.injEq] at hnumber
      exact hnumber
    refine ⟨expr, hexpr, ?_⟩
    intro α meaning
    rw [hreduced]
    simp only [tree, Expression.value, List.map_cons, List.map_nil,
      hread "Rust".toList 2 (by decide) (by decide +kernel),
      hread "Memory".toList 1 (by decide) (by decide +kernel),
      hread "SAFETY".toList 3 (by decide) (by decide +kernel),
      hread "borrow".toList 0 (by decide) (by decide +kernel)]
  · obtain ⟨raw', -, hraw, -, hknown, -, hunknown⟩ :=
      resolved_with_meaning_of_query.{0} hcompile sparse Normalizer.default
    rw [hlex, Except.ok.injEq] at hraw
    subst hraw
    cases hresult : sparse.resolve Normalizer.default compiled.expr with
    | ok expr => exact absurd (hknown.mp ⟨expr, hresult⟩) (by decide +kernel)
    | error e =>
      obtain ⟨word, hword, rfl⟩ := hunknown e hresult
      have hfirst : (raw.flatMap Token.words).find?
          (fun word => !sparse.contains (Normalizer.default word)) = some "SAFETY".toList := by
        decide +kernel
      rw [hfirst, Option.some.injEq] at hword
      rw [← hword]
      have hnormal : Normalizer.default "SAFETY".toList = "safety".toList := by
        decide +kernel
      rw [hnormal]

end SafeBorrowing

end BooleanSearch
