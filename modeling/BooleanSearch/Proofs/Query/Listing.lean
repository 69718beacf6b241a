import BooleanSearch.Proofs.Query.InfixForm

/-!
This module contains the theorem that the check of a postfix expression accepts exactly the listings of
trees, and that the infix form of such a listing is put together without ever missing an operand.
-/

namespace BooleanSearch

def Token.arity : Token → Nat
  | and | or => 2
  | not => 1
  | _ => 0

/--
No token finds fewer texts on the stack than it takes.
-/
def Postfix.Supplied : (stack : List Text) → List Token → Prop
  | _, [] => True
  | stack, token :: rest =>
    token.arity ≤ stack.length ∧ Supplied (reduceInfix stack token) rest

namespace Expression

theorem supplied_postorder_append (tree : Expression) (stack : List Text) (rest : List Token) :
    Postfix.Supplied stack (tree.postorder ++ rest) ↔
      Postfix.Supplied (tree.infixForm :: stack) rest := by
  induction tree generalizing stack rest with
  | term | phrase => simp [postorder, Postfix.Supplied, Token.arity, Postfix.reduceInfix, infixForm]
  | not operand ih =>
    rw [postorder, List.append_assoc, ih]
    simp [Postfix.Supplied, Token.arity, Postfix.reduceInfix, infixForm]
  | and left right lih rih | or left right lih rih =>
    rw [postorder, List.append_assoc, List.append_assoc, lih, rih]
    simp [Postfix.Supplied, Token.arity, Postfix.reduceInfix, infixForm, Token.text]

theorem supplied_postorder (tree : Expression) : Postfix.Supplied [] tree.postorder := by
  have h := (tree.supplied_postorder_append [] []).mpr trivial
  rwa [List.append_nil] at h

end Expression

theorem Postfix.eq_listing {expr : Postfix} {tree : Expression}
    (h : tree.postorder = expr.tokens) : expr = tree.listing := by
  have hcount := expr.checked
  rw [← h, tree.checkPostfix_postorder, Except.ok.injEq] at hcount
  obtain ⟨tokens, termCount, checked⟩ := expr
  cases h
  cases hcount
  rfl

/--
The check accepts exactly the listings of trees in post-order, and gives the number of words of the
operands. The tree is the only one with this listing. Its infix form is put together from texts that
are all there when they are needed, and that leave nothing else behind.
-/
theorem checkPostfix_accepts_listings (tokens : List Token) :
    (∀ count, checkPostfix tokens = .ok count ↔
      ∃ tree : Expression, tree.postorder = tokens ∧
        (tree.leaves.map Token.wordCount).sum = count) ∧
    ∀ tree : Expression, tree.postorder = tokens →
      (∀ other : Expression, other.postorder = tokens → other = tree) ∧
      Postfix.Supplied [] tokens ∧
      tokens.foldl Postfix.reduceInfix [] = [tree.infixForm] ∧
      ∀ expr : Postfix, expr.tokens = tokens → expr.infixText = tree.infixForm := by
  refine ⟨fun count => ?_, ?_⟩
  · constructor
    · intro h
      obtain ⟨tree, rfl⟩ := Expression.exists_postorder_of_checkPostfix h
      rw [tree.checkPostfix_postorder, Except.ok.injEq] at h
      exact ⟨tree, rfl, h⟩
    · rintro ⟨tree, rfl, rfl⟩
      exact tree.checkPostfix_postorder
  · rintro tree rfl
    refine ⟨fun other h => Expression.postorder_injective h, tree.supplied_postorder,
      tree.foldl_reduceInfix_postorder [], fun expr h => ?_⟩
    rw [Postfix.eq_listing h.symm, tree.infixText_listing]

theorem negated_phrase_is_listing :
    checkPostfix [.term ['a'], .phrase [['b'], ['c']] (some 2), .not, .and] = .ok 3 ∧
      [.term ['a'], .phrase [['b'], ['c']] (some 2), .not, .and].foldl Postfix.reduceInfix [] =
        ["(a & !(\"b c\"/2))".toList] := by
  obtain ⟨hcheck, htree⟩ :=
    checkPostfix_accepts_listings [.term ['a'], .phrase [['b'], ['c']] (some 2), .not, .and]
  have hlisting : (Expression.and (.term ['a'])
      (.not (.phrase [['b'], ['c']] (some 2)))).postorder =
      [.term ['a'], .phrase [['b'], ['c']] (some 2), .not, .and] := rfl
  obtain ⟨-, -, htext, -⟩ := htree _ hlisting
  refine ⟨(hcheck 3).mpr ⟨_, hlisting, rfl⟩, ?_⟩
  rw [htext]
  decide +kernel

end BooleanSearch
