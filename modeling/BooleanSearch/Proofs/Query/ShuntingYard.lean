import BooleanSearch.Proofs.Query.Grammar

/-!
This module contains what the conversion to postfix order makes of the tokens of a derivation: the
post-order of its tree. An operator on the stack is complete exactly when a token arrives that cannot
belong to its right operand.
-/

namespace BooleanSearch

/--
What follows lets an operator on top of the stack go before anything else happens.
-/
def Releases (rest : List Token) (operator : Token) : Prop :=
  ∀ stack, toPostfixWith (operator :: stack) rest =
    (toPostfixWith stack rest).map (operator :: ·)

theorem releases_nil {operator : Token} (h : operator ≠ .leftParen) : Releases [] operator := by
  intro stack
  simp only [toPostfixWith, List.mem_cons, h.symm, false_or]
  split <;> rfl

theorem popToParen_cons {operator : Token} (h : operator ≠ .leftParen) (stack : List Token) :
    popToParen (operator :: stack) =
      (popToParen stack).map fun (popped, below) => (operator :: popped, below) := by
  rw [popToParen]
  · cases popToParen stack <;> rfl
  · exact h

theorem releases_rightParen {operator : Token} (h : operator ≠ .leftParen) (rest : List Token) :
    Releases (.rightParen :: rest) operator := by
  intro stack
  simp only [toPostfixWith]
  rw [popToParen_cons h]
  cases popToParen stack with
  | none => rfl
  | some cut =>
    simp only [Option.map_some]
    cases toPostfixWith cut.2 rest <;> rfl

theorem releases_operator {incoming operator : Token} (hin : incoming.isOperator = true)
    (h : yieldsTo incoming operator = true) (rest : List Token) :
    Releases (incoming :: rest) operator := by
  intro stack
  rw [toPostfixWith_cons_operator hin, toPostfixWith_cons_operator hin]
  simp only [List.takeWhile_cons, List.dropWhile_cons, h, ↓reduceIte]
  generalize toPostfixWith _ rest = result
  cases result <;> rfl

def Nonterminal.Rests : Nonterminal → List Token → Prop
  | orExpr, stack => stack.takeWhile (yieldsTo .or) = []
  | andExpr, stack => stack.takeWhile (yieldsTo .and) = []
  | notExpr, _ | primary, _ => True

def Nonterminal.Ended : Nonterminal → List Token → Prop
  | orExpr, rest => Releases rest .not ∧ Releases rest .and ∧ Releases rest .or
  | andExpr, rest => Releases rest .not ∧ Releases rest .and
  | notExpr, rest => Releases rest .not
  | primary, _ => True

theorem takeWhile_yieldsTo_not (stack : List Token) : stack.takeWhile (yieldsTo .not) = [] := by
  cases stack with
  | nil => rfl
  | cons top stack => cases top <;> rfl

theorem rests_andExpr_of_orExpr {stack : List Token} (h : Nonterminal.orExpr.Rests stack) :
    Nonterminal.andExpr.Rests stack := by
  cases stack with
  | nil => rfl
  | cons top stack =>
    cases top with
    | and | or | not => simp [Nonterminal.Rests, yieldsTo, Token.precedence] at h
    | leftParen => rfl
    | rightParen | term | phrase => rfl

theorem ended_orExpr_nil : Nonterminal.orExpr.Ended [] := by
  refine ⟨?_, ?_, ?_⟩
  all_goals
    apply releases_nil
    simp

theorem ended_orExpr_rightParen (rest : List Token) :
    Nonterminal.orExpr.Ended (.rightParen :: rest) := by
  refine ⟨?_, ?_, ?_⟩
  all_goals
    apply releases_rightParen
    simp

theorem ended_orExpr_or (rest : List Token) : Nonterminal.orExpr.Ended (.or :: rest) := by
  refine ⟨?_, ?_, ?_⟩
  all_goals
    apply releases_operator
    · rfl
    · rfl

theorem ended_andExpr_and (rest : List Token) : Nonterminal.andExpr.Ended (.and :: rest) := by
  refine ⟨?_, ?_⟩
  all_goals
    apply releases_operator
    · rfl
    · rfl

theorem toPostfixWith_operator {operator : Token} {stack : List Token}
    (h : operator.isOperator = true) (hstack : stack.takeWhile (yieldsTo operator) = [])
    (rest : List Token) :
    toPostfixWith stack (operator :: rest) = toPostfixWith (operator :: stack) rest := by
  have hdrop : stack.dropWhile (yieldsTo operator) = stack := by
    have hsplit := List.takeWhile_append_dropWhile (p := yieldsTo operator) (l := stack)
    rw [hstack] at hsplit
    exact hsplit
  rw [toPostfixWith_cons_operator h, hstack, hdrop]
  cases toPostfixWith (operator :: stack) rest <;> rfl

theorem map_append_map (result : Except Malformation (List Token)) (s t : List Token) :
    (result.map (t ++ ·)).map (s ++ ·) = result.map ((s ++ t) ++ ·) := by
  cases result <;> simp [Except.map]

theorem toPostfixWith_binary {operator : Token} {stack lhs rhs rest left right : List Token}
    (h : operator.isOperator = true) (hstack : stack.takeWhile (yieldsTo operator) = [])
    (hl : toPostfixWith stack (lhs ++ operator :: (rhs ++ rest)) =
      (toPostfixWith stack (operator :: (rhs ++ rest))).map (left ++ ·))
    (hr : toPostfixWith (operator :: stack) (rhs ++ rest) =
      (toPostfixWith (operator :: stack) rest).map (right ++ ·))
    (hrest : Releases rest operator) :
    toPostfixWith stack (lhs ++ operator :: (rhs ++ rest)) =
      (toPostfixWith stack rest).map ((left ++ (right ++ [operator])) ++ ·) := by
  rw [hl, toPostfixWith_operator h hstack, hr, hrest stack]
  rw [← map_append_map, ← map_append_map]
  rfl

theorem conjoin_group {tokens : List Token} (h : endsClosed false tokens = true) :
    conjoin false (.leftParen :: (tokens ++ [.rightParen])) =
      .leftParen :: (conjoin false tokens ++ [.rightParen]) := by
  simp only [conjoin, Token.closesOperand, Bool.false_and, Bool.false_eq_true, ↓reduceIte]
  rw [conjoin_append, h]
  simp [conjoin, Token.opensOperand]

theorem conjoin_binary {operator : Token} (hopens : operator.opensOperand = false)
    (hcloses : operator.closesOperand = false) (lhs rhs rest : List Token) :
    conjoin false (lhs ++ operator :: rhs) ++ rest =
      conjoin false lhs ++ operator :: (conjoin false rhs ++ rest) := by
  rw [conjoin_append]
  simp [conjoin, hopens, hcloses]

namespace Derives

variable {nonterminal : Nonterminal} {tokens : List Token} {tree : Expression}

theorem toPostfixWith_conjoin (h : Derives nonterminal tokens tree) (stack rest : List Token)
    (hstack : nonterminal.Rests stack) (hrest : nonterminal.Ended rest) :
    toPostfixWith stack (conjoin false tokens ++ rest) =
      (toPostfixWith stack rest).map (tree.postorder ++ ·) := by
  -- What is read leaves the stack as it was, and the tree is put out in post-order.
  induction h generalizing stack rest with
  | term => rfl
  | phrase => rfl
  | group h ih =>
    rw [conjoin_group (h.endsClosed_eq_true false)]
    simp only [List.cons_append, List.append_assoc, List.nil_append, toPostfixWith]
    rw [ih (.leftParen :: stack) (.rightParen :: rest) rfl (ended_orExpr_rightParen rest)]
    simp only [toPostfixWith, popToParen]
    cases toPostfixWith stack rest <;> rfl
  | ofPrimary _ ih => exact ih stack rest trivial trivial
  | not _ ih =>
    -- The stack may hold anything here, since a negation ends no operator.
    simp only [conjoin, Token.closesOperand, Bool.false_and, Bool.false_eq_true, ↓reduceIte]
    rw [List.cons_append, toPostfixWith_operator rfl (takeWhile_yieldsTo_not stack)]
    rw [ih (.not :: stack) rest trivial hrest, hrest stack]
    rw [Expression.postorder, ← map_append_map]
    rfl
  | ofNot _ ih => exact ih stack rest trivial hrest.1
  | and _ _ lih rih =>
    rw [conjoin_binary rfl rfl]
    apply toPostfixWith_binary rfl hstack
    · exact lih stack _ hstack (ended_andExpr_and _)
    · exact rih (.and :: stack) rest trivial hrest.1
    · exact hrest.2
  | impliedAnd hl hr lih rih =>
    rw [conjoin_append, hl.endsClosed_eq_true, hr.conjoin_true, List.append_assoc]
    apply toPostfixWith_binary rfl hstack
    · exact lih stack _ hstack (ended_andExpr_and _)
    · exact rih (.and :: stack) rest trivial hrest.1
    · exact hrest.2
  | ofAnd _ ih => exact ih stack rest (rests_andExpr_of_orExpr hstack) ⟨hrest.1, hrest.2.1⟩
  | or _ _ lih rih =>
    rw [conjoin_binary rfl rfl]
    apply toPostfixWith_binary rfl hstack
    · exact lih stack _ hstack (ended_orExpr_or _)
    · exact rih (.or :: stack) rest rfl ⟨hrest.1, hrest.2.1⟩
    · exact hrest.2.2

theorem toPostfix_withImpliedAnd (h : Derives .orExpr tokens tree) :
    toPostfix (withImpliedAnd tokens) = .ok tree.postorder := by
  have hrun := h.toPostfixWith_conjoin [] [] rfl ended_orExpr_nil
  rw [List.append_nil] at hrun
  unfold toPostfix
  rw [withImpliedAnd_eq_conjoin, hrun]
  simp [toPostfixWith, Except.map]

end Derives

end BooleanSearch
