import Mathlib.Control.Monad.Basic
import BooleanSearch.Proofs.Query.Balance
import BooleanSearch.Proofs.Query.ShuntingYard

/-!
This module contains the theorem that queries are accepted exactly if they have a derivation, and that
an accepted query is the post-order of its tree. Tokens whose conversion and check succeed are read
from the left: what was read so far either ends with a complete operand or waits for one.
-/

namespace BooleanSearch

/--
What was read ends with an operand, behind `depth` open parentheses: behind the innermost one stands a
complete expression, and any operand in the place of the group is again complete.
-/
def Complete : (depth : Nat) → List Token → Prop
  | 0, tokens => ∃ tree, Derives .orExpr tokens tree
  | depth + 1, tokens => ∃ outer inner tree, tokens = outer ++ .leftParen :: inner ∧
    Derives .orExpr inner tree ∧
    ∀ operand tree, Derives .notExpr operand tree → Complete depth (outer ++ operand)

/--
What was read becomes complete with any operand.
-/
def Awaits (depth : Nat) (tokens : List Token) : Prop :=
  ∀ operand tree, Derives .notExpr operand tree → Complete depth (tokens ++ operand)

theorem awaits_nil : Awaits 0 [] := by
  intro operand tree h
  exact ⟨tree, .ofAnd (.ofNot h)⟩

theorem Awaits.complete_primary {depth : Nat} {tokens operand : List Token} {tree : Expression}
    (h : Awaits depth tokens) (hoperand : Derives .primary operand tree) :
    Complete depth (tokens ++ operand) :=
  h operand tree (.ofPrimary hoperand)

theorem Awaits.not {depth : Nat} {tokens : List Token} (h : Awaits depth tokens) :
    Awaits depth (tokens ++ [.not]) := by
  intro operand tree hoperand
  rw [List.append_assoc]
  exact h (.not :: operand) (.not tree) (.not hoperand)

theorem Awaits.leftParen {depth : Nat} {tokens : List Token} (h : Awaits depth tokens) :
    Awaits (depth + 1) (tokens ++ [.leftParen]) := by
  intro operand tree hoperand
  refine ⟨tokens, operand, tree, ?_, .ofAnd (.ofNot hoperand), h⟩
  simp

theorem Complete.rightParen {depth : Nat} {tokens : List Token} (h : Complete (depth + 1) tokens) :
    Complete depth (tokens ++ [.rightParen]) := by
  obtain ⟨outer, inner, tree, rfl, hinner, houter⟩ := h
  rw [List.append_assoc]
  exact houter (.leftParen :: (inner ++ [.rightParen])) tree (.ofPrimary (.group hinner))

theorem Complete.extend {depth : Nat} {tokens behind : List Token} (h : Complete depth tokens)
    (hjoin : ∀ {lhs left}, Derives .orExpr lhs left → ∃ tree, Derives .orExpr (lhs ++ behind) tree) :
    Complete depth (tokens ++ behind) := by
  cases depth with
  | zero =>
    obtain ⟨left, hleft⟩ := h
    exact hjoin hleft
  | succ depth =>
    obtain ⟨outer, inner, left, rfl, hinner, houter⟩ := h
    obtain ⟨tree, htree⟩ := hjoin hinner
    refine ⟨outer, inner ++ behind, tree, ?_, htree, houter⟩
    simp

theorem Complete.or {depth : Nat} {tokens : List Token} (h : Complete depth tokens) :
    Awaits depth (tokens ++ [.or]) := by
  intro operand tree hoperand
  rw [List.append_assoc]
  apply h.extend
  intro lhs left hleft
  exact ⟨_, .or hleft (.ofNot hoperand)⟩

theorem Complete.and {depth : Nat} {tokens : List Token} (h : Complete depth tokens) :
    Awaits depth (tokens ++ [.and]) := by
  intro operand tree hoperand
  rw [List.append_assoc]
  apply h.extend
  intro lhs left hleft
  cases hleft with
  | ofAnd hand => exact ⟨_, .ofAnd (.and hand hoperand)⟩
  | @or lhs rhs _ _ hl hr =>
    rw [List.append_assoc, List.cons_append]
    exact ⟨_, .or hl (.and hr hoperand)⟩

theorem Complete.implied {depth : Nat} {tokens : List Token} (h : Complete depth tokens) :
    Awaits depth tokens := by
  intro operand tree hoperand
  apply h.extend
  intro lhs left hleft
  cases hleft with
  | ofAnd hand => exact ⟨_, .ofAnd (.impliedAnd hand hoperand)⟩
  | @or lhs rhs _ _ hl hr =>
    rw [List.append_assoc, List.cons_append]
    exact ⟨_, .or hl (.impliedAnd hr hoperand)⟩

def Readable (closed : Bool) (depth : Nat) (tokens : List Token) : Prop :=
  if closed then Complete depth tokens else Awaits depth tokens

theorem Readable.awaits {closed : Bool} {depth : Nat} {tokens : List Token}
    (h : Readable closed depth tokens) : Awaits depth tokens := by
  cases closed with
  | false => exact h
  | true => exact Complete.implied h

/--
Whether the operands of what is left are as many as its operators need, where the first one is there
already if what was read ends with an operand.
-/
def Sufficient (closed : Bool) (tokens : List Token) : Prop :=
  (conjoin closed tokens).countP Token.isLeaf =
    (conjoin closed tokens).countP Token.isBinary + (!closed).toNat

theorem Sufficient.closed_of_binary {closed : Bool} {operator : Token} {rest : List Token}
    (hoperator : operator.isBinary = true) (h : Sufficient closed (operator :: rest)) :
    closed = true ∧ Sufficient false rest := by
  have hle := countP_isLeaf_conjoin_le false rest
  unfold Sufficient at h ⊢
  cases operator with
  | and | or =>
    cases closed <;>
      simp [conjoin, Token.opensOperand, Token.closesOperand, Token.isLeaf, Token.isBinary,
        List.countP_cons] at h hle ⊢ <;>
      omega
  | not | term | phrase | leftParen | rightParen => simp [Token.isBinary] at hoperator

theorem Sufficient.closed_of_rightParen {closed : Bool} {rest : List Token}
    (h : Sufficient closed (.rightParen :: rest)) : closed = true ∧ Sufficient true rest := by
  have hle := countP_isLeaf_conjoin_le true rest
  unfold Sufficient at h ⊢
  cases closed <;>
    simp [conjoin, Token.opensOperand, Token.closesOperand, Token.isLeaf, Token.isBinary] at h hle ⊢
      <;>
    omega

theorem Sufficient.of_opensOperand {closed : Bool} {token : Token} {rest : List Token}
    (htoken : token.opensOperand = true) (h : Sufficient closed (token :: rest)) :
    Sufficient token.closesOperand rest := by
  unfold Sufficient at h ⊢
  cases token with
  | term | phrase | not | leftParen =>
    cases closed <;>
      simp [conjoin, Token.opensOperand, Token.closesOperand, Token.isLeaf, Token.isBinary,
        List.countP_cons] at h ⊢ <;>
      omega
  | and | or | rightParen => simp [Token.opensOperand] at htoken

theorem derives_of_readable (closed : Bool) (depth : Nat) (read tokens : List Token)
    (hread : Readable closed depth read) (hbalance : balancedFrom depth tokens = true)
    (hcount : Sufficient closed tokens) : ∃ tree, Derives .orExpr (read ++ tokens) tree := by
  -- A token in the wrong place would cost an operand that nothing behind it can make up for, so that
  -- what was read stays readable up to the end.
  induction tokens generalizing closed depth read with
  | nil =>
    cases closed with
    | false => simp [Sufficient, conjoin] at hcount
    | true =>
      have hdepth : depth = 0 := by simpa [balancedFrom] using hbalance
      subst hdepth
      rw [List.append_nil]
      exact hread
  | cons token rest ih =>
    rw [List.append_cons]
    cases token with
    | term word =>
      have hterm : Derives .primary [.term word] (.term word) := .term
      have hnext := hread.awaits.complete_primary hterm
      exact ih true depth _ hnext hbalance (hcount.of_opensOperand rfl)
    | phrase words distance =>
      have hphrase : Derives .primary [.phrase words distance] (.phrase words distance) := .phrase
      have hnext := hread.awaits.complete_primary hphrase
      exact ih true depth _ hnext hbalance (hcount.of_opensOperand rfl)
    | not => exact ih false depth _ hread.awaits.not hbalance (hcount.of_opensOperand rfl)
    | leftParen =>
      exact ih false (depth + 1) _ hread.awaits.leftParen hbalance (hcount.of_opensOperand rfl)
    | rightParen =>
      obtain ⟨rfl, hrest⟩ := hcount.closed_of_rightParen
      cases depth with
      | zero => simp [balancedFrom] at hbalance
      | succ depth => exact ih true depth _ (Complete.rightParen hread) hbalance hrest
    | and =>
      obtain ⟨rfl, hrest⟩ := hcount.closed_of_binary rfl
      exact ih false depth _ (Complete.and hread) hbalance hrest
    | or =>
      obtain ⟨rfl, hrest⟩ := hcount.closed_of_binary rfl
      exact ih false depth _ (Complete.or hread) hbalance hrest

namespace Postfix

theorem ofInfix_eq_ok_iff {tokens : List Token} {expr : Postfix} :
    ofInfix tokens = .ok expr ↔ toPostfix tokens = .ok expr.tokens := by
  unfold ofInfix
  constructor
  · intro h
    split at h
    · simp at h
    next heq =>
      split at h
      · simp at h
      · simp only [Except.ok.injEq] at h
        rw [← h, heq]
  · intro h
    have hchecked := expr.checked
    split
    next heq => simp [heq] at h
    next tokens' heq =>
      rw [heq, Except.ok.injEq] at h
      subst h
      split
      next herror => simp [hchecked] at herror
      next termCount hok =>
        rw [hchecked, Except.ok.injEq] at hok
        subst hok
        rfl

end Postfix

def Expression.listing (tree : Expression) : Postfix :=
  ⟨tree.postorder, tree.wordCount, tree.checkPostfix_postorder⟩

theorem Expression.leaves_listing (tree : Expression) : tree.listing.leaves = tree.leaves :=
  tree.filter_isLeaf_postorder

theorem Derives.ofInfix_withImpliedAnd {tokens : List Token} {tree : Expression}
    (h : Derives .orExpr tokens tree) : Postfix.ofInfix (withImpliedAnd tokens) = .ok tree.listing := by
  apply Postfix.ofInfix_eq_ok_iff.mpr
  exact h.toPostfix_withImpliedAnd

theorem exists_derives_of_ofInfix {tokens : List Token} {expr : Postfix}
    (h : Postfix.ofInfix (withImpliedAnd tokens) = .ok expr) :
    ∃ tree, Derives .orExpr tokens tree := by
  have hpostfix := Postfix.ofInfix_eq_ok_iff.mp h
  rw [withImpliedAnd_eq_conjoin] at hpostfix
  apply derives_of_readable false 0 [] tokens
  · exact awaits_nil
  · rw [← balancedFrom_conjoin false 0 tokens]
    exact (toPostfixWith_isOk_iff [] (conjoin false tokens)).mp ⟨expr.tokens, hpostfix⟩
  · have hchecked := countP_of_checkPostfix expr.checked
    have hleaf := countP_of_toPostfix (p := Token.isLeaf) rfl rfl hpostfix
    have hbinary := countP_of_toPostfix (p := Token.isBinary) rfl rfl hpostfix
    simp only [Sufficient, Bool.not_false, Bool.toNat_true]
    omega

theorem Derives.unique {tokens : List Token} {tree other : Expression}
    (h : Derives .orExpr tokens tree) (hother : Derives .orExpr tokens other) : other = tree := by
  have hsame := hother.ofInfix_withImpliedAnd
  rw [h.ofInfix_withImpliedAnd, Except.ok.injEq] at hsame
  exact Expression.postorder_injective (congrArg Postfix.tokens hsame.symm)

theorem tokenize_bind_ofInfix {query : Text} {raw : List Token}
    (h : (Lexer.ofText query).tokens = .ok raw) :
    (tokenize query).bind Postfix.ofInfix = Postfix.ofInfix (withImpliedAnd raw) := by
  unfold tokenize
  rw [h]
  rfl

/--
A query is accepted exactly if its tokens have a derivation. There is then one tree that they derive,
and the expression is its listing: the operands stand in their order, and their words are counted.
-/
theorem query_accepted_iff_derivable {query : Text} {raw : List Token}
    (h : (Lexer.ofText query).tokens = .ok raw) :
    ((∃ expr, (tokenize query).bind Postfix.ofInfix = .ok expr) ↔
      ∃ tree, Derives .orExpr raw tree) ∧
    ∀ expr, (tokenize query).bind Postfix.ofInfix = .ok expr →
      ∃ tree, (∀ other, Derives .orExpr raw other ↔ other = tree) ∧
        expr.tokens = tree.postorder ∧
        expr.leaves = raw.filter Token.isLeaf ∧
        expr.termCount = (expr.leaves.map Token.wordCount).sum := by
  rw [tokenize_bind_ofInfix h]
  refine ⟨?_, ?_⟩
  · constructor
    · rintro ⟨expr, hexpr⟩
      exact exists_derives_of_ofInfix hexpr
    · rintro ⟨tree, htree⟩
      exact ⟨tree.listing, htree.ofInfix_withImpliedAnd⟩
  · intro expr hexpr
    obtain ⟨tree, htree⟩ := exists_derives_of_ofInfix hexpr
    have hlisting := htree.ofInfix_withImpliedAnd
    rw [hexpr, Except.ok.injEq] at hlisting
    subst hlisting
    refine ⟨tree, ?_, rfl, ?_, ?_⟩
    · intro other
      constructor
      · intro hother
        have hsame := hother.ofInfix_withImpliedAnd
        rw [hexpr, Except.ok.injEq] at hsame
        exact Expression.postorder_injective (congrArg Postfix.tokens hsame.symm)
      · rintro rfl
        exact htree
    · rw [tree.leaves_listing, htree.leaves_eq]
    · rw [tree.leaves_listing]
      rfl

theorem implied_and_query_derivable :
    (Lexer.ofText "!a (b | \"c d\"/2)".toList).tokens =
      .ok [.not, .term ['a'], .leftParen, .term ['b'], .or, .phrase [['c'], ['d']] (some 2),
        .rightParen] ∧
    ∃ expr, (tokenize "!a (b | \"c d\"/2)".toList).bind Postfix.ofInfix = .ok expr ∧
      expr.tokens = [.term ['a'], .not, .term ['b'], .phrase [['c'], ['d']] (some 2), .or, .and] ∧
      expr.termCount = 4 := by
  have hlex : (Lexer.ofText "!a (b | \"c d\"/2)".toList).tokens =
      .ok [.not, .term ['a'], .leftParen, .term ['b'], .or, .phrase [['c'], ['d']] (some 2),
        .rightParen] := by
    decide +kernel
  obtain ⟨haccepted, htree⟩ := query_accepted_iff_derivable hlex
  have hgroup : Derives .orExpr [.term ['b'], .or, .phrase [['c'], ['d']] (some 2)]
      (.or (.term ['b']) (.phrase [['c'], ['d']] (some 2))) :=
    .or (.ofAnd (.ofNot (.ofPrimary .term))) (.ofNot (.ofPrimary .phrase))
  have hderives : Derives .orExpr [.not, .term ['a'], .leftParen, .term ['b'], .or,
      .phrase [['c'], ['d']] (some 2), .rightParen]
      (.and (.not (.term ['a'])) (.or (.term ['b']) (.phrase [['c'], ['d']] (some 2)))) :=
    .ofAnd (.impliedAnd (.ofNot (.not (.ofPrimary .term))) (.ofPrimary (.group hgroup)))
  obtain ⟨expr, hexpr⟩ := haccepted.mpr ⟨_, hderives⟩
  obtain ⟨tree, hunique, htokens, hleaves, hcount⟩ := htree expr hexpr
  obtain rfl := (hunique _).mp hderives
  refine ⟨hlex, expr, hexpr, htokens, ?_⟩
  rw [hcount, hleaves]
  rfl

end BooleanSearch
