import BooleanSearch.Proofs.Query.Balance

/-!
This module contains the theorem that the conversion to postfix order fails exactly if the parentheses
of an expression do not balance, and otherwise moves its operators without losing or adding any. The
tokens may be any list, also one that is no expression.
-/

namespace BooleanSearch

theorem forall_prefix_cons {α : Type} {p : List α → Prop} {a : α} {l : List α} :
    (∀ read, read <+: a :: l → p read) ↔ p [] ∧ ∀ read, read <+: l → p (a :: read) := by
  simp only [List.prefix_cons_iff]
  grind

theorem balancedFrom_iff_count {depth : Nat} {tokens : List Token} :
    balancedFrom depth tokens = true ↔
      (∀ read, read <+: tokens → read.count .rightParen ≤ depth + read.count .leftParen) ∧
        depth + tokens.count .leftParen = tokens.count .rightParen := by
  induction tokens generalizing depth with
  | nil => simp [balancedFrom]
  | cons token rest ih =>
    rw [forall_prefix_cons]
    cases token with
    | term | phrase | and | or | not => simp [balancedFrom, ih]
    | leftParen => simp [balancedFrom, ih, Nat.add_assoc, Nat.add_comm 1]
    | rightParen =>
      cases depth with
      | zero =>
        -- Nothing is open, so that the first token already closes too much.
        simp only [balancedFrom, Bool.false_eq_true, false_iff]
        rintro ⟨⟨-, hrest⟩, -⟩
        have hfirst := hrest [] List.nil_prefix
        simp at hfirst
      | succ depth => simp [balancedFrom, ih, Nat.add_right_comm depth 1]

theorem not_balancedFrom_iff {tokens : List Token} :
    ¬ balancedFrom 0 tokens = true ↔
      (∃ read, read <+: tokens ∧ read.count .leftParen < read.count .rightParen) ∨
        tokens.count .rightParen < tokens.count .leftParen := by
  rw [balancedFrom_iff_count]
  simp only [Nat.zero_add]
  constructor
  · intro hunbalanced
    by_cases hbounded : ∀ read, read <+: tokens → read.count .rightParen ≤ read.count .leftParen
    · have hle := hbounded tokens List.prefix_rfl
      have hne := fun heq => hunbalanced ⟨hbounded, heq⟩
      exact .inr (Nat.lt_of_le_of_ne hle (Ne.symm hne))
    · obtain ⟨read, hread⟩ := not_forall.mp hbounded
      obtain ⟨hread, hlt⟩ := Classical.not_imp.mp hread
      exact .inl ⟨read, hread, Nat.lt_of_not_le hlt⟩
  · rintro (⟨read, hread, hlt⟩ | hlt) ⟨hbounded, htotal⟩
    · exact Nat.not_lt.mpr (hbounded read hread) hlt
    · omega

theorem Token.isLeaf_of_isOperator {token : Token} (h : token.isOperator = true) :
    token.isLeaf = false := by
  cases token with
  | and | or | not => rfl
  | term | phrase | leftParen | rightParen => cases h

theorem filter_isLeaf_of_operators {tokens : List Token}
    (h : ∀ token ∈ tokens, token.isOperator = true) : tokens.filter Token.isLeaf = [] := by
  rw [List.filter_eq_nil_iff]
  intro token hmem
  simp [Token.isLeaf_of_isOperator (h token hmem)]

namespace Converts

variable {stack tokens out : List Token}

theorem isLeaf_or_isOperator (h : Converts stack tokens out) :
    ∀ token ∈ out, token.isLeaf = true ∨ token.isOperator = true := by
  induction h with
  | done h => exact fun token hmem => .inr (h token hmem)
  | leaf htoken _ ih =>
    rw [List.forall_mem_cons]
    exact ⟨.inl htoken, ih⟩
  | operator _ hpopped _ ih | rightParen hpopped _ ih =>
    rw [List.forall_mem_append]
    exact ⟨fun token hmem => .inr (hpopped token hmem), ih⟩
  | leftParen _ ih => exact ih

theorem filter_isLeaf (h : Converts stack tokens out) :
    out.filter Token.isLeaf = tokens.filter Token.isLeaf := by
  induction h with
  | done h => exact filter_isLeaf_of_operators h
  | leaf htoken _ ih =>
    rw [List.filter_cons_of_pos htoken, List.filter_cons_of_pos htoken, ih]
  | operator htoken hpopped _ ih =>
    rw [List.filter_append, filter_isLeaf_of_operators hpopped, List.nil_append, ih]
    simp [Token.isLeaf_of_isOperator htoken]
  | leftParen _ ih => exact ih
  | rightParen hpopped _ ih =>
    rw [List.filter_append, filter_isLeaf_of_operators hpopped, List.nil_append, ih]
    rfl

end Converts

theorem toPostfix_fails_iff {tokens : List Token} :
    (∃ malformation, toPostfix tokens = .error malformation) ↔ ¬ balancedFrom 0 tokens = true := by
  have hok : (∃ out, toPostfix tokens = .ok out) ↔ balancedFrom 0 tokens = true :=
    toPostfixWith_isOk_iff [] tokens
  rw [← hok]
  cases toPostfix tokens <;> simp

/--
The conversion to postfix order fails exactly if some prefix closes more parentheses than it opens, or
more are opened than closed in all. Otherwise the parentheses are gone, every other token is there as
often as before, and the operands stand in their order.
-/
theorem tokens_conserved_unless_unbalanced (tokens : List Token) :
    ((∃ malformation, toPostfix tokens = .error malformation) ↔
      (∃ read, read <+: tokens ∧ read.count .leftParen < read.count .rightParen) ∨
        tokens.count .rightParen < tokens.count .leftParen) ∧
    ∀ out, toPostfix tokens = .ok out →
      (.leftParen ∉ out ∧ .rightParen ∉ out) ∧
      (∀ token, token ≠ .leftParen → token ≠ .rightParen →
        out.count token = tokens.count token) ∧
      out.filter Token.isLeaf = tokens.filter Token.isLeaf := by
  refine ⟨toPostfix_fails_iff.trans not_balancedFrom_iff, fun out h => ⟨?_, ?_, ?_⟩⟩
  · have hout := (converts_of_toPostfix h).isLeaf_or_isOperator
    exact ⟨fun hmem => by simpa [Token.isLeaf, Token.isOperator] using hout _ hmem,
      fun hmem => by simpa [Token.isLeaf, Token.isOperator] using hout _ hmem⟩
  · intro token hleft hright
    exact countP_of_toPostfix (by simpa using hleft.symm) (by simpa using hright.symm) h
  · exact (converts_of_toPostfix h).filter_isLeaf

theorem scattered_tokens_conserved :
    ∃ out, toPostfix [.or, .leftParen, .not, .term ['a'], .and, .term ['b'], .rightParen, .or,
        .term ['a']] = .ok out ∧
      out.count .or = 2 ∧ .leftParen ∉ out ∧
      out.filter Token.isLeaf = [.term ['a'], .term ['b'], .term ['a']] := by
  obtain ⟨-, hconserved⟩ := tokens_conserved_unless_unbalanced
    [.or, .leftParen, .not, .term ['a'], .and, .term ['b'], .rightParen, .or, .term ['a']]
  have hconverted : toPostfix [.or, .leftParen, .not, .term ['a'], .and, .term ['b'], .rightParen,
      .or, .term ['a']] = .ok [.term ['a'], .not, .term ['b'], .and, .or, .term ['a'], .or] := rfl
  obtain ⟨hfree, hcount, hleaves⟩ := hconserved _ hconverted
  refine ⟨_, hconverted, ?_, hfree.1, hleaves⟩
  exact hcount .or nofun nofun

end BooleanSearch
