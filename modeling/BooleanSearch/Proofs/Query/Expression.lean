import Mathlib.Algebra.GroupWithZero.Nat
import BooleanSearch.Query.Postfix

/-!
This module contains the trees that postfix expressions are listings of. Listing a tree in post-order
and checking the list gives the number of words of the tree, only such lists pass the check, and no two
trees have the same list.
-/

namespace BooleanSearch

inductive Expression where
  | term (word : Text)
  | phrase (words : List Text) (distance : Option UInt32)
  | not (operand : Expression)
  | and (left right : Expression)
  | or (left right : Expression)
deriving DecidableEq, Repr

namespace Expression

def postorder : Expression → List Token
  | term word => [.term word]
  | phrase words distance => [.phrase words distance]
  | not operand => operand.postorder ++ [.not]
  | and left right => left.postorder ++ (right.postorder ++ [.and])
  | or left right => left.postorder ++ (right.postorder ++ [.or])

def leaves : Expression → List Token
  | term word => [.term word]
  | phrase words distance => [.phrase words distance]
  | not operand => operand.leaves
  | and left right | or left right => left.leaves ++ right.leaves

def wordCount (tree : Expression) : Nat := (tree.leaves.map Token.wordCount).sum

theorem filter_isLeaf_postorder (tree : Expression) :
    tree.postorder.filter Token.isLeaf = tree.leaves := by
  induction tree with
  | term => rfl
  | phrase => rfl
  | not operand ih =>
    simp only [postorder, leaves, List.filter_append, ih]
    simp [Token.isLeaf]
  | and left right lih rih | or left right lih rih =>
    simp only [postorder, leaves, List.filter_append, lih, rih]
    simp [Token.isLeaf]

theorem checkPostfixFrom_postorder (tree : Expression) (operands words position : Nat)
    (rest : List Token) :
    checkPostfixFrom operands words position (tree.postorder ++ rest) =
      checkPostfixFrom (operands + 1) (words + tree.wordCount)
        (position + tree.postorder.length) rest := by
  induction tree generalizing operands words position rest with
  | term => rfl
  | phrase => rfl
  | not operand ih =>
    simp only [postorder, List.append_assoc]
    rw [ih]
    simp [checkPostfixFrom, wordCount, leaves, Nat.add_assoc]
  | and left right lih rih | or left right lih rih =>
    simp only [postorder, List.append_assoc]
    rw [lih, rih]
    have hoperands : ¬ operands + 1 + 1 < 2 := by omega
    simp [checkPostfixFrom, wordCount, leaves, hoperands, Nat.add_assoc]

theorem checkPostfix_postorder (tree : Expression) :
    checkPostfix tree.postorder = .ok tree.wordCount := by
  have h := checkPostfixFrom_postorder tree 0 0 0 []
  rw [List.append_nil] at h
  unfold checkPostfix
  rw [h]
  simp [checkPostfixFrom]

theorem exists_postorder_of_checkPostfixFrom (trees : List Expression)
    {words position count : Nat} {tokens : List Token}
    (h : checkPostfixFrom trees.length words position tokens = .ok count) :
    ∃ tree : Expression, tree.postorder = trees.reverse.flatMap postorder ++ tokens := by
  induction tokens generalizing trees words position with
  | nil =>
    simp only [checkPostfixFrom] at h
    split at h
    next hone =>
      obtain ⟨tree, rfl⟩ := List.length_eq_one_iff.mp hone
      exact ⟨tree, by simp⟩
    next => cases h
  | cons token rest ih =>
    cases token with
    | term word => simpa [postorder] using ih (.term word :: trees) h
    | phrase words distance => simpa [postorder] using ih (.phrase words distance :: trees) h
    | not =>
      match trees with
      | [] => cases h
      | operand :: below => simpa [postorder] using ih (.not operand :: below) h
    | and =>
      match trees with
      | [] | [_] => cases h
      | right :: left :: below => simpa [postorder] using ih (.and left right :: below) h
    | or =>
      match trees with
      | [] | [_] => cases h
      | right :: left :: below => simpa [postorder] using ih (.or left right :: below) h
    | leftParen | rightParen => cases h

theorem exists_postorder_of_checkPostfix {tokens : List Token} {count : Nat}
    (h : checkPostfix tokens = .ok count) : ∃ tree : Expression, tree.postorder = tokens :=
  exists_postorder_of_checkPostfixFrom [] h

def rebuild : List Expression → List Token → List Expression
  | stack, [] => stack
  | stack, .term word :: rest => rebuild (.term word :: stack) rest
  | stack, .phrase words distance :: rest => rebuild (.phrase words distance :: stack) rest
  | operand :: stack, .not :: rest => rebuild (.not operand :: stack) rest
  | right :: left :: stack, .and :: rest => rebuild (.and left right :: stack) rest
  | right :: left :: stack, .or :: rest => rebuild (.or left right :: stack) rest
  | _, _ :: _ => []

theorem rebuild_postorder (tree : Expression) (stack : List Expression) (rest : List Token) :
    rebuild stack (tree.postorder ++ rest) = rebuild (tree :: stack) rest := by
  induction tree generalizing stack rest with
  | term => rfl
  | phrase => rfl
  | not operand ih =>
    simp only [postorder, List.append_assoc]
    rw [ih]
    rfl
  | and left right lih rih | or left right lih rih =>
    simp only [postorder, List.append_assoc]
    rw [lih, rih]
    rfl

theorem postorder_injective : Function.Injective postorder := by
  intro s t h
  have hs := rebuild_postorder s [] []
  have ht := rebuild_postorder t [] []
  rw [h, ht] at hs
  simpa [rebuild] using hs.symm

end Expression

end BooleanSearch
