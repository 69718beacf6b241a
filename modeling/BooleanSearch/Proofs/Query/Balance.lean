import BooleanSearch.Proofs.Query.Grammar

/-!
This module contains what a successful conversion to postfix order and a successful check say about
the tokens: the parentheses balance, no token is lost, and there is one operand more than there are
operators between two operands. What a conversion does step by step is the relation `Converts`, on
which everything about its result is an induction.
-/

namespace BooleanSearch

def Token.isBinary : Token → Bool
  | and | or => true
  | _ => false

def balancedFrom : (depth : Nat) → List Token → Bool
  | depth, [] => depth == 0
  | depth, .leftParen :: rest => balancedFrom (depth + 1) rest
  | 0, .rightParen :: _ => false
  | depth + 1, .rightParen :: rest => balancedFrom depth rest
  | depth, _ :: rest => balancedFrom depth rest

theorem eq_append_of_popToParen {stack popped below : List Token}
    (h : popToParen stack = some (popped, below)) : stack = popped ++ .leftParen :: below := by
  induction stack using popToParen.induct generalizing popped below with
  | case1 => simp [popToParen] at h
  | case2 stack =>
    simp only [popToParen, Option.some.injEq, Prod.mk.injEq] at h
    rw [← h.1, ← h.2]
    rfl
  | case3 operator stack hne popped' below' heq ih =>
    simp only [popToParen, heq, Option.some.injEq, Prod.mk.injEq] at h
    rw [ih heq, ← h.1, ← h.2]
    rfl
  | case4 operator stack hne heq ih => simp [popToParen, heq] at h

theorem popToParen_eq_none_iff {stack : List Token} :
    popToParen stack = none ↔ .leftParen ∉ stack := by
  induction stack using popToParen.induct with
  | case1 => simp [popToParen]
  | case2 stack => simp [popToParen]
  | case3 operator stack hne popped below heq ih =>
    simp only [popToParen, heq, List.mem_cons]
    have := eq_append_of_popToParen heq
    simp [this]
  | case4 operator stack hne heq ih =>
    simp only [popToParen, heq, List.mem_cons]
    have hstack : .leftParen ∉ stack := ih.mp heq
    simp [hstack, Ne.symm hne]

theorem popToParen_leftParen_free {stack popped below : List Token}
    (h : popToParen stack = some (popped, below)) : .leftParen ∉ popped := by
  induction stack using popToParen.induct generalizing popped below with
  | case1 => simp [popToParen] at h
  | case2 stack =>
    simp only [popToParen, Option.some.injEq, Prod.mk.injEq] at h
    simp [← h.1]
  | case3 operator stack hne popped' below' heq ih =>
    simp only [popToParen, heq, Option.some.injEq, Prod.mk.injEq] at h
    rw [← h.1]
    simp [ih heq, Ne.symm hne]
  | case4 operator stack hne heq ih => simp [popToParen, heq] at h

theorem leftParen_free_takeWhile (operator : Token) (stack : List Token) :
    .leftParen ∉ stack.takeWhile (yieldsTo operator) := by
  intro h
  have := List.all_eq_true.mp List.all_takeWhile _ h
  simp [yieldsTo] at this

theorem count_leftParen_dropWhile (operator : Token) (stack : List Token) :
    (stack.dropWhile (yieldsTo operator)).count .leftParen = stack.count .leftParen := by
  have hsplit := List.takeWhile_append_dropWhile (p := yieldsTo operator) (l := stack)
  have hzero := List.count_eq_zero.mpr (leftParen_free_takeWhile operator stack)
  conv => rhs; rw [← hsplit]
  rw [List.count_append, hzero, Nat.zero_add]

theorem exists_map_eq_ok {result : Except Malformation (List Token)}
    {f : List Token → List Token} :
    (∃ out, result.map f = .ok out) ↔ ∃ out, result = .ok out := by
  cases result <;> simp [Except.map]

theorem toPostfixWith_isOk_iff (stack tokens : List Token) :
    (∃ out, toPostfixWith stack tokens = .ok out) ↔
      balancedFrom (stack.count .leftParen) tokens = true := by
  induction tokens generalizing stack with
  | nil =>
    simp only [toPostfixWith, balancedFrom, beq_iff_eq, List.count_eq_zero]
    split
    next h => simp [h]
    next h => simp [h]
  | cons token rest ih =>
    cases token with
    | term | phrase =>
      rw [toPostfixWith_cons_leaf rfl, exists_map_eq_ok, ih]
      simp only [balancedFrom]
    | and | or | not =>
      rw [toPostfixWith_cons_operator rfl, exists_map_eq_ok, ih]
      simp [balancedFrom, count_leftParen_dropWhile]
    | leftParen =>
      simp only [toPostfixWith, balancedFrom]
      rw [ih, List.count_cons_self]
    | rightParen =>
      simp only [toPostfixWith]
      cases hpop : popToParen stack with
      | none =>
        have hzero := List.count_eq_zero.mpr (popToParen_eq_none_iff.mp hpop)
        simp [hzero, balancedFrom]
      | some cut =>
        obtain ⟨popped, below⟩ := cut
        -- The parenthesis that is closed is the only one that leaves the stack.
        have hcount : stack.count .leftParen = below.count .leftParen + 1 := by
          rw [eq_append_of_popToParen hpop, List.count_append, List.count_cons_self]
          rw [List.count_eq_zero.mpr (popToParen_leftParen_free hpop)]
          omega
        simp only
        rw [exists_map_eq_ok, ih, hcount, balancedFrom]

theorem map_eq_ok_iff {result : Except Malformation (List Token)} {f : List Token → List Token}
    {out : List Token} : result.map f = .ok out ↔ ∃ rest, result = .ok rest ∧ f rest = out := by
  cases result <;> simp [Except.map]

/--
What may stand on the stack: operators that wait for their right operands, and open parentheses.
-/
def Waiting (stack : List Token) : Prop :=
  ∀ token ∈ stack, token.isOperator = true ∨ token = .leftParen

theorem Waiting.isOperator {stack : List Token} (h : Waiting stack) (hfree : .leftParen ∉ stack) :
    ∀ token ∈ stack, token.isOperator = true := by
  intro token hmem
  cases h token hmem with
  | inl hoperator => exact hoperator
  | inr hopen => exact absurd (hopen ▸ hmem) hfree

/--
How the rest of an infix expression is converted if its parentheses balance. An operator and a closing
parenthesis each put out the operators that are complete, and the parenthesis takes its partner from
the stack.
-/
inductive Converts : (stack tokens out : List Token) → Prop where
  | done {stack} (h : ∀ token ∈ stack, token.isOperator = true) : Converts stack [] stack
  | leaf {stack token rest out} (htoken : token.isLeaf = true) (h : Converts stack rest out) :
    Converts stack (token :: rest) (token :: out)
  | operator {popped below token rest out} (htoken : token.isOperator = true)
    (hpopped : ∀ token ∈ popped, token.isOperator = true)
    (h : Converts (token :: below) rest out) :
    Converts (popped ++ below) (token :: rest) (popped ++ out)
  | leftParen {stack rest out} (h : Converts (.leftParen :: stack) rest out) :
    Converts stack (.leftParen :: rest) out
  | rightParen {popped below rest out} (hpopped : ∀ token ∈ popped, token.isOperator = true)
    (h : Converts below rest out) :
    Converts (popped ++ .leftParen :: below) (.rightParen :: rest) (popped ++ out)

theorem converts_operator {token : Token} {stack tokens : List Token}
    (htoken : token.isOperator = true) (hstack : Waiting stack)
    (ih : ∀ {stack out}, Waiting stack → toPostfixWith stack tokens = .ok out →
      Converts stack tokens out)
    {out : List Token} (h : toPostfixWith stack (token :: tokens) = .ok out) :
    Converts stack (token :: tokens) out := by
  rw [toPostfixWith_cons_operator htoken] at h
  obtain ⟨behind, hbehind, rfl⟩ := map_eq_ok_iff.mp h
  have hfree := leftParen_free_takeWhile token stack
  rw [← List.takeWhile_append_dropWhile (p := yieldsTo token) (l := stack)] at hstack
  obtain ⟨hpopped, hbelow⟩ := List.forall_mem_append.mp hstack
  have hconverts := Converts.operator htoken (Waiting.isOperator hpopped hfree)
    (ih (List.forall_mem_cons.mpr ⟨.inl htoken, hbelow⟩) hbehind)
  rwa [List.takeWhile_append_dropWhile] at hconverts

theorem converts_of_toPostfixWith {stack tokens out : List Token} (hstack : Waiting stack)
    (h : toPostfixWith stack tokens = .ok out) : Converts stack tokens out := by
  induction tokens generalizing stack out with
  | nil =>
    simp only [toPostfixWith] at h
    split at h
    next => cases h
    next hfree =>
      cases h
      exact .done (hstack.isOperator hfree)
  | cons token rest ih =>
    cases token with
    | term | phrase =>
      rw [toPostfixWith_cons_leaf rfl] at h
      obtain ⟨behind, hbehind, rfl⟩ := map_eq_ok_iff.mp h
      exact .leaf rfl (ih hstack hbehind)
    | and | or | not => exact converts_operator rfl hstack ih h
    | leftParen => exact .leftParen (ih (List.forall_mem_cons.mpr ⟨.inr rfl, hstack⟩) h)
    | rightParen =>
      simp only [toPostfixWith] at h
      cases hpop : popToParen stack with
      | none => simp [hpop] at h
      | some cut =>
        obtain ⟨popped, below⟩ := cut
        simp only [hpop] at h
        obtain ⟨behind, hbehind, rfl⟩ := map_eq_ok_iff.mp h
        rw [eq_append_of_popToParen hpop] at hstack ⊢
        obtain ⟨hpopped, hbelow⟩ := List.forall_mem_append.mp hstack
        refine .rightParen (Waiting.isOperator hpopped (popToParen_leftParen_free hpop)) ?_
        exact ih (List.forall_mem_cons.mp hbelow).2 hbehind

theorem converts_of_toPostfix {tokens out : List Token} (h : toPostfix tokens = .ok out) :
    Converts [] tokens out :=
  converts_of_toPostfixWith (fun _ hmem => absurd hmem List.not_mem_nil) h

theorem Converts.countP_eq {p : Token → Bool} (hleft : p .leftParen = false)
    (hright : p .rightParen = false) {stack tokens out : List Token}
    (h : Converts stack tokens out) : out.countP p = stack.countP p + tokens.countP p := by
  induction h with
  | done => simp
  | leaf _ _ ih =>
    simp only [List.countP_cons]
    omega
  | operator _ _ _ ih =>
    simp only [List.countP_append, List.countP_cons] at ih ⊢
    omega
  | leftParen _ ih => simpa [hleft] using ih
  | rightParen _ _ ih =>
    simp only [List.countP_append, List.countP_cons, hleft, hright]
    simp only [Bool.false_eq_true, ↓reduceIte]
    omega

theorem countP_of_toPostfix {p : Token → Bool} (hleft : p .leftParen = false)
    (hright : p .rightParen = false) {tokens out : List Token} (h : toPostfix tokens = .ok out) :
    out.countP p = tokens.countP p := by
  rw [(converts_of_toPostfix h).countP_eq hleft hright, List.countP_nil, Nat.zero_add]

theorem Expression.countP_isLeaf_postorder (tree : Expression) :
    tree.postorder.countP Token.isLeaf = tree.postorder.countP Token.isBinary + 1 := by
  induction tree with
  | term | phrase => rfl
  | not operand ih =>
    simp only [postorder, List.countP_append, ih]
    rfl
  | and left right lih rih | or left right lih rih =>
    simp only [postorder, List.countP_append, lih, rih]
    simp [Token.isLeaf, Token.isBinary]
    omega

theorem countP_of_checkPostfix {tokens : List Token} {count : Nat}
    (h : checkPostfix tokens = .ok count) :
    tokens.countP Token.isLeaf = tokens.countP Token.isBinary + 1 := by
  obtain ⟨tree, rfl⟩ := Expression.exists_postorder_of_checkPostfix h
  exact tree.countP_isLeaf_postorder

theorem countP_isLeaf_conjoin_le (closed : Bool) (tokens : List Token) :
    (conjoin closed tokens).countP Token.isLeaf ≤
      (conjoin closed tokens).countP Token.isBinary + (!closed).toNat := by
  -- No operand follows another directly, so that each but the first has an operator in front.
  induction tokens generalizing closed with
  | nil => simp [conjoin]
  | cons token rest ih =>
    have hopen := ih false
    have hclosed := ih true
    simp only [Bool.not_false, Bool.toNat_true, Bool.not_true, Bool.toNat_false] at hopen hclosed
    cases closed <;> cases token <;>
      simp [conjoin, Token.opensOperand, Token.closesOperand, Token.isLeaf, Token.isBinary,
        List.countP_cons] <;>
      omega

theorem balancedFrom_conjoin (closed : Bool) (depth : Nat) (tokens : List Token) :
    balancedFrom depth (conjoin closed tokens) = balancedFrom depth tokens := by
  induction tokens generalizing closed depth with
  | nil => rfl
  | cons token rest ih =>
    cases token with
    | term | phrase | not | leftParen =>
      simp only [conjoin]
      split <;> simp only [balancedFrom, ih]
    | and | or =>
      simp [conjoin, Token.opensOperand, balancedFrom, ih]
    | rightParen =>
      simp only [conjoin, Token.opensOperand, Bool.and_false, Bool.false_eq_true, ↓reduceIte]
      cases depth with
      | zero => rfl
      | succ depth => simp only [balancedFrom, ih]

end BooleanSearch
