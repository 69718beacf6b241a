import BooleanSearch.Proofs.Query.Recognition
import BooleanSearch.Proofs.Query.Spelling
import BooleanSearch.Query.Compiler

/-!
This module contains the theorem that the infix form of a compiled query is compiled to the same
expression again.
-/

namespace BooleanSearch

namespace Expression

def infixTokens : Expression → List Token
  | term word => [.term word]
  | phrase words distance => [.phrase words distance]
  | not operand => .not :: .leftParen :: (operand.infixTokens ++ [.rightParen])
  | and left right =>
    .leftParen :: (left.infixTokens ++ .and :: (right.infixTokens ++ [.rightParen]))
  | or left right =>
    .leftParen :: (left.infixTokens ++ .or :: (right.infixTokens ++ [.rightParen]))

def infixForm : Expression → Text
  | term word => (Token.term word).text
  | phrase words distance => (Token.phrase words distance).text
  | not operand => '!' :: '(' :: (operand.infixForm ++ [')'])
  | and left right => '(' :: (left.infixForm ++ ' ' :: '&' :: ' ' :: (right.infixForm ++ [')']))
  | or left right => '(' :: (left.infixForm ++ ' ' :: '|' :: ' ' :: (right.infixForm ++ [')']))

theorem foldl_reduceInfix_postorder (tree : Expression) (stack : List Text) :
    tree.postorder.foldl Postfix.reduceInfix stack = tree.infixForm :: stack := by
  induction tree generalizing stack with
  | term => rfl
  | phrase => rfl
  | not operand ih =>
    simp only [postorder, List.foldl_append, ih]
    rfl
  | and left right lih rih | or left right lih rih =>
    simp only [postorder, List.foldl_append, lih, rih]
    rfl

theorem infixText_listing (tree : Expression) : tree.listing.infixText = tree.infixForm := by
  unfold Postfix.infixText listing
  rw [foldl_reduceInfix_postorder]
  rfl

theorem derives_infixTokens (tree : Expression) : Derives .notExpr tree.infixTokens tree := by
  induction tree with
  | term => exact .ofPrimary .term
  | phrase => exact .ofPrimary .phrase
  | not operand ih => exact .not (.ofPrimary (.group (.ofAnd (.ofNot ih))))
  | and left right lih rih =>
    simpa [infixTokens] using Derives.ofPrimary (.group (.ofAnd (.and (.ofNot lih) rih)))
  | or left right lih rih =>
    simpa [infixTokens] using Derives.ofPrimary (.group (.or (.ofAnd (.ofNot lih)) (.ofNot rih)))

/--
In front of anything but an operand, the text spells the tokens.
-/
def SpellsOperand (tokens : List Token) (text : Text) : Prop :=
  ∀ {behind rest}, Spells behind rest → (∀ next ∈ behind.head?, next.isLeaf = false) →
    Spells (tokens ++ behind) (text ++ rest)

theorem spellsOperand_binary {operator : Token} {c : Char} {lhs rhs : List Token}
    {left right : Text} (hoperator : Token.ofChar? c = some operator)
    (hleaf : operator.isLeaf = false) (hl : SpellsOperand lhs left) (hr : SpellsOperand rhs right) :
    SpellsOperand (.leftParen :: (lhs ++ operator :: (rhs ++ [.rightParen])))
      ('(' :: (left ++ ' ' :: c :: ' ' :: (right ++ [')']))) := by
  intro behind rest h _
  have hclose : Spells (.rightParen :: behind) (')' :: rest) := h.symbol rfl
  have hright := hr hclose (by simp [Token.isLeaf])
  have hmiddle := (hright.blank.symbol hoperator).blank
  have hleft := hl hmiddle (by simpa using hleaf)
  have hopen : Spells (.leftParen :: _) ('(' :: _) := hleft.symbol rfl
  simpa using hopen

theorem spellsOperand_infixForm (tree : Expression) :
    SpellsOperand tree.infixTokens tree.infixForm := by
  induction tree with
  | term word => exact fun h hnext => .cons h fun _ => hnext
  | phrase words distance => exact fun h hnext => .cons h fun _ => hnext
  | not operand ih =>
    intro behind rest h _
    have hclose : Spells (.rightParen :: behind) (')' :: rest) := h.symbol rfl
    have hoperand := ih hclose (by simp [Token.isLeaf])
    have hopen : Spells (.not :: .leftParen :: _) ('!' :: '(' :: _) :=
      (hoperand.symbol rfl).symbol rfl
    simpa [infixTokens, infixForm] using hopen
  | and left right lih rih => exact spellsOperand_binary rfl rfl lih rih
  | or left right lih rih => exact spellsOperand_binary rfl rfl lih rih

theorem spells_infixForm (tree : Expression) : Spells tree.infixTokens tree.infixForm := by
  simpa using tree.spellsOperand_infixForm .nil (by simp)

variable {tree : Expression}

theorem undoubled_binary {c d : Char} {left right : Text} (hc : c = '&' ∨ c = '|')
    (hl : Text.Undoubled c left) (hr : Text.Undoubled c right) :
    Text.Undoubled c ('(' :: (left ++ ' ' :: d :: ' ' :: (right ++ [')']))) := by
  obtain ⟨hopen, hblank, hclose⟩ : '(' ≠ c ∧ ' ' ≠ c ∧ ')' ≠ c := by
    rcases hc with rfl | rfl <;> decide
  have hright : Text.Undoubled c (right ++ [')']) :=
    hr.append (List.isChain_singleton _) (by simpa using hclose)
  have hmiddle : Text.Undoubled c (' ' :: d :: ' ' :: (right ++ [')'])) :=
    ((hright.cons fun h => absurd h hblank).cons fun _ => by simpa using hblank).cons
      fun h => absurd h hblank
  exact (hl.append hmiddle (by simpa using hblank)).cons fun h => absurd h hopen

theorem undoubled_infixForm {c : Char} (hc : c = '&' ∨ c = '|')
    (h : ∀ leaf ∈ tree.leaves, leaf.Legible) : Text.Undoubled c tree.infixForm := by
  induction tree with
  | term | phrase =>
    have hreserved : isReserved c = true := by rcases hc with rfl | rfl <;> decide
    exact Token.undoubled_text (h _ List.mem_cons_self) hreserved
  | not operand ih =>
    obtain ⟨hnot, hopen, hclose⟩ : '!' ≠ c ∧ '(' ≠ c ∧ ')' ≠ c := by
      rcases hc with rfl | rfl <;> decide
    have hoperand : Text.Undoubled c (operand.infixForm ++ [')']) :=
      (ih h).append (List.isChain_singleton _) (by simpa using hclose)
    exact (hoperand.cons fun h => absurd h hopen).cons fun h => absurd h hnot
  | and left right lih rih | or left right lih rih =>
    rw [leaves, List.forall_mem_append] at h
    exact undoubled_binary hc (lih h.1) (rih h.2)

theorem spaced_binary {c : Char} {left right : Text} (hc : Text.isWhiteSpace c = false)
    (hl : Text.Spaced left) (hr : Text.Spaced right) :
    Text.Spaced ('(' :: (left ++ ' ' :: c :: ' ' :: (right ++ [')']))) := by
  have hopen : Text.Spaced ['('] := .word (.singleton rfl)
  have hoperator : Text.Spaced [c] := .word (.singleton hc)
  have hclose : Text.Spaced [')'] := .word (.singleton rfl)
  exact hopen.append (hl.append_blank (hoperator.append_blank (hr.append hclose)))

theorem spaced_infixForm (h : ∀ leaf ∈ tree.leaves, leaf.Legible) :
    Text.Spaced tree.infixForm := by
  induction tree with
  | term | phrase => exact Token.spaced_text (h _ List.mem_cons_self)
  | not operand ih =>
    have hopen : Text.Spaced ['!', '('] := .word (.cons rfl (.singleton rfl))
    have hclose : Text.Spaced [')'] := .word (.singleton rfl)
    exact hopen.append ((ih h).append hclose)
  | and left right lih rih | or left right lih rih =>
    rw [leaves, List.forall_mem_append] at h
    exact spaced_binary (by decide) (lih h.1) (rih h.2)

theorem collapse_infixForm {tree : Expression} (h : ∀ leaf ∈ tree.leaves, leaf.Legible) :
    Lexer.collapse tree.infixForm = tree.infixForm :=
  Lexer.collapse_eq_self (spaced_infixForm h) (undoubled_infixForm (.inl rfl) h)
    (undoubled_infixForm (.inr rfl) h)

theorem tokens_infixForm (h : Lexer.Lexed tree.leaves) :
    (Lexer.ofText tree.infixForm).tokens = .ok tree.infixTokens := by
  unfold Lexer.ofText
  rw [collapse_infixForm h.legible]
  refine tree.spells_infixForm.tokens_eq ?_ (by simp)
  rwa [Lexer.lexed_iff_leaves, ← tree.derives_infixTokens.leaves_eq]

theorem tokenize_infixForm (h : Lexer.Lexed tree.leaves) :
    tokenize tree.infixForm = .ok (withImpliedAnd tree.infixTokens) := by
  unfold tokenize
  rw [tokens_infixForm h]
  rfl

theorem ofInfix_infixTokens (tree : Expression) :
    Postfix.ofInfix (withImpliedAnd tree.infixTokens) = .ok tree.listing :=
  (Derives.ofAnd (.ofNot tree.derives_infixTokens)).ofInfix_withImpliedAnd

end Expression

theorem exists_derivation_of_compile {config : QueryConfig} {query : Text}
    {compiled : CompiledQuery} (h : compile config query = .ok compiled) :
    ∃ raw tree, (Lexer.ofText query).tokens = .ok raw ∧ Derives .orExpr raw tree ∧
      compiled.expr = tree.listing := by
  obtain ⟨-, -, tokens, htokens, hexpr⟩ := checks_of_compile h
  obtain ⟨raw, hraw, rfl⟩ := map_eq_ok_iff.mp htokens
  obtain ⟨tree, htree⟩ := exists_derives_of_ofInfix hexpr
  have hlisting := htree.ofInfix_withImpliedAnd
  rw [hexpr, Except.ok.injEq] at hlisting
  exact ⟨raw, tree, hraw, htree, hlisting⟩

theorem exists_tree_of_compile {config : QueryConfig} {query : Text} {compiled : CompiledQuery}
    (h : compile config query = .ok compiled) :
    ∃ tree : Expression, compiled.expr = tree.listing ∧ Lexer.Lexed tree.leaves ∧
      compiled.expr.termCount ≤ config.maxTerms := by
  obtain ⟨raw, tree, hraw, htree, hlisting⟩ := exists_derivation_of_compile h
  have hlexed := (Lexer.tokens_lexed (Lexer.tidy_ofText query) hraw).1
  rw [Lexer.lexed_iff_leaves, ← htree.leaves_eq] at hlexed
  exact ⟨tree, hlisting, hlexed, (checks_of_compile h).2.1⟩

theorem compile_of_spaced {config : QueryConfig} {text : Text} {tokens : List Token}
    {expr : Postfix} (hspaced : Text.Spaced text) (htokenize : tokenize text = .ok tokens)
    (hexpr : Postfix.ofInfix tokens = .ok expr) (hcount : expr.termCount ≤ config.maxTerms) :
    compile config text =
      if config.maxQueryLength < text.length then
        .error (.queryTooLong text.length config.maxQueryLength)
      else
        .ok ⟨text, expr⟩ := by
  have hblank : text.all Text.isWhiteSpace = false := by
    obtain ⟨c, hc, hspace⟩ := hspaced.exists_mem_not_isWhiteSpace
    exact List.all_eq_false.mpr ⟨c, hc, by simp [hspace]⟩
  unfold compile
  rw [htokenize, hblank]
  simp only [hexpr, Bool.false_eq_true, if_false, if_neg (Nat.not_lt.mpr hcount)]

/--
The infix form of a compiled query stands for the same expression. It is compiled to it again,
unless it is too long to be compiled at all.
-/
theorem infix_form_compiles_to_same_expression {config : QueryConfig} {query : Text}
    {compiled : CompiledQuery} (h : compile config query = .ok compiled) :
    (∃ tokens, tokenize compiled.expr.infixText = .ok tokens ∧
      Postfix.ofInfix tokens = .ok compiled.expr) ∧
    compile config compiled.expr.infixText =
      if config.maxQueryLength < compiled.expr.infixText.length then
        .error (.queryTooLong compiled.expr.infixText.length config.maxQueryLength)
      else
        .ok ⟨compiled.expr.infixText, compiled.expr⟩ := by
  obtain ⟨tree, hexpr, hlexed, hcount⟩ := exists_tree_of_compile h
  rw [hexpr] at hcount ⊢
  rw [tree.infixText_listing]
  have htokenize := Expression.tokenize_infixForm hlexed
  have hspaced := Expression.spaced_infixForm hlexed.legible
  exact ⟨⟨_, htokenize, tree.ofInfix_infixTokens⟩,
    compile_of_spaced hspaced htokenize tree.ofInfix_infixTokens hcount⟩

namespace StrayQuotes

def query : Text := "\"\"a b\" /2 !c | d\"e".toList

def expr : Postfix where
  tokens := [.phrase [['"', 'a'], ['b']] (some 2), .term ['c'], .not, .and,
    .term ['d', '"', 'e'], .or]
  termCount := 4
  checked := by decide

def infixText : Text := "((\"\"a b\"/2 & !(c)) | d\"e)".toList

theorem infix_form_compiled :
    compile {} query = .ok ⟨query, expr⟩ ∧ expr.infixText = infixText ∧
      compile {} infixText = .ok ⟨infixText, expr⟩ := by
  have hcompile : compile {} query = .ok ⟨query, expr⟩ := by
    decide +kernel
  have htext : expr.infixText = infixText := by
    decide +kernel
  obtain ⟨-, hagain⟩ := infix_form_compiles_to_same_expression hcompile
  rw [htext, if_neg (by decide)] at hagain
  exact ⟨hcompile, htext, hagain⟩

end StrayQuotes

end BooleanSearch
