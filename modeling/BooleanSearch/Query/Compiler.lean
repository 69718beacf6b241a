import BooleanSearch.Config
import BooleanSearch.Error
import BooleanSearch.Query.Lexer
import BooleanSearch.Query.Postfix

/-!
This module contains the compilation of query texts to expressions, within the limits on the size of
queries.
-/

namespace BooleanSearch

/--
A query that passed all checks.
-/
structure CompiledQuery where
  /-- The query as typed. -/
  source : Text
  expr : Postfix
deriving DecidableEq

def CompiledQuery.plainTerms (query : CompiledQuery) : List Text :=
  Text.distinct (query.expr.leaves.flatMap Token.words)

/--
Compile a query. The first check that fails decides: emptiness, length, the tokens, the expression
and last the number of words.
-/
def compile (config : QueryConfig) (query : Text) : Except SearchError CompiledQuery :=
  if query.all Text.isWhiteSpace then
    .error .emptyQuery
  else if config.maxQueryLength < query.length then
    .error (.queryTooLong query.length config.maxQueryLength)
  else
    match tokenize query with
    | .error malformation => .error (.malformed malformation)
    | .ok tokens =>
      match Postfix.ofInfix tokens with
      | .error malformation => .error (.malformed malformation)
      | .ok expr =>
        if config.maxTerms < expr.termCount then
          .error (.tooManyTerms expr.termCount config.maxTerms)
        else
          .ok ⟨query, expr⟩

theorem checks_of_compile {config : QueryConfig} {query : Text} {compiled : CompiledQuery}
    (h : compile config query = .ok compiled) :
    compiled.source = query ∧ compiled.expr.termCount ≤ config.maxTerms ∧
      ∃ tokens, tokenize query = .ok tokens ∧ Postfix.ofInfix tokens = .ok compiled.expr := by
  unfold compile at h
  split at h
  next => cases h
  next =>
    split at h
    next => cases h
    next =>
      split at h
      next => cases h
      next tokens htokens =>
        split at h
        next => cases h
        next expr hexpr =>
          split at h
          next => cases h
          next hcount =>
            cases h
            exact ⟨rfl, Nat.le_of_not_lt hcount, tokens, htokens, hexpr⟩

end BooleanSearch
