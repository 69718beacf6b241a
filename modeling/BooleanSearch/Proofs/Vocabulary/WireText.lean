import BooleanSearch.Proofs.Text.Words
import BooleanSearch.Vocabulary.Resolved

/-!
This module contains a reader of the texts in which resolved expressions are written. A part of such
a text tells by itself what it is, except for a quote, which opens a phrase or closes the one that
is open.
-/

namespace BooleanSearch

namespace ResolvedExpr

def number? (part : Text) : Option UInt32 := (Text.unsigned? UInt32.size part).map UInt32.ofNat

structure Reading where
  tokens : List ResolvedToken
  /-- The words and the distance of the phrase whose quote is open. -/
  phrase : Option (List UInt32 × Option UInt32)

def Reading.next? (reading : Reading) (part : Text) : Option Reading :=
  match number? part, part, reading.phrase with
  | some id, _, none => some ⟨reading.tokens ++ [.term id], none⟩
  | some id, _, some (ids, none) => some ⟨reading.tokens, some (ids ++ [id], none)⟩
  | none, '/' :: digits, some (ids, none) =>
    (number? digits).map fun distance => ⟨reading.tokens, some (ids, some distance)⟩
  | none, ['"'], none => some ⟨reading.tokens, some ([], none)⟩
  | none, ['"'], some (ids, distance) => some ⟨reading.tokens ++ [.phrase ids distance], none⟩
  | none, ['&'], none => some ⟨reading.tokens ++ [.and], none⟩
  | none, ['|'], none => some ⟨reading.tokens ++ [.or], none⟩
  | none, ['!'], none => some ⟨reading.tokens ++ [.not], none⟩
  | _, _, _ => none

def ofWire? (wire : Text) : Option ResolvedExpr :=
  match (Text.wordsBetween (· == ' ') wire).foldlM Reading.next? ⟨[], none⟩ with
  | some ⟨tokens, none⟩ => some ⟨tokens⟩
  | _ => none

theorem number?_decimal (id : UInt32) : number? (Text.decimal id.toNat) = some id := by
  unfold number?
  rw [Text.unsigned?_decimal id.toNat_lt, Option.map_some, UInt32.ofNat_toNat]

variable (tokens : List ResolvedToken) (ids : List UInt32)

theorem next?_number (id : UInt32) :
    Reading.next? ⟨tokens, none⟩ (Text.decimal id.toNat) = some ⟨tokens ++ [.term id], none⟩ := by
  unfold Reading.next?
  rw [number?_decimal]

theorem next?_word (id : UInt32) :
    Reading.next? ⟨tokens, some (ids, none)⟩ (Text.decimal id.toNat) =
      some ⟨tokens, some (ids ++ [id], none)⟩ := by
  unfold Reading.next?
  rw [number?_decimal]

theorem next?_distance (distance : UInt32) :
    Reading.next? ⟨tokens, some (ids, none)⟩ ('/' :: Text.decimal distance.toNat) =
      some ⟨tokens, some (ids, some distance)⟩ := by
  have hslash : number? ('/' :: Text.decimal distance.toNat) = none := rfl
  unfold Reading.next?
  rw [hslash]
  change (number? (Text.decimal distance.toNat)).map _ = _
  rw [number?_decimal, Option.map_some]

theorem foldlM_words (words : List UInt32) :
    (words.map fun id => Text.decimal id.toNat).foldlM Reading.next? ⟨tokens, some (ids, none)⟩ =
      some ⟨tokens, some (ids ++ words, none)⟩ := by
  induction words generalizing ids with
  | nil => rw [List.append_nil]; rfl
  | cons id words ih =>
    rw [List.map_cons, List.foldlM_cons, next?_word]
    simp [ih]

theorem foldlM_parts (token : ResolvedToken) :
    token.parts.foldlM Reading.next? ⟨tokens, none⟩ = some ⟨tokens ++ [token], none⟩ := by
  cases token with
  | term id => simp only [ResolvedToken.parts, List.foldlM_cons, List.foldlM_nil, next?_number]; rfl
  | phrase words distance =>
    have hopen : Reading.next? ⟨tokens, none⟩ ['"'] = some ⟨tokens, some ([], none)⟩ := rfl
    have hclose : Reading.next? ⟨tokens, some (words, distance)⟩ ['"'] =
        some ⟨tokens ++ [.phrase words distance], none⟩ := by
      cases distance <;> rfl
    simp only [ResolvedToken.parts, List.foldlM_cons, List.foldlM_append, hopen]
    cases distance with
    | none => simp [foldlM_words, hclose]
    | some distance => simp [foldlM_words, next?_distance, hclose]
  | and => rfl
  | or => rfl
  | not => rfl

theorem foldlM_flatMap_parts (rest : List ResolvedToken) :
    (rest.flatMap ResolvedToken.parts).foldlM Reading.next? ⟨tokens, none⟩ =
      some ⟨tokens ++ rest, none⟩ := by
  induction rest generalizing tokens with
  | nil => rw [List.append_nil]; rfl
  | cons token rest ih =>
    rw [List.flatMap_cons, List.foldlM_append, foldlM_parts]
    simp [ih]

theorem unbroken_decimal (n : Nat) : Text.Unbroken (· == ' ') (Text.decimal n) := by
  refine ⟨Text.decimal_ne_nil n, ?_⟩
  intro c hc
  have hdigit := Text.isDigit_of_mem_decimal hc
  rw [beq_eq_false_iff_ne]
  rintro rfl
  revert hdigit
  decide

theorem unbroken_of_mem_parts {token : ResolvedToken} {part : Text} (h : part ∈ token.parts) :
    Text.Unbroken (· == ' ') part := by
  have hmark (mark : Char) (hmark : mark ≠ ' ') : Text.Unbroken (· == ' ') [mark] := by
    simp [Text.Unbroken, hmark]
  cases token with
  | term id =>
    rw [List.mem_singleton.mp h]
    exact unbroken_decimal id.toNat
  | phrase words distance =>
    simp only [ResolvedToken.parts, List.mem_cons, List.mem_append, List.mem_map,
      Option.mem_toList, List.not_mem_nil, or_false] at h
    rcases h with rfl | ⟨id, -, rfl⟩ | ⟨distance, -, rfl⟩ | rfl
    · exact hmark '"' (by decide)
    · exact unbroken_decimal id.toNat
    · obtain ⟨-, hdigits⟩ := unbroken_decimal distance.toNat
      exact ⟨List.cons_ne_nil _ _, List.forall_mem_cons.mpr ⟨rfl, hdigits⟩⟩
    · exact hmark '"' (by decide)
  | and | or | not =>
    rw [List.mem_singleton.mp h]
    exact hmark _ (by decide)

theorem ofWire?_wire (expr : ResolvedExpr) : ofWire? expr.wire = some expr := by
  unfold ofWire? wire
  rw [Text.wordsBetween_unwords rfl, foldlM_flatMap_parts]
  · rfl
  · intro part hpart
    obtain ⟨token, -, hpart⟩ := List.mem_flatMap.mp hpart
    exact unbroken_of_mem_parts hpart

/--
Adjacent and empty phrases are kept apart.
-/
example : ofWire? "\" 7 9 /3 \" \" \" 4 & !".toList =
    some ⟨[.phrase [7, 9] (some 3), .phrase [] none, .term 4, .and, .not]⟩ := by
  decide +kernel

theorem wire_eq_iff {expr other : ResolvedExpr} :
    expr.wire = other.wire ↔ expr.tokens = other.tokens := by
  constructor
  · intro h
    have hread := ofWire?_wire expr
    rw [h, ofWire?_wire, Option.some.injEq] at hread
    rw [hread]
  · intro h
    unfold wire
    rw [h]

end ResolvedExpr

end BooleanSearch
