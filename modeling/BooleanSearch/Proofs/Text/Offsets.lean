import Mathlib.Data.List.Infix
import BooleanSearch.Proofs.Text.Cut
import BooleanSearch.Proofs.Text.Utf8

/-!
This module contains the access to encoded texts by byte offsets. A slice is only taken between two
characters, and the theorems say that the offset of a mark, found by comparing bytes, is the place of
the mark in the text.
-/

namespace BooleanSearch

namespace Bytes

def isBoundary (bytes : Bytes) (offset : Nat) : Bool :=
  offset == 0 ||
    match bytes[offset]? with
    | some byte => !Utf8.isContinuation byte
    | none => offset == bytes.length

/--
The bytes between two offsets. There is no result if they are not in order, outside, or inside of a
character.
-/
def slice? (bytes : Bytes) (start stop : Nat) : Option Bytes :=
  if start ≤ stop ∧ isBoundary bytes start ∧ isBoundary bytes stop then
    some ((bytes.take stop).drop start)
  else
    none

def find? (mark bytes : Bytes) : Option Nat := bytes.tails.findIdx? mark.isPrefixOf

/--
The first offset from `offset` on at which a byte does not satisfy `p`. There is none if the bytes end
before.
-/
def skip? (p : UInt8 → Bool) (bytes : Bytes) (offset : Nat) : Option Nat :=
  ((bytes.drop offset).findIdx? (!p ·)).map (offset + ·)

def isAsciiOf (p : Char → Bool) (byte : UInt8) : Bool :=
  decide (byte < 0x80) && p (Char.ofNat byte.toNat)

def asciiByte (c : Char) : UInt8 := UInt8.ofNat c.toNat

theorem le_length_of_isBoundary {bytes : Bytes} {offset : Nat}
    (h : isBoundary bytes offset = true) : offset ≤ bytes.length := by
  simp only [isBoundary, Bool.or_eq_true, beq_iff_eq] at h
  rcases h with rfl | h
  · apply Nat.zero_le
  · split at h
    next byte hbyte =>
      apply Nat.le_of_lt
      exact (List.getElem?_eq_some_iff.mp hbyte).choose
    next => exact Nat.le_of_eq (beq_iff_eq.mp h)

theorem slice?_eq_some_iff {bytes part : Bytes} {start stop : Nat} :
    slice? bytes start stop = some part ↔
      (start ≤ stop ∧ isBoundary bytes start ∧ isBoundary bytes stop) ∧
        (bytes.take stop).drop start = part := by
  unfold slice?
  split
  next h => simp [h]
  next h => simp [h]

theorem find?_cons (mark : Bytes) (byte : UInt8) (bytes : Bytes) :
    find? mark (byte :: bytes) =
      if mark.isPrefixOf (byte :: bytes) then some 0 else (find? mark bytes).map (· + 1) := by
  unfold find?
  rw [List.tails_cons, List.findIdx?_cons]

theorem add_length_le_of_find? {mark bytes : Bytes} {offset : Nat}
    (h : find? mark bytes = some offset) : offset + mark.length ≤ bytes.length := by
  induction bytes generalizing offset with
  | nil =>
    rw [find?, List.tails, List.findIdx?_singleton] at h
    split at h
    next hmark =>
      cases h
      exact Nat.zero_add _ ▸ (List.isPrefixOf_iff_prefix.mp hmark).length_le
    next => cases h
  | cons byte bytes ih =>
    rw [find?_cons] at h
    split at h
    next hmark =>
      cases h
      exact Nat.zero_add _ ▸ (List.isPrefixOf_iff_prefix.mp hmark).length_le
    next =>
      obtain ⟨offset', hoffset, rfl⟩ := Option.map_eq_some_iff.mp h
      have hle := ih hoffset
      rw [List.length_cons]
      omega

theorem le_of_skip? {p : UInt8 → Bool} {bytes : Bytes} {offset next : Nat}
    (h : skip? p bytes offset = some next) : offset ≤ next := by
  obtain ⟨count, -, rfl⟩ := Option.map_eq_some_iff.mp h
  apply Nat.le_add_right

end Bytes

namespace Utf8

open Bytes

theorem exists_encodeChar_eq (c : Char) :
    ∃ lead behind, encodeChar c = lead :: behind ∧ isContinuation lead = false ∧
      (∀ byte ∈ behind, isContinuation byte = true) ∧
      ((c.toNat < 0x80 ∧ lead = UInt8.ofNat c.toNat ∧ behind = []) ∨
        (0x80 ≤ c.toNat ∧ 0x80 ≤ lead.toNat)) := by
  have hvalid := toNat_valid c
  have hlead (base bits : Nat) (h : base + bits < 256) (hlow : 0xC0 ≤ base + bits) :
      isContinuation (UInt8.ofNat (base + bits)) = false ∧
        0x80 ≤ (UInt8.ofNat (base + bits)).toNat := by
    have hnat := toNat_lead h
    refine ⟨between_eq_false (.inr ?_), ?_⟩
    · rw [hnat]
      exact hlow
    · omega
  by_cases hone : c.toNat < 0x80
  · refine ⟨_, _, encodeChar_one hone, between_eq_false (.inl ?_), nofun, .inl ⟨hone, rfl, rfl⟩⟩
    rw [UInt8.toNat_ofNat_of_lt' (Nat.lt_trans hone (by decide))]
    exact hone
  · by_cases htwo : c.toNat < 0x800
    · obtain ⟨hfalse, hhigh⟩ := hlead 0xC0 (c.toNat / 64) (by omega) (by omega)
      refine ⟨_, _, encodeChar_two (by omega) htwo, hfalse, ?_, .inr ⟨by omega, hhigh⟩⟩
      simp [isContinuation_continuation]
    · by_cases hthree : c.toNat < 0x10000
      · obtain ⟨hfalse, hhigh⟩ := hlead 0xE0 (c.toNat / 4096) (by omega) (by omega)
        refine ⟨_, _, encodeChar_three (by omega) hthree, hfalse, ?_, .inr ⟨by omega, hhigh⟩⟩
        simp [isContinuation_continuation]
      · obtain ⟨hfalse, hhigh⟩ := hlead 0xF0 (c.toNat / 262144) (by omega) (by omega)
        refine ⟨_, _, encodeChar_four (by omega), hfalse, ?_, .inr ⟨by omega, hhigh⟩⟩
        simp [isContinuation_continuation]

theorem byteLength_eq_zero_iff {text : Text} : byteLength text = 0 ↔ text = [] := by
  cases text with
  | nil => simp [byteLength]
  | cons c text =>
    obtain ⟨lead, behind, hchar, -⟩ := exists_encodeChar_eq c
    simp [byteLength, hchar]

theorem getElem?_encode (front : Text) (c : Char) (text : Text) :
    (encode (front ++ c :: text))[byteLength front]? = (encodeChar c).head? := by
  obtain ⟨lead, behind, hchar, -⟩ := exists_encodeChar_eq c
  rw [encode_append, encode_cons, hchar, byteLength, List.getElem?_append_right (Nat.le_refl _)]
  simp

theorem isBoundary_byteLength (front text : Text) :
    isBoundary (encode (front ++ text)) (byteLength front) = true := by
  cases text with
  | nil => simp [isBoundary, byteLength]
  | cons c text =>
    obtain ⟨lead, behind, hchar, hlead, -⟩ := exists_encodeChar_eq c
    rw [isBoundary, getElem?_encode, hchar, List.head?_cons]
    simp [hlead]

theorem slice?_encode (front middle text : Text) :
    slice? (encode (front ++ (middle ++ text))) (byteLength front) (byteLength (front ++ middle)) =
      some (encode middle) := by
  rw [slice?_eq_some_iff]
  refine ⟨⟨?_, isBoundary_byteLength front _, ?_⟩, ?_⟩
  · simp
  · rw [← List.append_assoc]
    apply isBoundary_byteLength
  · simp only [byteLength, encode_append, ← List.append_assoc]
    rw [List.take_left, List.drop_left]

theorem slice?_rest (front text : Text) :
    slice? (encode (front ++ text)) (byteLength front) (encode (front ++ text)).length =
      some (encode text) := by
  have hslice := slice?_encode front text []
  rwa [List.append_nil] at hslice

theorem chunks_encode_append (text : Text) (rest : Bytes) :
    chunks (encode text ++ rest) = text.map some ++ chunks rest := by
  induction text with
  | nil => rfl
  | cons c text ih =>
    rw [encode_cons, List.append_assoc, chunks_encodeChar, ih]
    rfl

theorem encode_prefix_iff {mark text : Text} : encode mark <+: encode text ↔ mark <+: text := by
  constructor
  · -- The chunks of a text are its characters, whatever bytes stand behind it.
    rintro ⟨rest, hrest⟩
    have hchunks := congrArg chunks hrest
    rw [chunks_encode_append, chunks_encode, eq_comm, List.map_eq_append_iff] at hchunks
    obtain ⟨first, behind, rfl, hfirst, -⟩ := hchunks
    rw [List.map_inj_right fun _ _ => Option.some.inj] at hfirst
    exact ⟨behind, by rw [hfirst]⟩
  · rintro ⟨behind, rfl⟩
    rw [encode_append]
    apply List.prefix_append

theorem find?_continuations (m : Char) (mark : Text) {behind : Bytes}
    (hbehind : ∀ byte ∈ behind, isContinuation byte = true) (bytes : Bytes) :
    find? (encode (m :: mark)) (behind ++ bytes) =
      (find? (encode (m :: mark)) bytes).map (behind.length + ·) := by
  induction behind with
  | nil => simp
  | cons byte behind ih =>
    rw [List.forall_mem_cons] at hbehind
    have hno : (encode (m :: mark)).isPrefixOf (byte :: (behind ++ bytes)) = false := by
      obtain ⟨lead, rest, hchar, hlead, -⟩ := exists_encodeChar_eq m
      have hne : (lead == byte) = false := by
        apply beq_false_of_ne
        rintro rfl
        rw [hlead] at hbehind
        cases hbehind.1
      rw [encode_cons, hchar, List.cons_append, List.isPrefixOf, hne, Bool.false_and]
    rw [List.cons_append, find?_cons, hno, if_neg Bool.false_ne_true, ih hbehind.2, Option.map_map]
    congr 1
    funext offset
    simp only [Function.comp_apply, List.length_cons]
    omega

theorem find?_encode (m : Char) (mark text : Text) :
    find? (encode (m :: mark)) (encode text) =
      (Text.cutAt? (m :: mark) text).map fun cut => byteLength cut.1 := by
  induction text with
  | nil =>
    obtain ⟨lead, behind, hchar, -⟩ := exists_encodeChar_eq m
    rw [encode_cons, hchar]
    rfl
  | cons c text ih =>
    obtain ⟨lead, behind, hchar, hlead, hbehind, -⟩ := exists_encodeChar_eq c
    have hcons : encode (c :: text) = lead :: (behind ++ encode text) := by
      rw [encode_cons, hchar, List.cons_append]
    have hprefix : (encode (m :: mark)).isPrefixOf (lead :: (behind ++ encode text)) =
        (Text.dropMark? (m :: mark) (c :: text)).isSome := by
      rw [← hcons, Bool.eq_iff_iff, List.isPrefixOf_iff_prefix, encode_prefix_iff,
        Option.isSome_iff_exists]
      simp only [Text.dropMark?_eq_some_iff]
      exact ⟨fun ⟨rest, hrest⟩ => ⟨rest, hrest.symm⟩, fun ⟨rest, hrest⟩ => ⟨rest, hrest.symm⟩⟩
    rw [hcons, find?_cons, hprefix, Text.cutAt?]
    cases hdrop : Text.dropMark? (m :: mark) (c :: text) with
    | some rest => rfl
    | none =>
      -- The search by bytes goes on inside of the character, where no mark begins.
      rw [find?_continuations m mark hbehind, ih]
      cases Text.cutAt? (m :: mark) text with
      | none => rfl
      | some cut =>
        simp only [Option.isSome_none, Bool.false_eq_true, if_false, Option.map_some, byteLength,
          encode_cons, hchar, List.length_append, List.length_cons, Option.some.injEq]
        omega

def IsAsciiClass (p : Char → Bool) : Prop := ∀ c, p c = true → c.toNat < 0x80

theorem any_head?_encodeChar {p : Char → Bool} (hp : IsAsciiClass p) (c : Char) :
    (encodeChar c).head?.any (isAsciiOf p) = p c := by
  obtain ⟨lead, behind, hchar, -, -, hascii⟩ := exists_encodeChar_eq c
  rw [hchar, List.head?_cons, Option.any_some, isAsciiOf]
  rcases hascii with ⟨hlt, rfl, -⟩ | ⟨hge, hlead⟩
  · have hnat : (UInt8.ofNat c.toNat).toNat = c.toNat :=
      UInt8.toNat_ofNat_of_lt' (Nat.lt_trans hlt (by decide))
    have hlt : UInt8.ofNat c.toNat < 0x80 := by
      rw [UInt8.lt_iff_toNat_lt, hnat]
      exact hlt
    rw [decide_eq_true hlt, hnat, Char.ofNat_toNat, Bool.true_and]
  · have hge' : ¬ lead < 0x80 := by
      rw [UInt8.lt_iff_toNat_lt]
      exact Nat.not_lt.mpr hlead
    have hno : p c = false := by
      rw [← Bool.not_eq_true]
      intro hc
      exact absurd (hp c hc) (Nat.not_lt.mpr hge)
    rw [decide_eq_false hge', hno, Bool.false_and]

theorem findIdx?_encode {p : Char → Bool} (hp : IsAsciiClass p) (text : Text) :
    (encode text).findIdx? (!isAsciiOf p ·) =
      if text.dropWhile p = [] then none else some (byteLength (text.takeWhile p)) := by
  induction text with
  | nil => rfl
  | cons c text ih =>
    obtain ⟨lead, behind, hchar, -, -, hascii⟩ := exists_encodeChar_eq c
    have hlead : isAsciiOf p lead = p c := by
      rw [← any_head?_encodeChar hp, hchar, List.head?_cons, Option.any_some]
    rw [encode_cons, hchar, List.cons_append, List.findIdx?_cons, hlead, List.dropWhile_cons,
      List.takeWhile_cons]
    cases hc : p c with
    | true =>
      obtain ⟨-, -, rfl⟩ := hascii.resolve_right fun h => Nat.not_lt.mpr h.1 (hp c hc)
      rw [List.nil_append, ih]
      simp only [Bool.not_true, Bool.false_eq_true, if_false, if_true]
      split
      next => rfl
      next => simp [byteLength, hchar, Nat.add_comm]
    | false => rfl

theorem skip?_encode {p : Char → Bool} (hp : IsAsciiClass p) (front text : Text) :
    skip? (isAsciiOf p) (encode (front ++ text)) (byteLength front) =
      if text.dropWhile p = [] then none else some (byteLength (front ++ text.takeWhile p)) := by
  rw [skip?, encode_append, byteLength, List.drop_left, findIdx?_encode hp]
  split
  next => rfl
  next => simp [byteLength]

theorem exists_getElem?_encode (front : Text) (c : Char) (text : Text) :
    ∃ byte, (encode (front ++ c :: text))[byteLength front]? = some byte ∧
      ∀ d : Char, d.toNat < 0x80 → (byte = asciiByte d ↔ c = d) := by
  obtain ⟨lead, behind, hchar, -, -, hascii⟩ := exists_encodeChar_eq c
  refine ⟨lead, by rw [getElem?_encode, hchar, List.head?_cons], ?_⟩
  intro d hd
  have hbyte : (asciiByte d).toNat = d.toNat :=
    UInt8.toNat_ofNat_of_lt' (Nat.lt_trans hd (by decide))
  rw [← UInt8.toNat_inj, hbyte]
  rcases hascii with ⟨hlt, rfl, -⟩ | ⟨hge, hlead⟩
  · rw [UInt8.toNat_ofNat_of_lt' (Nat.lt_trans hlt (by decide)), Char.toNat_inj]
  · constructor
    · omega
    · rintro rfl
      omega

theorem getElem?_encode_eq_some_iff (front text : Text) {d : Char} (hd : d.toNat < 0x80) :
    (encode (front ++ text))[byteLength front]? = some (asciiByte d) ↔ text.head? = some d := by
  cases text with
  | nil => simp [byteLength]
  | cons c text =>
    obtain ⟨byte, hbyte, hiff⟩ := exists_getElem?_encode front c text
    rw [hbyte, Option.some.injEq, hiff d hd, List.head?_cons, Option.some.injEq]

theorem any_getElem?_encode {p : Char → Bool} (hp : IsAsciiClass p) (front text : Text) :
    (encode (front ++ text))[byteLength front]?.any (isAsciiOf p) = text.head?.any p := by
  cases text with
  | nil => simp [byteLength]
  | cons c text =>
    rw [getElem?_encode, any_head?_encodeChar hp, List.head?_cons, Option.any_some]

end Utf8

end BooleanSearch
