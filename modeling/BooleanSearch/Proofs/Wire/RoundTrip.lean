import BooleanSearch.Proofs.Text.Utf8
import BooleanSearch.Wire.Request
import BooleanSearch.Wire.Response

/-!
This module contains the theorems that requests and responses are read as they were written, whatever
stands behind them. The number of IDs of a page is written with 32 bits, so that a page of 2^32 or more
IDs is read as a shorter one.
-/

namespace BooleanSearch

theorem Request.decode?_of_encode {request : Request} {bytes : Bytes}
    (h : request.encode = .ok bytes) (behind : Bytes) :
    decode? (bytes ++ behind) = some request := by
  cases request with
  | existing handle =>
    simp only [encode, Except.ok.injEq] at h
    subst h
    simp only [List.cons_append, decode?, Wire.readWord?_wordBytes]
    rfl
  | new expression =>
    simp only [encode] at h
    split at h
    next hlength =>
      rw [Except.ok.injEq] at h
      subst h
      have htoNat : (UInt32.ofNat (Utf8.encode expression).length).toNat =
          (Utf8.encode expression).length :=
        UInt32.toNat_ofNat_of_lt' hlength
      simp only [List.cons_append, List.append_assoc, decode?, Wire.readWord?_wordBytes,
        ↓reduceIte, htoNat, List.length_append]
      rw [if_neg (by omega), List.take_left, Utf8.decode?_encode]
      rfl
    · simp at h

namespace Response

/--
The response that arrives: the number of IDs of a page is a number of 32 bits.
-/
def carried : Response → Response
  | payload ids => payload (ids.take (ids.length % UInt32.size))
  | response => response

theorem readIds?_flatMap (ids : List UInt32) (behind : Bytes) {count : Nat}
    (h : count ≤ ids.length) :
    readIds? count (ids.flatMap Wire.wordBytes ++ behind) = some (ids.take count) := by
  induction ids generalizing count with
  | nil =>
    have hcount : count = 0 := by simpa using h
    rw [hcount]
    rfl
  | cons id ids ih =>
    cases count with
    | zero => rfl
    | succ count =>
      simp only [List.length_cons] at h
      simp only [List.flatMap_cons, List.append_assoc, readIds?, Wire.readWord?_wordBytes]
      rw [ih (by omega)]
      rfl

theorem decode_encode {response : Response}
    (h : ∀ code, response = unrecognized code → 2 < code) (behind : Bytes) :
    decode (response.encode ++ behind) = .ok response.carried := by
  cases response with
  | ok => rfl
  | bad => rfl
  | unrecognized code =>
    have hcode : 2 < code := h code rfl
    rw [UInt8.lt_iff_toNat_lt] at hcode
    have hne : ∀ k : UInt8, k.toNat ≤ 2 → code ≠ k := by
      rintro k hk rfl
      simp only [UInt8.reduceToNat] at hcode
      omega
    simp only [encode, List.cons_append, decode, carried]
    rw [if_neg (hne 0 (by decide)), if_neg (hne 2 (by decide)), if_neg (hne 1 (by decide))]
  | payload ids =>
    have hcount : (UInt32.ofNat ids.length).toNat = ids.length % UInt32.size :=
      UInt32.toNat_ofNat'
    have hle : ids.length % UInt32.size ≤ ids.length := Nat.mod_le _ _
    simp only [encode, List.cons_append, List.append_assoc, decode, Wire.readWord?_wordBytes]
    rw [hcount, readIds?_flatMap ids behind hle]
    rfl

end Response

end BooleanSearch
