import Mathlib.Data.Nat.Digits.Defs
import BooleanSearch.Proofs.Wire.RoundTrip

/-!
This module contains the theorem on which bytes are a response. Every response is read as it was
written, bytes that cannot be read end before the response that they announce, and nothing is read
behind the end of the bytes.
-/

namespace BooleanSearch.Response

theorem readIds?_eq_none_iff {count : Nat} {bytes : Bytes} :
    readIds? count bytes = none ↔ bytes.length < 4 * count := by
  induction count generalizing bytes with
  | zero => simp [readIds?]
  | succ count ih =>
    unfold readIds?
    cases hword : Wire.readWord? bytes with
    | none =>
      rw [Wire.readWord?_eq_none_iff] at hword
      simp only [true_iff]
      omega
    | some read =>
      obtain ⟨id, rest⟩ := read
      rw [Wire.readWord?_eq_some_iff] at hword
      simp only [Option.map_eq_none_iff, ih, hword, List.length_append, Wire.length_wordBytes]
      omega

theorem length_flatMap_wordBytes (ids : List UInt32) :
    (ids.flatMap Wire.wordBytes).length = 4 * ids.length := by
  simp [List.length_flatMap, List.map_const', Nat.mul_comm]

theorem eq_append_of_readIds? {count : Nat} {bytes : Bytes} {ids : List UInt32}
    (h : readIds? count bytes = some ids) :
    ids.length = count ∧ ids.flatMap Wire.wordBytes <+: bytes := by
  induction count generalizing bytes ids with
  | zero =>
    cases h
    exact ⟨rfl, List.nil_prefix⟩
  | succ count ih =>
    unfold readIds? at h
    split at h
    next => cases h
    next id behind hword =>
      rw [Wire.readWord?_eq_some_iff] at hword
      rw [Option.map_eq_some_iff] at h
      obtain ⟨further, hfurther, rfl⟩ := h
      obtain ⟨hlength, hprefix⟩ := ih hfurther
      refine ⟨congrArg (· + 1) hlength, ?_⟩
      rw [hword, List.flatMap_cons]
      exact (List.prefix_append_right_inj _).mpr hprefix

def status (kind : UInt8) : Response :=
  if kind = 0 then ok else if kind = 2 then bad else unrecognized kind

theorem encode_status (kind : UInt8) : (status kind).encode = [kind] := by
  unfold status
  split
  next h =>
    rw [h]
    rfl
  next =>
    split
    next h =>
      rw [h]
      rfl
    next => rfl

inductive Reading : Bytes → Except SearchError Response → Prop where
  | empty : Reading [] (.error (.backendError .emptyResponse))
  | status {kind : UInt8} (hkind : kind ≠ 1) (behind : Bytes) :
      Reading (kind :: behind) (.ok (status kind))
  | header {bytes : Bytes} (hshort : bytes.length < 4) :
      Reading (1 :: bytes) (.error (.backendError .truncatedHeader))
  | short {count : UInt32} {rest : Bytes} (hshort : rest.length < 4 * count.toNat) :
      Reading (1 :: (Wire.wordBytes count ++ rest))
        (.error (.backendError (.truncatedPayload count.toNat rest.length)))
  | payload {count : UInt32} {ids : List UInt32} (hcount : count.toNat = ids.length)
      (behind : Bytes) :
      Reading (1 :: (Wire.wordBytes count ++ (ids.flatMap Wire.wordBytes ++ behind)))
        (.ok (payload ids))

theorem decode_reading (bytes : Bytes) : Reading bytes (decode bytes) := by
  cases bytes with
  | nil => exact .empty
  | cons kind bytes =>
    by_cases hkind : kind = 1
    · subst hkind
      cases hword : Wire.readWord? bytes with
      | none =>
        have hdecode : decode (1 :: bytes) = .error (.backendError .truncatedHeader) := by
          simp [decode, hword]
        rw [hdecode]
        exact .header (Wire.readWord?_eq_none_iff.mp hword)
      | some read =>
        obtain ⟨count, rest⟩ := read
        cases hids : readIds? count.toNat rest with
        | none =>
          have hdecode : decode (1 :: bytes) =
              .error (.backendError (.truncatedPayload count.toNat rest.length)) := by
            simp [decode, hword, hids]
          rw [hdecode, Wire.readWord?_eq_some_iff.mp hword]
          exact .short (readIds?_eq_none_iff.mp hids)
        | some ids =>
          have hdecode : decode (1 :: bytes) = .ok (payload ids) := by
            simp [decode, hword, hids]
          obtain ⟨hlength, behind, hrest⟩ := eq_append_of_readIds? hids
          rw [hdecode, Wire.readWord?_eq_some_iff.mp hword, ← hrest]
          exact .payload hlength.symm behind
    · have hdecode : decode (kind :: bytes) = .ok (status kind) := by
        simp only [decode, status, hkind, ↓reduceIte]
        split
        next => rfl
        next => split <;> rfl
      rw [hdecode]
      exact .status hkind bytes

theorem encode_prefix_of_decode {bytes : Bytes} {response : Response}
    (h : decode bytes = .ok response) : response.encode <+: bytes := by
  have hreading := decode_reading bytes
  rw [h] at hreading
  cases hreading with
  | status hkind behind =>
    rw [encode_status]
    exact List.prefix_append [_] behind
  | payload hcount behind =>
    rw [encode, ← hcount, UInt32.ofNat_toNat, ← List.append_assoc]
    exact List.prefix_append (1 :: (_ ++ _)) behind

def announced (bytes : Bytes) : Nat := Nat.ofDigits 256 (((bytes.drop 1).take 4).map UInt8.toNat)

theorem announced_wordBytes (kind : UInt8) (count : UInt32) (rest : Bytes) :
    announced (kind :: (Wire.wordBytes count ++ rest)) = count.toNat := by
  have hcount := count.toNat_lt
  simp only [announced, Wire.wordBytes, List.drop_succ_cons, List.drop_zero, List.cons_append,
    List.nil_append, List.take_succ_cons, List.take_zero, List.map_cons, List.map_nil,
    Nat.ofDigits_cons, Nat.ofDigits_nil, UInt8.toNat_ofNat']
  omega

def Truncated (bytes : Bytes) : Prop :=
  bytes = [] ∨
    bytes.head? = some 1 ∧ (bytes.length < 5 ∨ bytes.length < 5 + 4 * announced bytes)

theorem truncated_cons (kind : UInt8) (bytes : Bytes) :
    Truncated (kind :: bytes) ↔
      kind = 1 ∧ (bytes.length < 4 ∨ bytes.length < 4 + 4 * announced (kind :: bytes)) := by
  have hheader : bytes.length + 1 < 5 ↔ bytes.length < 4 := by omega
  have hrest (n : Nat) : bytes.length + 1 < 5 + n ↔ bytes.length < 4 + n := by omega
  simp [Truncated, hheader, hrest]

theorem decode_eq_error_iff {bytes : Bytes} :
    (∃ e, decode bytes = .error e) ↔ Truncated bytes := by
  have hreading := decode_reading bytes
  generalize decode bytes = result at hreading
  cases hreading with
  | empty => exact iff_of_true ⟨_, rfl⟩ (.inl rfl)
  | status hkind behind =>
    rw [truncated_cons]
    simp [hkind]
  | header hshort =>
    rw [truncated_cons]
    exact iff_of_true ⟨_, rfl⟩ ⟨rfl, .inl hshort⟩
  | short hshort =>
    rw [truncated_cons, announced_wordBytes, List.length_append, Wire.length_wordBytes]
    exact iff_of_true ⟨_, rfl⟩ ⟨rfl, .inr (by omega)⟩
  | payload hcount behind =>
    rw [truncated_cons, announced_wordBytes, hcount, List.length_append, List.length_append,
      Wire.length_wordBytes, length_flatMap_wordBytes]
    refine iff_of_false (by simp) ?_
    omega

/--
Like `decode`, but the lengths are checked before anything is read. There is no result if something
is read behind the end of the bytes.
-/
def decodeGuarded? : Bytes → Option (Except SearchError Response)
  | [] => some (.error (.backendError .emptyResponse))
  | kind :: bytes =>
    if kind = 0 then
      some (.ok ok)
    else if kind = 2 then
      some (.ok bad)
    else if kind = 1 then
      if bytes.length < 4 then
        some (.error (.backendError .truncatedHeader))
      else
        match Wire.readWord? bytes with
        | none => none
        | some (count, rest) =>
          if rest.length / 4 < count.toNat then
            some (.error (.backendError (.truncatedPayload count.toNat rest.length)))
          else
            (readIds? count.toNat rest).map fun ids => .ok (payload ids)
    else
      some (.ok (unrecognized kind))

theorem decodeGuarded?_eq_decode (bytes : Bytes) : decodeGuarded? bytes = some (decode bytes) := by
  have hreading := decode_reading bytes
  generalize decode bytes = result at hreading
  cases hreading with
  | empty => rfl
  | status hkind behind =>
    simp only [decodeGuarded?, status, hkind, ↓reduceIte]
    split
    next => rfl
    next => split <;> rfl
  | header hshort => exact if_pos hshort
  | @short count rest hshort =>
    have hcount : rest.length / 4 < count.toNat := by omega
    simp [decodeGuarded?, hcount]
  | @payload count ids hcount behind =>
    have hcheck : ¬ (ids.flatMap Wire.wordBytes ++ behind).length / 4 < count.toNat := by
      rw [List.length_append, length_flatMap_wordBytes, hcount]
      omega
    have hids : readIds? count.toNat (ids.flatMap Wire.wordBytes ++ behind) = some ids := by
      rw [hcount, readIds?_flatMap ids behind (Nat.le_refl _), List.take_length]
    have hlong : ¬ (Wire.wordBytes count ++ (ids.flatMap Wire.wordBytes ++ behind)).length < 4 := by
      simp
    simp only [decodeGuarded?, hlong, Wire.readWord?_wordBytes, hcheck, hids, ↓reduceIte,
      Option.map_some]
    rfl

def Sendable : Response → Prop
  | payload ids => ids.length < UInt32.size
  | unrecognized code => 2 < code
  | ok | bad => True

theorem carried_of_sendable {response : Response} (h : response.Sendable) :
    response.carried = response := by
  cases response with
  | payload ids =>
    simp only [Sendable] at h
    rw [carried, Nat.mod_eq_of_lt h, List.take_length]
  | ok | bad | unrecognized => rfl

/--
A response is read as it was written, whatever stands behind it. Bytes cannot be read exactly if they
end before the response that they announce; all others begin with the response that is read. Nothing
is read behind the end of the bytes.
-/
theorem read_as_written_unless_truncated :
    (∀ response : Response, response.Sendable →
      ∀ behind, decode (response.encode ++ behind) = .ok response) ∧
    ∀ bytes,
      ((∃ e, decode bytes = .error e) ↔ Truncated bytes) ∧
      (¬ Truncated bytes → ∃ response, decode bytes = .ok response ∧ response.encode <+: bytes) ∧
      decodeGuarded? bytes = some (decode bytes) := by
  refine ⟨?_, fun bytes => ⟨decode_eq_error_iff, ?_, decodeGuarded?_eq_decode bytes⟩⟩
  · intro response hsendable behind
    have hcode : ∀ code, response = unrecognized code → 2 < code := by
      rintro code rfl
      exact hsendable
    rw [decode_encode hcode behind, carried_of_sendable hsendable]
  · intro hcomplete
    cases hdecode : decode bytes with
    | error e => exact absurd (decode_eq_error_iff.mp ⟨e, hdecode⟩) hcomplete
    | ok response => exact ⟨response, rfl, encode_prefix_of_decode hdecode⟩

theorem read_before_rest_and_cut_short :
    decode (encode (payload [7, 256]) ++ [9, 9]) = .ok (payload [7, 256]) ∧
      (∃ e, decode ((encode (payload [7, 256])).dropLast) = .error e) ∧
      ∃ response, decode [3, 1, 2] = .ok response ∧ response.encode <+: [3, 1, 2] := by
  obtain ⟨hwritten, hread⟩ := read_as_written_unless_truncated
  refine ⟨hwritten (payload [7, 256]) (by simp [Sendable, UInt32.size]) [9, 9], ?_, ?_⟩
  · exact (hread _).1.mpr (.inr ⟨rfl, .inr (by decide)⟩)
  · exact (hread _).2.1 (by rw [truncated_cons]; decide)

end BooleanSearch.Response
