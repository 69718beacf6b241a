import BooleanSearch.Text.Utf8

/-!
This module contains the byte order of numbers in messages: four bytes, the lowest first.
-/

namespace BooleanSearch.Wire

def wordBytes (n : UInt32) : Bytes :=
  let n := n.toNat
  [UInt8.ofNat n, UInt8.ofNat (n / 256), UInt8.ofNat (n / 65536), UInt8.ofNat (n / 16777216)]

def readWord? : Bytes → Option (UInt32 × Bytes)
  | b₀ :: b₁ :: b₂ :: b₃ :: rest =>
    some (UInt32.ofNat (b₀.toNat + 256 * b₁.toNat + 65536 * b₂.toNat + 16777216 * b₃.toNat), rest)
  | _ => none

@[simp]
theorem length_wordBytes (n : UInt32) : (wordBytes n).length = 4 := rfl

@[simp]
theorem readWord?_wordBytes (n : UInt32) (rest : Bytes) :
    readWord? (wordBytes n ++ rest) = some (n, rest) := by
  simp only [wordBytes, List.cons_append, List.nil_append, readWord?, UInt8.toNat_ofNat']
  have h := n.toNat_lt
  congr 2
  apply UInt32.toNat_inj.mp
  rw [UInt32.toNat_ofNat']
  omega

theorem readWord?_eq_none_iff {bytes : Bytes} : readWord? bytes = none ↔ bytes.length < 4 := by
  match bytes with
  | [] | [_] | [_, _] | [_, _, _] => simp [readWord?]
  | _ :: _ :: _ :: _ :: _ => simp [readWord?]

theorem wordBytes_ofNat (b₀ b₁ b₂ b₃ : UInt8) :
    wordBytes (UInt32.ofNat
      (b₀.toNat + 256 * b₁.toNat + 65536 * b₂.toNat + 16777216 * b₃.toNat)) = [b₀, b₁, b₂, b₃] := by
  have h₀ := b₀.toNat_lt
  have h₁ := b₁.toNat_lt
  have h₂ := b₂.toNat_lt
  have h₃ := b₃.toNat_lt
  have hword : (UInt32.ofNat (b₀.toNat + 256 * b₁.toNat + 65536 * b₂.toNat +
      16777216 * b₃.toNat)).toNat =
      b₀.toNat + 256 * b₁.toNat + 65536 * b₂.toNat + 16777216 * b₃.toNat := by
    rw [UInt32.toNat_ofNat']
    omega
  simp only [wordBytes, hword, List.cons.injEq, and_true]
  refine ⟨?_, ?_, ?_, ?_⟩ <;>
    · rw [← UInt8.toNat_inj, UInt8.toNat_ofNat']
      omega

theorem readWord?_eq_some_iff {bytes rest : Bytes} {n : UInt32} :
    readWord? bytes = some (n, rest) ↔ bytes = wordBytes n ++ rest := by
  constructor
  · intro h
    unfold readWord? at h
    split at h
    next b₀ b₁ b₂ b₃ behind =>
      rw [Option.some.injEq, Prod.mk.injEq] at h
      obtain ⟨rfl, rfl⟩ := h
      rw [wordBytes_ofNat]
      rfl
    next => cases h
  · intro h
    rw [h, readWord?_wordBytes]

end BooleanSearch.Wire
