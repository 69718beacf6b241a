import BooleanSearch.Text.Alphanumeric

/-!
This module contains the decimal notation of natural numbers and its readers. A reader takes the
size of the type that the value has to fit.
-/

namespace BooleanSearch.Text

def decimal (n : Nat) : Text := Nat.toDigits 10 n

def ofDecimal? (digits : Text) : Option Nat :=
  if digits.isEmpty || !digits.all Char.isDigit then none else some (Nat.ofDigitChars 10 digits 0)

def unsigned? (size : Nat) (digits : Text) : Option Nat :=
  match ofDecimal? digits with
  | some n => if n < size then some n else none
  | none => none

def signedUnsigned? (size : Nat) : Text → Option Nat
  | '+' :: digits => unsigned? size digits
  | digits => unsigned? size digits

theorem isDigit_of_mem_decimal {n : Nat} {c : Char} (h : c ∈ decimal n) : c.isDigit = true :=
  Nat.isDigit_of_mem_toDigits (by decide) (by decide) h

theorem decimal_ne_nil (n : Nat) : decimal n ≠ [] := Nat.toDigits_ne_nil

@[simp]
theorem ofDecimal?_decimal (n : Nat) : ofDecimal? (decimal n) = some n := by
  have hdigits : (decimal n).all Char.isDigit = true :=
    List.all_eq_true.mpr fun c hc => isDigit_of_mem_decimal hc
  have hne : (decimal n).isEmpty = false := by
    simpa using decimal_ne_nil n
  rw [ofDecimal?, hdigits, hne]
  simp [decimal, Nat.ofDigitChars_ten_toDigits]

theorem unsigned?_decimal {size n : Nat} (h : n < size) :
    unsigned? size (decimal n) = some n := by
  simp [unsigned?, h]

end BooleanSearch.Text
