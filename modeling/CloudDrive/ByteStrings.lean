import Mathlib.Data.List.TakeWhile
import Mathlib.Tactic.Common
import Mathlib.Tactic.IntervalCases

/-!
# Byte strings

C strings as lists of bytes without the terminator, and decimal numbers in
them.
-/

namespace CloudDrive

/-- The bytes of a payload or, without the terminator, of a C string. -/
abbrev Bytes := List UInt8

/-- The bytes of a string constant of the source. -/
def ascii (text : String) : Bytes := text.toByteArray.data.toList

/-- What a C string function reads of a buffer: the bytes before the first
terminator. -/
def cString (buffer : Bytes) : Bytes :=
  buffer.takeWhile (· ≠ 0)

theorem cString_eq_self {text : Bytes} : cString text = text ↔ 0 ∉ text := by
  rw [cString, List.takeWhile_eq_self_iff]
  constructor
  · intro nonzero inside
    exact absurd (nonzero 0 inside) (by decide)
  · intro noNul byte inside
    rw [decide_eq_true_eq]
    rintro rfl
    exact noNul inside

theorem noNul_cString (text : Bytes) : 0 ∉ cString text := by
  intro inside
  simpa using List.mem_takeWhile_imp inside

theorem cString_of_noNul {text : Bytes} (noNul : 0 ∉ text) : cString text = text :=
  cString_eq_self.mpr noNul

/-- What `snprintf` leaves of a text in a buffer of `size` bytes. -/
def snprintf (size : Nat) (text : Bytes) : Bytes := text.take (size - 1)

theorem snprintf_of_fits {size : Nat} {text : Bytes} (fits : text.length < size) :
    snprintf size text = text :=
  List.take_of_length_le (by omega)

def isDigit (byte : UInt8) : Bool := 48 ≤ byte && byte ≤ 57

/-- The digit of a number below ten. -/
def digit (value : Nat) : UInt8 := UInt8.ofNat (48 + value)

/-- The last `fuel` decimal digits of a number, without leading zeros. -/
def decimalDigits : Nat → Nat → Bytes
  | 0, _ => []
  | fuel + 1, value =>
      if value < 10 then [digit value]
      else decimalDigits fuel (value / 10) ++ [digit (value % 10)]

/-- A 64-bit number as `%lu` and `%llu` write it. -/
def decimal (value : UInt64) : Bytes := decimalDigits 20 value.toNat

/-- The number a string of digits stands for. -/
def decimalValue (digits : Bytes) : Nat :=
  digits.foldl (fun value byte => 10 * value + (byte.toNat - 48)) 0

theorem isDigit_digit {value : Nat} (small : value < 10) :
    isDigit (digit value) = true := by
  interval_cases value <;> decide

theorem toNat_digit {value : Nat} (small : value < 10) :
    (digit value).toNat - 48 = value := by
  interval_cases value <;> decide

theorem decimalDigits_all (fuel value : Nat) :
    (decimalDigits fuel value).all isDigit = true := by
  induction fuel generalizing value with
  | zero => rfl
  | succ fuel inductionHypothesis =>
      rw [decimalDigits]
      split
      · rename_i small
        simp [isDigit_digit small]
      · simp [inductionHypothesis, isDigit_digit (Nat.mod_lt value (by omega))]

theorem decimalDigits_ne_nil (fuel value : Nat) :
    decimalDigits (fuel + 1) value ≠ [] := by
  rw [decimalDigits]
  split <;> simp

theorem length_decimalDigits (fuel value : Nat) :
    (decimalDigits fuel value).length ≤ fuel := by
  induction fuel generalizing value with
  | zero => exact Nat.le_refl 0
  | succ fuel inductionHypothesis =>
      rw [decimalDigits]
      split
      · simp
      · simpa using inductionHypothesis (value / 10)

theorem decimalValue_decimalDigits {fuel value : Nat}
    (enough : value < 10 ^ fuel) :
    decimalValue (decimalDigits fuel value) = value := by
  induction fuel generalizing value with
  | zero =>
      have : value = 0 := by simpa using enough
      rw [this]
      rfl
  | succ fuel inductionHypothesis =>
      rw [decimalDigits]
      split
      · rename_i small
        simp [decimalValue, toNat_digit small]
      · have quotient : value / 10 < 10 ^ fuel :=
          Nat.div_lt_of_lt_mul (by rw [Nat.pow_succ] at enough; omega)
        have leading := inductionHypothesis quotient
        rw [decimalValue] at leading ⊢
        rw [List.foldl_append, leading]
        simp only [List.foldl_cons, List.foldl_nil,
          toNat_digit (Nat.mod_lt value (by omega))]
        omega

theorem decimal_all (value : UInt64) : (decimal value).all isDigit = true :=
  decimalDigits_all 20 value.toNat

theorem decimal_ne_nil (value : UInt64) : decimal value ≠ [] :=
  decimalDigits_ne_nil 19 value.toNat

theorem length_decimal (value : UInt64) : (decimal value).length ≤ 20 :=
  length_decimalDigits 20 value.toNat

@[simp]
theorem decimalValue_decimal (value : UInt64) :
    decimalValue (decimal value) = value.toNat := by
  apply decimalValue_decimalDigits
  have := value.toNat_lt
  omega

end CloudDrive
