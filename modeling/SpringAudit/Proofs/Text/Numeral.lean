import Mathlib.Algebra.Group.Nat.Defs
import SpringAudit.Text.Basic

/-!
# Numbers in digits

The number that a sequence of digits denotes, most significant digit first, and that writing
a number in hexadecimal digits of a fixed width loses nothing if the width is enough.
-/

namespace SpringAudit

/-- The number that digits denote behind a number read before. -/
def numeralFrom (base : Nat) (start : Nat) (digits : Text) : Nat :=
  digits.foldl (fun n c => n * base + c.hexValue?.getD 0) start

/-- The number that digits denote in a base. -/
def numeral (base : Nat) (digits : Text) : Nat :=
  numeralFrom base 0 digits

theorem CodePoint.toNat_ofNat {n : Nat} (h : n < 0x110000) : (CodePoint.ofNat n).toNat = n := by
  simp [CodePoint.ofNat, CodePoint.ofNat?, h]

/-- The code point of the number of a code point is the code point itself. -/
theorem CodePoint.ofNat_toNat (c : CodePoint) : CodePoint.ofNat c.toNat = c :=
  CodePoint.ext_toNat (CodePoint.toNat_ofNat c.isLt)

theorem CodePoint.hexValue?_hexDigit (n : Nat) : (hexDigit n).hexValue? = some (n % 16) := by
  unfold hexDigit
  split
  · next hLow =>
    rw [hexValue?, if_pos (by dsimp only; omega)]
    simp
  · next hHigh =>
    rw [hexValue?, if_neg (by dsimp only; omega), if_pos (by dsimp only; omega)]
    simp
    omega

namespace Text

variable {width n : Nat}

theorem length_hex (width n : Nat) : (hex width n).length = width := by
  induction width generalizing n with
  | zero => rfl
  | succ width ih => rw [hex, List.length_append, ih, List.length_singleton]

theorem isHexDigit_of_mem_hex {c : CodePoint} (h : c ∈ hex width n) : c.isHexDigit = true := by
  induction width generalizing n with
  | zero => cases h
  | succ width ih =>
      rw [hex, List.mem_append, List.mem_singleton] at h
      rcases h with hFront | rfl
      · exact ih hFront
      · rw [CodePoint.isHexDigit, CodePoint.hexValue?_hexDigit]
        rfl

/-- Digits of a fixed width denote the number up to the multiples that do not fit. -/
theorem numeral_hex (width n : Nat) : numeral 16 (hex width n) = n % 16 ^ width := by
  induction width generalizing n with
  | zero => rw [Nat.pow_zero, Nat.mod_one]; rfl
  | succ width ih =>
      have hFront : numeral 16 (hex (width + 1) n) =
          numeral 16 (hex width (n / 16)) * 16 + n % 16 := by
        rw [hex, numeral, numeralFrom, List.foldl_append, List.foldl_cons, List.foldl_nil,
          CodePoint.hexValue?_hexDigit, Option.getD_some]
        rfl
      rw [hFront, ih, Nat.pow_succ', Nat.mod_mul, Nat.add_comm, Nat.mul_comm]

/-- A number that fits is read back. -/
theorem numeral_hex_of_lt (h : n < 16 ^ width) : numeral 16 (hex width n) = n := by
  rw [numeral_hex, Nat.mod_eq_of_lt h]

end Text

end SpringAudit
