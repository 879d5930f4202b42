import Mathlib.Data.List.TakeWhile

/-!
# Numbers as text

How a whole number is printed in decimal, and how `strtol` finds the number at the start of a
text. A printed number is found again.
-/

namespace EasyCab.Library

/-- The characters of a string. -/
abbrev Chars := List Char

/-- A whole number as it is printed. -/
def decimal (value : Int) : Chars :=
  (if value < 0 then [Char.ofNat 45] else []) ++ Nat.toDigits 10 value.natAbs

/-- `isspace`. -/
def isSpace (char : Char) : Bool := char.toNat = 32 ∨ (9 ≤ char.toNat ∧ char.toNat ≤ 13)

/-- Whether a number is negative, and what follows its sign. -/
def takeSign : Chars → Bool × Chars
  | [] => (false, [])
  | char :: text =>
      if char.toNat = 45 then (true, text)
      else if char.toNat = 43 then (false, text)
      else (false, char :: text)

/-- The number at the start of a text: white space, a sign and digits. There is none where no
digit stands there. -/
def strtol (text : Chars) : Option Int :=
  let (negative, text) := takeSign (text.dropWhile isSpace)
  let digits := text.takeWhile Char.isDigit
  if digits.isEmpty then none
  else
    let magnitude : Int := Nat.ofDigitChars 10 digits 0
    some (if negative then -magnitude else magnitude)

/-- A digit is no white space and no sign. -/
theorem plain_of_isDigit {char : Char} (digit : char.isDigit = true) :
    isSpace char = false ∧ char.toNat ≠ 45 ∧ char.toNat ≠ 43 := by
  have bounds : 48 ≤ char.toNat ∧ char.toNat ≤ 57 := by
    simp only [Char.isDigit, Bool.and_eq_true, decide_eq_true_eq, ge_iff_le,
      UInt32.le_iff_toNat_le] at digit
    exact digit
  refine ⟨?_, ?_, ?_⟩
  · simp only [isSpace, decide_eq_false_iff_not]
    omega
  · omega
  · omega

/-- The digits of a printed number start with a digit. -/
theorem exists_toDigits_eq_cons (value : Nat) :
    ∃ first rest, Nat.toDigits 10 value = first :: rest ∧ first.isDigit = true := by
  cases printed : Nat.toDigits 10 value with
  | nil => exact absurd printed Nat.toDigits_ne_nil
  | cons first rest =>
      refine ⟨first, rest, rfl, ?_⟩
      apply Nat.isDigit_of_mem_toDigits (b := 10) (n := value) (by omega) (by omega)
      simp [printed]

/-- A printed number is made of digits only. -/
theorem takeWhile_toDigits (value : Nat) :
    (Nat.toDigits 10 value).takeWhile Char.isDigit = Nat.toDigits 10 value := by
  rw [List.takeWhile_eq_self_iff]
  intro char member
  exact Nat.isDigit_of_mem_toDigits (by omega) (by omega) member

/-- The sign and the digits of a printed number. -/
theorem takeSign_decimal (value : Int) :
    takeSign ((decimal value).dropWhile isSpace) =
      (decide (value < 0), Nat.toDigits 10 value.natAbs) := by
  obtain ⟨first, rest, printed, digit⟩ := exists_toDigits_eq_cons value.natAbs
  obtain ⟨noSpace, noMinus, noPlus⟩ := plain_of_isDigit digit
  by_cases negative : value < 0
  · have laid : decimal value = Char.ofNat 45 :: Nat.toDigits 10 value.natAbs := by
      simp [decimal, negative]
    have sign : isSpace (Char.ofNat 45) = false := by decide
    rw [laid, List.dropWhile_cons_of_neg (by simp [sign]), takeSign, if_pos (by decide)]
    simp [negative]
  · have laid : decimal value = first :: rest := by simp [decimal, negative, printed]
    rw [laid, List.dropWhile_cons_of_neg (by simp [noSpace]), takeSign, if_neg noMinus,
      if_neg noPlus, printed]
    simp [negative]

/-- A printed number is found again. -/
theorem strtol_decimal (value : Int) : strtol (decimal value) = some value := by
  have digits : (Nat.toDigits 10 value.natAbs).isEmpty = false := by
    simp [Nat.toDigits_ne_nil]
  simp only [strtol, takeSign_decimal, takeWhile_toDigits, digits, Bool.false_eq_true, if_false,
    Nat.ofDigitChars_ten_toDigits, decide_eq_true_eq]
  split <;> simp only [Option.some.injEq] <;> omega

/-- A printed number takes up room. -/
theorem decimal_ne_nil (value : Int) : decimal value ≠ [] := by
  simp [decimal, Nat.toDigits_ne_nil]

end EasyCab.Library
