import EasyCab.Library.Numerals

/-!
# Formatted input

What `>>` and `getline` take from a stream of text. An extraction that fails leaves its variable
alone or stores a value all the same, and every extraction after it stores nothing, so each of
them answers what it stores, if anything, and what is left of the stream.
-/

namespace EasyCab.Library

/-! ### Extraction -/

/-- What is left of a stream; nothing once an extraction has failed. -/
abbrev Stream := Option Chars

/-- What follows the number at the start of a text. -/
def afterNumber (text : Chars) : Chars :=
  (takeSign (text.dropWhile isSpace)).2.dropWhile Char.isDigit

namespace Stream

/-- `stream >> c` for a `char`. -/
def getChar : Stream → Option Char × Stream
  | none => (none, none)
  | some text =>
      match text.dropWhile isSpace with
      | [] => (none, none)
      | char :: rest => (some char, some rest)

/-- `stream >> n` for an `int`. At the end of the stream nothing is stored; where no number stands
zero is, and for a number which is no `int` the nearest one. -/
def getInt : Stream → Option Int32 × Stream
  | none => (none, none)
  | some text =>
      if (text.dropWhile isSpace).isEmpty then (none, none)
      else
        match strtol text with
        | none => (some 0, none)
        | some value =>
            if value < -2147483648 then (some Int32.minValue, none)
            else if 2147483647 < value then (some Int32.maxValue, none)
            else (some (Int32.ofInt value), some (afterNumber text))

@[simp] theorem getChar_failed : getChar none = (none, none) := rfl

@[simp] theorem getInt_failed : getInt none = (none, none) := rfl

/-- A character is read past white space. -/
theorem getChar_append {blanks rest : Chars} {char : Char}
    (areBlanks : ∀ blank ∈ blanks, isSpace blank = true) (visible : isSpace char = false) :
    getChar (some (blanks ++ char :: rest)) = (some char, some rest) := by
  have front : (blanks ++ char :: rest).dropWhile isSpace = char :: rest := by
    rw [List.dropWhile_append_of_pos areBlanks, List.dropWhile_cons_of_neg (by simp [visible])]
  simp [getChar, front]

/-- An extraction of a `char` which does not fail found it behind white space. -/
theorem exists_of_getChar {text rest : Chars} {stored : Option Char}
    (read : getChar (some text) = (stored, some rest)) :
    ∃ blanks char, stored = some char ∧ (∀ blank ∈ blanks, isSpace blank = true) ∧
      text = blanks ++ char :: rest := by
  simp only [getChar] at read
  split at read
  · cases read
  · next char left front =>
      cases read
      refine ⟨text.takeWhile isSpace, char, rfl, fun _ => List.mem_takeWhile_imp, ?_⟩
      rw [← front, List.takeWhile_append_dropWhile]

/-- A number stands behind the white space of a text, not at its end. -/
theorem content_of_strtol {text : Chars} {value : Int} (found : strtol text = some value) :
    (text.dropWhile isSpace).isEmpty = false := by
  cases blank : text.dropWhile isSpace with
  | nil => simp [strtol, blank, takeSign] at found
  | cons char rest => rfl

/-- An `int` is stored by an extraction which does not fail. -/
theorem getInt_of_strtol {text : Chars} {value : Int} (found : strtol text = some value)
    (low : -2147483648 ≤ value) (high : value ≤ 2147483647) :
    getInt (some text) = (some (Int32.ofInt value), some (afterNumber text)) := by
  simp only [getInt, content_of_strtol found, Bool.false_eq_true, if_false, found]
  rw [if_neg (by omega), if_neg (by omega)]

/-- An extraction of an `int` which does not fail stores the number that stands there. -/
theorem strtol_of_getInt {stream : Stream} {stored : Option Int32} {rest : Chars}
    (read : getInt stream = (stored, some rest)) :
    ∃ text value, stream = some text ∧ strtol text = some value ∧
      stored = some (Int32.ofInt value) ∧ (Int32.ofInt value).toInt = value ∧
        rest = afterNumber text := by
  cases stream with
  | none => simp at read
  | some text =>
      simp only [getInt] at read
      split at read
      · cases read
      · cases found : strtol text with
        | none => simp [found] at read
        | some value =>
            simp only [found] at read
            split at read
            · cases read
            · split at read
              · cases read
              · cases read
                refine ⟨text, value, rfl, found, rfl, ?_, rfl⟩
                exact Int32.toInt_ofInt_of_le (by omega) (by omega)

end Stream

/-! ### Numbers in a text -/

/-- The text of a sign, if there is one; the minus sign is the true one. -/
def signText : Option Bool → Chars
  | none => []
  | some false => ['+']
  | some true => ['-']

/-- A number as it may stand in a text: white space, a sign and digits. -/
structure Numeral where
  blanks : Chars
  sign : Option Bool
  digits : Chars
  areBlanks : ∀ char ∈ blanks, isSpace char = true
  areDigits : ∀ char ∈ digits, char.isDigit = true
  notEmpty : digits ≠ []

namespace Numeral

/-- The text of a numeral. -/
def text (numeral : Numeral) : Chars :=
  numeral.blanks ++ (signText numeral.sign ++ numeral.digits)

/-- What its digits say. -/
def magnitude (numeral : Numeral) : Nat := Nat.ofDigitChars 10 numeral.digits 0

/-- The number for which a numeral stands. -/
def value (numeral : Numeral) : Int :=
  if numeral.sign = some true then -numeral.magnitude else numeral.magnitude

end Numeral

/-- A text does not go on with a digit. -/
def NoDigitAhead (text : Chars) : Prop := ∀ char ∈ text.head?, char.isDigit = false

theorem noDigitAhead_of_blanks {blanks rest : Chars} {char : Char}
    (areBlanks : ∀ blank ∈ blanks, isSpace blank = true) (other : char.isDigit = false) :
    NoDigitAhead (blanks ++ char :: rest) := by
  intro first head
  cases blanks with
  | nil =>
      obtain rfl : char = first := by simpa using head
      exact other
  | cons blank blanks =>
      obtain rfl : blank = first := by simpa using head
      have space := areBlanks blank List.mem_cons_self
      by_contra digit
      simp [(plain_of_isDigit (Bool.of_not_eq_false digit)).1] at space

/-- Digits are taken up to where there are no more. -/
theorem span_digits {digits rest : Chars} (areDigits : ∀ char ∈ digits, char.isDigit = true)
    (ends : NoDigitAhead rest) :
    (digits ++ rest).takeWhile Char.isDigit = digits ∧
      (digits ++ rest).dropWhile Char.isDigit = rest := by
  rw [List.takeWhile_append_of_pos areDigits, List.dropWhile_append_of_pos areDigits]
  cases rest with
  | nil => simp
  | cons char rest =>
      have other : ¬ char.isDigit = true := by simp [ends char rfl]
      rw [List.takeWhile_cons_of_neg other, List.dropWhile_cons_of_neg other, List.append_nil]
      exact ⟨rfl, rfl⟩

/-- A sign is taken off the digits which follow it. -/
theorem takeSign_signText {sign : Option Bool} {char : Char} {rest : Chars}
    (digit : char.isDigit = true) :
    takeSign (signText sign ++ char :: rest) = (decide (sign = some true), char :: rest) := by
  obtain ⟨_, noMinus, noPlus⟩ := plain_of_isDigit digit
  cases sign with
  | none => simp [signText, takeSign, noMinus, noPlus]
  | some negative => cases negative <;> simp [signText, takeSign]

/-- A sign or a digit is no white space. -/
theorem dropWhile_signText {sign : Option Bool} {char : Char} {rest : Chars}
    (digit : char.isDigit = true) :
    (signText sign ++ char :: rest).dropWhile isSpace = signText sign ++ char :: rest := by
  cases sign with
  | none => exact List.dropWhile_cons_of_neg (by simp [(plain_of_isDigit digit).1])
  | some negative => cases negative <;> exact List.dropWhile_cons_of_neg (by decide)

/-- A numeral is found at the start of a text, and what follows it is left. -/
theorem Numeral.strtol_append (numeral : Numeral) {rest : Chars} (ends : NoDigitAhead rest) :
    strtol (numeral.text ++ rest) = some numeral.value ∧
      afterNumber (numeral.text ++ rest) = rest := by
  obtain ⟨blanks, sign, digits, areBlanks, areDigits, notEmpty⟩ := numeral
  obtain ⟨first, others, rfl⟩ := List.exists_cons_of_ne_nil notEmpty
  have digit : first.isDigit = true := areDigits first List.mem_cons_self
  have front : (Numeral.text ⟨blanks, sign, first :: others, areBlanks, areDigits, notEmpty⟩ ++
      rest).dropWhile isSpace = signText sign ++ first :: (others ++ rest) := by
    rw [Numeral.text, List.append_assoc, List.dropWhile_append_of_pos areBlanks]
    simpa using @dropWhile_signText sign first (others ++ rest) digit
  obtain ⟨taken, left⟩ := span_digits areDigits ends
  rw [List.cons_append] at taken left
  constructor
  · simp only [strtol, front, takeSign_signText digit, taken, List.isEmpty_cons, Bool.false_eq_true,
      if_false, decide_eq_true_eq]
    rfl
  · rw [afterNumber, front, takeSign_signText digit, left]

/-- What `takeSign` found is the text of a sign. -/
theorem exists_signText (text : Chars) :
    ∃ sign, text = signText sign ++ (takeSign text).2 ∧ (takeSign text).1 = decide (sign = some true) := by
  cases text with
  | nil => exact ⟨none, rfl, by simp [takeSign]⟩
  | cons char rest =>
      by_cases minus : char.toNat = 45
      · obtain rfl : char = '-' := Char.toNat_inj.mp minus
        exact ⟨some true, by simp [takeSign, signText], by simp [takeSign]⟩
      · by_cases plus : char.toNat = 43
        · obtain rfl : char = '+' := Char.toNat_inj.mp plus
          exact ⟨some false, by simp [takeSign, signText], by simp [takeSign]⟩
        · exact ⟨none, by simp [takeSign, signText, minus, plus], by simp [takeSign, minus, plus]⟩

/-- A number which is found stands at the start of the text. -/
theorem exists_numeral {text : Chars} {value : Int} (found : strtol text = some value) :
    ∃ numeral : Numeral, text = numeral.text ++ afterNumber text ∧ numeral.value = value ∧
      NoDigitAhead (afterNumber text) := by
  obtain ⟨sign, front, negative⟩ := exists_signText (text.dropWhile isSpace)
  have whole : text = text.takeWhile isSpace ++ (signText sign ++
      (((takeSign (text.dropWhile isSpace)).2).takeWhile Char.isDigit ++ afterNumber text)) := by
    rw [afterNumber, List.takeWhile_append_dropWhile, ← front, List.takeWhile_append_dropWhile]
  simp only [strtol] at found
  split at found
  · cases found
  · next digits =>
      refine ⟨⟨text.takeWhile isSpace, sign, _, fun _ => List.mem_takeWhile_imp,
        fun _ => List.mem_takeWhile_imp, by simpa using digits⟩, ?_, ?_, ?_⟩
      · simpa [Numeral.text, List.append_assoc] using whole
      · simpa [Numeral.value, Numeral.magnitude, negative] using found
      · intro char head
        rw [afterNumber] at head
        have stops := List.head?_dropWhile_not Char.isDigit (takeSign (text.dropWhile isSpace)).2
        simp only [Option.mem_def.mp head] at stops
        simpa using stops

/-! ### What an extraction finds -/

/-- A text of nothing but white space. -/
def IsBlank (text : Chars) : Prop := ∀ char ∈ text, isSpace char = true

/-- The first character of a text behind its white space, and what follows it. -/
def CharAhead (text : Chars) (char : Char) (rest : Chars) : Prop :=
  ∃ blanks, IsBlank blanks ∧ isSpace char = false ∧ text = blanks ++ char :: rest

/-- The text begins with a numeral, and this follows it. -/
def Numeral.Ahead (numeral : Numeral) (text rest : Chars) : Prop :=
  text = numeral.text ++ rest ∧ NoDigitAhead rest

/-- A text in which no `int` is found, and what an extraction of one stores all the same. -/
inductive NoInt (text : Chars) : Option Int32 → Prop
  | ended (blank : IsBlank text) : NoInt text none
  | other (content : ¬ IsBlank text)
      (noNumeral : ∀ (numeral : Numeral) (rest : Chars), ¬ numeral.Ahead text rest) :
      NoInt text (some 0)
  | tooSmall {numeral : Numeral} {rest : Chars} (ahead : numeral.Ahead text rest)
      (least : numeral.value < -2147483648) : NoInt text (some Int32.minValue)
  | tooLarge {numeral : Numeral} {rest : Chars} (ahead : numeral.Ahead text rest)
      (greatest : 2147483647 < numeral.value) : NoInt text (some Int32.maxValue)

/-- A text which begins with an `int`, its value and what follows it. -/
inductive IntAhead (text : Chars) : Int32 → Chars → Prop
  | number {numeral : Numeral} {rest : Chars} (ahead : numeral.Ahead text rest)
      (least : -2147483648 ≤ numeral.value) (greatest : numeral.value ≤ 2147483647) :
      IntAhead text (Int32.ofInt numeral.value) rest

theorem charAhead_append {blanks : Chars} {char : Char} (rest : Chars) (areBlanks : IsBlank blanks)
    (visible : isSpace char = false) : CharAhead (blanks ++ char :: rest) char rest :=
  ⟨blanks, areBlanks, visible, rfl⟩

/-- A numeral in the range of an `int` is an `int`. -/
theorem Numeral.intAhead (numeral : Numeral) {rest : Chars} (ends : NoDigitAhead rest)
    (least : -2147483648 ≤ numeral.value) (greatest : numeral.value ≤ 2147483647) :
    IntAhead (numeral.text ++ rest) (Int32.ofInt numeral.value) rest :=
  .number ⟨rfl, ends⟩ least greatest

theorem Numeral.Ahead.strtol {numeral : Numeral} {text rest : Chars}
    (ahead : numeral.Ahead text rest) : strtol text = some numeral.value := by
  obtain ⟨rfl, ends⟩ := ahead
  exact (numeral.strtol_append ends).1

theorem isBlank_iff {text : Chars} : IsBlank text ↔ (text.dropWhile isSpace).isEmpty = true := by
  rw [List.isEmpty_iff, List.dropWhile_eq_nil_iff]
  rfl

namespace Stream

theorem getChar_of_isBlank {text : Chars} (blank : IsBlank text) :
    getChar (some text) = (none, none) := by
  simp [getChar, List.isEmpty_iff.mp (isBlank_iff.mp blank)]

theorem getChar_of_charAhead {text rest : Chars} {char : Char} (ahead : CharAhead text char rest) :
    getChar (some text) = (some char, some rest) := by
  obtain ⟨blanks, areBlanks, visible, rfl⟩ := ahead
  exact getChar_append areBlanks visible

/-- Behind its white space a text has a character or it ends. -/
theorem blank_or_charAhead (text : Chars) :
    IsBlank text ∨ ∃ char rest, CharAhead text char rest := by
  cases front : text.dropWhile isSpace with
  | nil => exact .inl (isBlank_iff.mpr (by simp [front]))
  | cons char rest =>
      refine .inr ⟨char, rest, text.takeWhile isSpace, fun _ => List.mem_takeWhile_imp, ?_, ?_⟩
      · have stops := List.head?_dropWhile_not isSpace text
        simpa [front] using stops
      · rw [← front, List.takeWhile_append_dropWhile]

theorem getInt_of_intAhead {text rest : Chars} {value : Int32} (ahead : IntAhead text value rest) :
    getInt (some text) = (some value, some rest) := by
  obtain ⟨⟨rfl, ends⟩, least, greatest⟩ := ahead
  rw [getInt_of_strtol (Numeral.strtol_append _ ends).1 least greatest,
    (Numeral.strtol_append _ ends).2]

theorem getInt_of_noInt {text : Chars} {stored : Option Int32} (noInt : NoInt text stored) :
    getInt (some text) = (stored, none) := by
  cases noInt with
  | ended blank => simp [getInt, isBlank_iff.mp blank]
  | other content noNumeral =>
      have missing : strtol text = none := by
        by_contra found
        obtain ⟨value, found⟩ := Option.ne_none_iff_exists'.mp found
        obtain ⟨numeral, whole, _, ends⟩ := exists_numeral found
        exact noNumeral numeral _ ⟨whole, ends⟩
      simp only [getInt, missing]
      rw [if_neg (isBlank_iff.not.mp content)]
  | tooSmall ahead least =>
      have found := ahead.strtol
      simp only [getInt, content_of_strtol found, Bool.false_eq_true, if_false, found]
      rw [if_pos least]
  | tooLarge ahead greatest =>
      have found := ahead.strtol
      simp only [getInt, content_of_strtol found, Bool.false_eq_true, if_false, found]
      rw [if_neg (by omega), if_pos greatest]

/-- A text begins with an `int` or it does not. -/
theorem intAhead_or_noInt (text : Chars) :
    (∃ value rest, IntAhead text value rest) ∨ ∃ stored, NoInt text stored := by
  by_cases blank : IsBlank text
  · exact .inr ⟨none, .ended blank⟩
  · by_cases found : ∃ (numeral : Numeral) (rest : Chars), numeral.Ahead text rest
    · obtain ⟨numeral, rest, ahead⟩ := found
      by_cases least : numeral.value < -2147483648
      · exact .inr ⟨_, .tooSmall ahead least⟩
      · by_cases greatest : 2147483647 < numeral.value
        · exact .inr ⟨_, .tooLarge ahead greatest⟩
        · exact .inl ⟨_, _, .number ahead (by omega) (by omega)⟩
    · exact .inr ⟨_, .other blank fun numeral rest ahead => found ⟨numeral, rest, ahead⟩⟩

end Stream

/-! ### Pieces

A loop over `getline`. A separator at the end of the text begins no further piece. -/

/-- `getline(stream, piece, separator)`: the next piece and what is left. -/
def getline (separator : Char) (text : Chars) : Option (Chars × Chars) :=
  if text.isEmpty then none
  else some (text.takeWhile (· ≠ separator), (text.dropWhile (· ≠ separator)).drop 1)

/-- The pieces which `while (getline(stream, piece, separator))` goes through. -/
def pieces (separator : Char) : Chars → List Chars
  | [] => []
  | char :: text =>
      if char = separator then [] :: pieces separator text
      else
        match pieces separator text with
        | [] => [[char]]
        | piece :: rest => (char :: piece) :: rest

section Pieces

variable {separator : Char}

@[simp] theorem pieces_eq_nil {text : Chars} : pieces separator text = [] ↔ text = [] := by
  cases text with
  | nil => simp [pieces]
  | cons char text =>
      simp only [pieces, reduceCtorEq, iff_false]
      split
      · simp
      · split <;> simp

/-- The loop takes one piece after the other. -/
theorem pieces_eq_getline (text : Chars) :
    pieces separator text =
      match getline separator text with
      | none => []
      | some (piece, rest) => piece :: pieces separator rest := by
  induction text with
  | nil => rfl
  | cons char text inductionHypothesis =>
      by_cases same : char = separator
      · simp [pieces, getline, same]
      · rw [pieces, if_neg same, inductionHypothesis]
        cases text with
        | nil => simp [getline, same, pieces]
        | cons next text => simp [getline, same]

/-- The pieces with a separator between them are the text, but for a separator at its end. -/
theorem intercalate_pieces (text : Chars) :
    text = [separator].intercalate (pieces separator text) ∨
      text = [separator].intercalate (pieces separator text) ++ [separator] := by
  induction text with
  | nil => exact .inl rfl
  | cons char text inductionHypothesis =>
      by_cases same : char = separator
      · cases found : pieces separator text with
        | nil =>
            rw [pieces_eq_nil] at found
            exact .inr (by simp [found, same, pieces])
        | cons first rest =>
            rw [found] at inductionHypothesis
            rw [pieces, if_pos same, found, List.intercalate_cons_cons]
            simpa [same] using inductionHypothesis
      · cases found : pieces separator text with
        | nil =>
            rw [pieces_eq_nil] at found
            exact .inl (by simp [found, same, pieces])
        | cons first rest =>
            rw [found] at inductionHypothesis
            rw [pieces, if_neg same, found]
            cases rest with
            | nil => simpa using inductionHypothesis
            | cons second rest =>
                simp only [List.intercalate_cons_cons] at inductionHypothesis ⊢
                simpa using inductionHypothesis

end Pieces

end EasyCab.Library
