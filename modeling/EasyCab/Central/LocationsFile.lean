import Mathlib.Data.List.Forall2
import EasyCab.Common.Logs
import EasyCab.Common.Protocols
import EasyCab.Library.InputStream

/-!
# The locations file

`readFile` of `EC_Central`: a location a line. Five extractions fill the locals of the loop and
nobody asks whether they failed, so where a line stops short the range check judges what the locals
happened to hold, and its arithmetic may overflow. `locations_file_exact_iff` says which lines are
read as they should be all the same.
-/

namespace EasyCab

open Library

namespace LocationsFile

/-- The locals of the loop which the range check looks at. Nothing initialises them. -/
structure Locals where
  id : Char
  x : Int32
  y : Int32
deriving DecidableEq

/-- What comes of a line: an `INSERT` of a location, or a warning with this text. -/
inductive Handled where
  | insert (location : Location)
  | invalid (message : Chars)
deriving DecidableEq

/-- `ss >> id >> buffer >> x >> buffer >> y`. -/
def extract (line : Chars) (locals : Locals) : Locals :=
  let (id, stream) := Stream.getChar (some line)
  let (_, stream) := stream.getChar
  let (x, stream) := stream.getInt
  let (_, stream) := stream.getChar
  let (y, _) := stream.getInt
  ⟨id.getD locals.id, x.getD locals.x, y.getD locals.y⟩

/-- `n + 1`, which no `int` holds for the greatest one. -/
def successor? (n : Int32) : Option Int32 := if n = Int32.maxValue then none else some (n + 1)

/-- `n - 1`, which no `int` holds for the least one. -/
def predecessor? (n : Int32) : Option Int32 := if n = Int32.minValue then none else some (n - 1)

/-- The warning about a line, unless an addition in it overflows. -/
def invalid? (locals : Locals) : Option Handled := do
  let x ← successor? locals.x
  let y ← successor? locals.y
  return .invalid ("Invalid location: ".toList ++ locals.id :: ' ' ::
    (decimal x.toInt ++ ' ' :: decimal y.toInt))

/-- The range check, which decrements the coordinates on its way, unless it overflows. -/
def check? (locals : Locals) : Option Handled :=
  if locals.id < 'A' ∨ 'Z' < locals.id then invalid? locals
  else do
    let x ← predecessor? locals.x
    if x < 0 ∨ 19 < x then invalid? { locals with x := x }
    else
      let y ← predecessor? locals.y
      if y < 0 ∨ 19 < y then invalid? ⟨locals.id, x, y⟩
      else return .insert ⟨UInt8.ofNat locals.id.toNat, ⟨x, y⟩⟩

/-- The rounds of the loop, with what the locals happen to hold at the start of each, up to the
first overflow. -/
def readLines? : List Chars → (Nat → Locals) → Option (List Handled)
  | [], _ => some []
  | line :: lines, leftovers => do
      let handled ← check? (extract line (leftovers 0))
      let rest ← readLines? lines fun round => leftovers (round + 1)
      return handled :: rest

/-- The loop of `readFile` over a file with this content. -/
def readContent? (content : Chars) (leftovers : Nat → Locals) : Option (List Handled) :=
  readLines? (pieces '\n' content) leftovers

/-- `readFile`, given `LOCATIONS_FILE`, the content of that file if it can be opened and whether the
database can be reached. An error ends the process. -/
def readFile? (fileName : Chars) (file? : Option Chars) (connects : Bool)
    (leftovers : Nat → Locals) : Option (Except LogError (List Handled)) :=
  if fileName.isEmpty then some (.error .locationsFileNotProvided)
  else
    match file? with
    | none => some (.error .openingFile)
    | some content =>
        if connects then (readContent? content leftovers).map .ok else some (.error .database)

/-! ### Lines of locations -/

/-- A character which may stand between the parts of a line. -/
def IsSeparator (char : Char) : Prop := isSpace char = false ∧ char.isDigit = false

/-- The line is a capital letter, a separator, a number from 1 to 20, a separator and a number from
1 to 20, and this is the location which it describes. -/
def Describes (line : Chars) (location : Location) : Prop :=
  ∃ (id : Char) (separator next : Char) (x y : Numeral),
    ('A' ≤ id ∧ id ≤ 'Z') ∧ IsSeparator separator ∧ IsSeparator next ∧
      (x.blanks = [] ∧ 1 ≤ x.value ∧ x.value ≤ 20) ∧ (y.blanks = [] ∧ 1 ≤ y.value ∧ y.value ≤ 20) ∧
      line = id :: separator :: (x.text ++ next :: y.text) ∧
      location = ⟨UInt8.ofNat id.toNat, ⟨Int32.ofInt (x.value - 1), Int32.ofInt (y.value - 1)⟩⟩

/-- The line begins so, but for white space before its parts, a sign that is no digit and anything
behind them, and this is the location which is read from it. -/
def Reads (line : Chars) (location : Location) : Prop :=
  ∃ (blanks blanksSeparator blanksNext : Chars) (id separator next : Char) (x y : Numeral)
    (rest : Chars),
    (∀ blank ∈ blanks ++ (blanksSeparator ++ blanksNext), isSpace blank = true) ∧
      ('A' ≤ id ∧ id ≤ 'Z') ∧ isSpace separator = false ∧ isSpace next = false ∧
      (1 ≤ x.value ∧ x.value ≤ 20) ∧ (1 ≤ y.value ∧ y.value ≤ 20) ∧
      NoDigitAhead (blanksNext ++ next :: (y.text ++ rest)) ∧ NoDigitAhead rest ∧
      line = blanks ++ id :: (blanksSeparator ++ separator :: (x.text ++ (blanksNext ++ next ::
        (y.text ++ rest)))) ∧
      location = ⟨UInt8.ofNat id.toNat, ⟨Int32.ofInt (x.value - 1), Int32.ofInt (y.value - 1)⟩⟩

/-- What is described is read. -/
theorem Describes.reads {line : Chars} {location : Location} (describes : Describes line location) :
    Reads line location := by
  obtain ⟨id, separator, next, x, y, letter, apart, apartNext, ⟨_, smallX⟩, ⟨_, smallY⟩, rfl, rfl⟩ :=
    describes
  refine ⟨[], [], [], id, separator, next, x, y, [], by simp, letter, apart.1, apartNext.1, smallX,
    smallY, ?_, by simp [NoDigitAhead], by simp, rfl⟩
  simpa [NoDigitAhead] using apartNext.2

/-- What is stored for a coordinate and what is left of the stream, where the line goes on with this
text: with nothing but white space, with a separator which no `int` follows, or with both. -/
inductive Coordinate (text : Chars) : Option Int32 → Stream → Prop
  | ended (blank : IsBlank text) : Coordinate text none none
  | separator {separator : Char} {rest : Chars} {stored : Option Int32}
      (ahead : CharAhead text separator rest) (noInt : NoInt rest stored) :
      Coordinate text stored none
  | number {separator : Char} {rest left : Chars} {value : Int32}
      (ahead : CharAhead text separator rest) (number : IntAhead rest value left) :
      Coordinate text (some value) (some left)

/-- What the locals, which held `leftovers`, hold after a line: it may be blank, stop short after
its first character or at the first coordinate, or come to the second one. -/
inductive Leaves (leftovers : Locals) (line : Chars) : Locals → Prop
  | blank (blank : IsBlank line) : Leaves leftovers line leftovers
  | toX {id : Char} {rest : Chars} {x : Option Int32} (ahead : CharAhead line id rest)
      (coordinate : Coordinate rest x none) :
      Leaves leftovers line ⟨id, x.getD leftovers.x, leftovers.y⟩
  | toY {id : Char} {rest left : Chars} {x : Int32} {y : Option Int32} {stream : Stream}
      (ahead : CharAhead line id rest) (coordinate : Coordinate rest (some x) (some left))
      (next : Coordinate left y stream) : Leaves leftovers line ⟨id, x, y.getD leftovers.y⟩

/-- The range check turns these values down, and without an overflow. -/
def Harmless (locals : Locals) : Prop :=
  ((locals.id < 'A' ∨ 'Z' < locals.id) ∧ locals.x ≠ Int32.maxValue ∧ locals.y ≠ Int32.maxValue) ∨
    (('A' ≤ locals.id ∧ locals.id ≤ 'Z') ∧ (locals.x < 1 ∨ 20 < locals.x) ∧
      locals.x ≠ Int32.minValue ∧ locals.y ≠ Int32.maxValue) ∨
    (('A' ≤ locals.id ∧ locals.id ≤ 'Z') ∧ (1 ≤ locals.x ∧ locals.x ≤ 20) ∧
      (locals.y < 1 ∨ 20 < locals.y) ∧ locals.y ≠ Int32.minValue)

/-! ### Lines which stop short -/

theorem Coordinate.getInt {text : Chars} {stored : Option Int32} {stream : Stream}
    (coordinate : Coordinate text stored stream) :
    (Stream.getChar (some text)).2.getInt = (stored, stream) := by
  cases coordinate with
  | ended blank => rw [Stream.getChar_of_isBlank blank, Stream.getInt_failed]
  | separator ahead noInt =>
      rw [Stream.getChar_of_charAhead ahead, Stream.getInt_of_noInt noInt]
  | number ahead number =>
      rw [Stream.getChar_of_charAhead ahead, Stream.getInt_of_intAhead number]

/-- A coordinate is read or the stream fails. -/
theorem exists_coordinate (text : Chars) :
    (∃ value left, Coordinate text (some value) (some left)) ∨
      ∃ stored, Coordinate text stored none := by
  rcases Stream.blank_or_charAhead text with blank | ⟨separator, rest, ahead⟩
  · exact .inr ⟨none, .ended blank⟩
  · rcases Stream.intAhead_or_noInt rest with ⟨value, left, number⟩ | ⟨stored, noInt⟩
    · exact .inl ⟨value, left, .number ahead number⟩
    · exact .inr ⟨stored, .separator ahead noInt⟩

/-- The extractions store what the parts of the line say. -/
theorem Leaves.extract {leftovers locals : Locals} {line : Chars}
    (leaves : Leaves leftovers line locals) : extract line leftovers = locals := by
  cases leaves with
  | blank blank => simp [LocationsFile.extract, Stream.getChar_of_isBlank blank]
  | toX ahead coordinate =>
      have stored := coordinate.getInt
      simp [LocationsFile.extract, Stream.getChar_of_charAhead ahead, stored]
  | toY ahead coordinate next =>
      have stored := coordinate.getInt
      have storedNext := next.getInt
      simp [LocationsFile.extract, Stream.getChar_of_charAhead ahead, stored, storedNext]

theorem exists_leaves (leftovers : Locals) (line : Chars) :
    ∃ locals, Leaves leftovers line locals := by
  rcases Stream.blank_or_charAhead line with blank | ⟨id, rest, ahead⟩
  · exact ⟨_, .blank blank⟩
  · rcases exists_coordinate rest with ⟨x, left, coordinate⟩ | ⟨x, coordinate⟩
    · rcases exists_coordinate left with ⟨y, _, next⟩ | ⟨y, next⟩
      · exact ⟨_, .toY ahead coordinate next⟩
      · exact ⟨_, .toY ahead coordinate next⟩
    · exact ⟨_, .toX ahead coordinate⟩

/-- The parts of a line decide what the extractions leave, and nothing else does. -/
theorem leaves_iff {leftovers locals : Locals} {line : Chars} :
    Leaves leftovers line locals ↔ extract line leftovers = locals := by
  refine ⟨Leaves.extract, fun same => ?_⟩
  obtain ⟨other, leaves⟩ := exists_leaves leftovers line
  rwa [← same, leaves.extract]

/-! ### The range check -/

theorem predecessor?_cases (n : Int32) :
    n.toInt = -2147483648 ∧ predecessor? n = none ∨
      ∃ less, predecessor? n = some less ∧ less.toInt = n.toInt - 1 := by
  by_cases least : n = Int32.minValue
  · exact .inl ⟨by rw [least]; rfl, if_pos least⟩
  · refine .inr ⟨n - 1, if_neg least, ?_⟩
    have above : n.toInt ≠ -2147483648 := fun same => least (Int32.toInt_inj.mp same)
    have low := n.le_toInt
    have high := n.toInt_lt
    rw [Int32.toInt_sub, Int32.toInt_one]
    exact Int.bmod_eq_of_le (by omega) (by omega)

theorem eq_maxValue_iff {n : Int32} : n = Int32.maxValue ↔ n.toInt = 2147483647 := by
  rw [← Int32.toInt_inj]
  rfl

theorem invalid?_iff {locals : Locals} :
    (∃ message, invalid? locals = some (.invalid message)) ↔
      locals.x.toInt ≠ 2147483647 ∧ locals.y.toInt ≠ 2147483647 := by
  rw [ne_eq, ne_eq, ← eq_maxValue_iff, ← eq_maxValue_iff]
  unfold invalid? successor?
  by_cases greatestX : locals.x = Int32.maxValue
  · simp [greatestX]
  · by_cases greatestY : locals.y = Int32.maxValue
    · simp [greatestX, greatestY]
    · simp [greatestX, greatestY]

theorem harmless_iff {locals : Locals} :
    Harmless locals ↔
      ((locals.id < 'A' ∨ 'Z' < locals.id) ∧ locals.x.toInt ≠ 2147483647 ∧
          locals.y.toInt ≠ 2147483647) ∨
        (¬ (locals.id < 'A' ∨ 'Z' < locals.id) ∧ (locals.x.toInt < 1 ∨ 20 < locals.x.toInt) ∧
          locals.x.toInt ≠ -2147483648 ∧ locals.y.toInt ≠ 2147483647) ∨
        (¬ (locals.id < 'A' ∨ 'Z' < locals.id) ∧ (1 ≤ locals.x.toInt ∧ locals.x.toInt ≤ 20) ∧
          (locals.y.toInt < 1 ∨ 20 < locals.y.toInt) ∧ locals.y.toInt ≠ -2147483648) := by
  have least (n : Int32) : n = Int32.minValue ↔ n.toInt = -2147483648 := by
    rw [← Int32.toInt_inj]
    rfl
  simp only [Harmless, not_or, Char.not_lt, ne_eq, eq_maxValue_iff, least, Int32.lt_iff_toInt_lt,
    Int32.le_iff_toInt_le, Int32.reduceToInt]

/-- The range check turns down what is harmless, and nothing else. -/
theorem check?_invalid_iff {locals : Locals} :
    (∃ message, check? locals = some (.invalid message)) ↔ Harmless locals := by
  obtain ⟨id, x, y⟩ := locals
  rw [harmless_iff]
  by_cases letter : id < 'A' ∨ 'Z' < id
  · rw [check?, if_pos letter, invalid?_iff]
    tauto
  · rw [check?, if_neg letter]
    rcases predecessor?_cases x with ⟨least, overflows⟩ | ⟨lessX, decremented, exactX⟩
    · simp [overflows, least, letter]
    · simp only [decremented, Option.bind_eq_bind, Option.bind_some]
      have zero : (0 : Int32).toInt = 0 := rfl
      have last : (19 : Int32).toInt = 19 := rfl
      simp only [Int32.lt_iff_toInt_lt, zero, last]
      by_cases outX : lessX.toInt < 0 ∨ 19 < lessX.toInt
      · rw [if_pos outX, invalid?_iff]
        have low := lessX.le_toInt
        have high := x.toInt_lt
        simp only [letter, not_false_eq_true, true_and, false_and, false_or]
        omega
      · rw [if_neg outX]
        rcases predecessor?_cases y with ⟨least, overflows⟩ | ⟨lessY, decremented, exactY⟩
        · simp [overflows, least, letter]
          omega
        · simp only [decremented, Option.bind_some]
          by_cases outY : lessY.toInt < 0 ∨ 19 < lessY.toInt
          · rw [if_pos outY, invalid?_iff]
            have low := lessY.le_toInt
            have high := y.toInt_lt
            simp only [letter, not_false_eq_true, true_and, false_and, false_or]
            omega
          · rw [if_neg outY]
            simp [letter]
            omega

/-- Numbers in range pass the check, and a location is inserted one less. -/
theorem check?_insert {id : Char} {x y : Int} (letter : 'A' ≤ id ∧ id ≤ 'Z')
    (smallX : 1 ≤ x ∧ x ≤ 20) (smallY : 1 ≤ y ∧ y ≤ 20) :
    check? ⟨id, Int32.ofInt x, Int32.ofInt y⟩ =
      some (.insert ⟨UInt8.ofNat id.toNat, ⟨Int32.ofInt (x - 1), Int32.ofInt (y - 1)⟩⟩) := by
  have decremented {n : Int} (small : 1 ≤ n ∧ n ≤ 20) :
      predecessor? (Int32.ofInt n) = some (Int32.ofInt (n - 1)) ∧
        ¬ (Int32.ofInt (n - 1) < 0 ∨ 19 < Int32.ofInt (n - 1)) := by
    have exact : (Int32.ofInt n).toInt = n := Int32.toInt_ofInt_of_le (by omega) (by omega)
    have less : (Int32.ofInt (n - 1)).toInt = n - 1 :=
      Int32.toInt_ofInt_of_le (by omega) (by omega)
    have zero : (0 : Int32).toInt = 0 := rfl
    have last : (19 : Int32).toInt = 19 := rfl
    constructor
    · rcases predecessor?_cases (Int32.ofInt n) with ⟨least, _⟩ | ⟨other, found, same⟩
      · omega
      · rw [found, Option.some.injEq, ← Int32.toInt_inj, same, less, exact]
    · rw [Int32.lt_iff_toInt_lt, Int32.lt_iff_toInt_lt, zero, last, less]
      omega
  have listed : ¬ (id < 'A' ∨ 'Z' < id) := by
    rw [not_or, Char.not_lt, Char.not_lt]
    exact letter
  rw [check?, if_neg listed]
  simp only [(decremented smallX).1, (decremented smallY).1, Option.bind_eq_bind, Option.bind_some]
  rw [if_neg (decremented smallX).2, if_neg (decremented smallY).2]
  rfl

/-- What is read is inserted, whatever the locals hold. -/
theorem Reads.check? {line : Chars} {location : Location} (reads : Reads line location)
    (locals : Locals) : check? (extract line locals) = some (.insert location) := by
  obtain ⟨blanks, blanksSeparator, blanksNext, id, separator, next, x, y, rest, areBlanks, letter,
    visible, visibleNext, smallX, smallY, endsX, endsY, rfl, rfl⟩ := reads
  simp only [List.forall_mem_append] at areBlanks
  have noSpace : isSpace id = false := by
    have low : 65 ≤ id.toNat := letter.1
    simp only [isSpace, decide_eq_false_iff_not]
    omega
  have atX := x.intAhead endsX (by omega) (by omega)
  have atY := y.intAhead endsY (by omega) (by omega)
  have leaves : Leaves locals _ _ :=
    .toY (charAhead_append _ areBlanks.1 noSpace)
      (.number (charAhead_append _ areBlanks.2.1 visible) atX)
      (.number (charAhead_append _ areBlanks.2.2 visibleNext) atY)
  rw [leaves.extract]
  exact check?_insert letter smallX smallY

/-- No line is read as two locations. -/
theorem Reads.unique {line : Chars} {location other : Location} (reads : Reads line location)
    (again : Reads line other) : location = other := by
  have same := reads.check? ⟨'A', 0, 0⟩
  rw [again.check?] at same
  cases same
  rfl

/-! ### Files -/

/-- A line comes to an `INSERT` of a location exactly when it is of a form. -/
def Exact (Form : Chars → Location → Prop) (line : Chars) (handled : Handled) : Prop :=
  ∀ location, handled = .insert location ↔ Form line location

/-- The loop inserts, without an overflow, exactly the locations of the lines of a form. -/
def ReadsExactly (Form : Chars → Location → Prop) (lines : List Chars) (leftovers : Nat → Locals) :
    Prop :=
  ∃ handled, readLines? lines leftovers = some handled ∧ List.Forall₂ (Exact Form) lines handled

section Form

variable {Form : Chars → Location → Prop}

/-- A line is handled as it should be exactly when it is of the form or harmless. -/
theorem exact_iff (reads : ∀ line location, Form line location → Reads line location)
    {line : Chars} {locals : Locals} :
    (∃ handled, check? (extract line locals) = some handled ∧ Exact Form line handled) ↔
      (∃ location, Form line location) ∨ Harmless (extract line locals) := by
  rw [← check?_invalid_iff]
  constructor
  · rintro ⟨handled, checked, exact⟩
    cases handled with
    | insert location => exact .inl ⟨location, (exact location).mp rfl⟩
    | invalid message => exact .inr ⟨message, checked⟩
  · rintro (⟨location, form⟩ | ⟨message, turnedDown⟩)
    · refine ⟨_, (reads line location form).check? locals, fun other => ?_⟩
      constructor
      · intro same
        cases same
        exact form
      · intro formOther
        rw [(reads line location form).unique (reads line other formOther)]
    · refine ⟨_, turnedDown, fun location => ⟨fun same => (by cases same), fun form => ?_⟩⟩
      rw [(reads line location form).check? locals] at turnedDown
      cases turnedDown

/-- Lines are read exactly when each of them is of the form or harmless. Only lines which are read
as a location may be of the form. -/
theorem readsExactly_iff (reads : ∀ line location, Form line location → Reads line location)
    {lines : List Chars} {leftovers : Nat → Locals} :
    ReadsExactly Form lines leftovers ↔ ∀ round line, lines[round]? = some line →
      (∃ location, Form line location) ∨ Harmless (extract line (leftovers round)) := by
  induction lines generalizing leftovers with
  | nil => simp [ReadsExactly, readLines?]
  | cons line lines inductionHypothesis =>
      have first := @exact_iff Form reads line (leftovers 0)
      have later := @inductionHypothesis fun round => leftovers (round + 1)
      have split : ReadsExactly Form (line :: lines) leftovers ↔
          (∃ handled, check? (extract line (leftovers 0)) = some handled ∧
            Exact Form line handled) ∧
            ReadsExactly Form lines fun round => leftovers (round + 1) := by
        simp only [ReadsExactly, readLines?, Option.bind_eq_bind, Option.bind_eq_some_iff,
          Option.pure_def, Option.some.injEq]
        constructor
        · rintro ⟨_, ⟨handled, checked, rest, read, rfl⟩, related⟩
          rw [List.forall₂_cons] at related
          exact ⟨⟨handled, checked, related.1⟩, rest, read, related.2⟩
        · rintro ⟨⟨handled, checked, exact⟩, rest, read, related⟩
          exact ⟨_, ⟨handled, checked, rest, read, rfl⟩, .cons exact related⟩
      rw [split, first, later]
      constructor
      · rintro ⟨here, rest⟩ round other found
        cases round with
        | zero =>
            obtain rfl : line = other := by simpa using found
            exact here
        | succ round => exact rest round other (by simpa using found)
      · intro every
        exact ⟨every 0 line rfl, fun round other found => every (round + 1) other (by simpa using found)⟩

end Form

/-- `readFile` comes to an end exactly when the file is named and opens, the database can be reached
and nothing overflows; it has then handled all lines. -/
theorem readFile?_ok_iff {fileName : Chars} {file? : Option Chars} {connects : Bool}
    {leftovers : Nat → Locals} {handled : List Handled} :
    readFile? fileName file? connects leftovers = some (.ok handled) ↔
      fileName ≠ [] ∧ connects = true ∧
        ∃ content ∈ file?, readContent? content leftovers = some handled := by
  cases fileName with
  | nil => simp [readFile?]
  | cons first rest =>
      cases file? with
      | none => simp [readFile?]
      | some content => cases connects <;> simp [readFile?]

end LocationsFile

open LocationsFile

/-- The loop of `readFile` inserts exactly the locations which the lines of the file describe, and
its arithmetic does not overflow, exactly when every line describes one or its parts, as far as
they go, leave values in the locals which the range check turns down without an overflow. -/
theorem locations_file_exact_iff (content : Chars) (leftovers : Nat → Locals) :
    (∃ handled, readContent? content leftovers = some handled ∧
      List.Forall₂ (Exact Describes) (pieces '\n' content) handled) ↔
      ∀ round line, (pieces '\n' content)[round]? = some line →
        (∃ location, Describes line location) ∨
          ∃ locals, Leaves (leftovers round) line locals ∧ Harmless locals := by
  simp only [leaves_iff, exists_eq_left']
  exact readsExactly_iff fun _ _ => Describes.reads

/-- After a line `B,2,2` the locals hold its location, and a blank line inserts it once more, one
less. -/
theorem blank_line_inserts :
    ¬ ∀ (content : Chars) (leftovers : Nat → Locals),
      ∃ handled, readContent? content leftovers = some handled ∧
        List.Forall₂ (Exact Describes) (pieces '\n' content) handled := by
  intro claimed
  obtain ⟨handled, read, related⟩ := claimed "B,2,2\n\n".toList fun _ => ⟨'B', 1, 1⟩
  have computed : readContent? "B,2,2\n\n".toList (fun _ => ⟨'B', 1, 1⟩) =
      some [.insert ⟨66, ⟨1, 1⟩⟩, .insert ⟨66, ⟨0, 0⟩⟩] := by decide
  have lines : pieces '\n' "B,2,2\n\n".toList = ["B,2,2".toList, []] := by decide
  rw [computed] at read
  cases read
  rw [lines] at related
  cases related with
  | cons _ rest =>
      cases rest with
      | cons blank _ =>
          obtain ⟨_, _, _, _, _, _, _, _, _, _, describes, _⟩ := (blank ⟨66, ⟨0, 0⟩⟩).mp rfl
          cases describes

end EasyCab
