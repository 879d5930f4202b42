import EasyCab.Library.InputStream

/-!
# Addresses

`setIp` reads four numbers and three dots from a stream over its argument. The stream skips white
space and takes signs, and nobody asks whether anything is left of it after the fourth number.
`Loose` is what is accepted, `Dotted` is what should be, and `set_ip_exact_iff` says that only
the texts between the two go wrong.
-/

namespace EasyCab

open Library

/-- `Address`. -/
structure Address where
  ip : Chars
  port : Int32
deriving DecidableEq

/-- `"localhost"`. -/
def localhost : Chars := "localhost".toList

namespace Address

/-- The default constructor. -/
def new : Address := ⟨[], 0⟩

/-- The last rounds of the loop of `setIp`, with what `n` and `c` hold before them. -/
def readOctets : Nat → Int32 → Char → Stream → Bool
  | 0, _, _, _ => true
  | rounds + 1, n, c, stream =>
      let (stored, stream) := stream.getInt
      let n := stored.getD n
      if stream.isNone ∨ n < 0 ∨ 255 < n then false
      else if rounds = 0 then true
      else
        let (stored, stream) := stream.getChar
        let c := stored.getD c
        if c ≠ '.' then false else readOctets rounds n c stream

/-- `setIp`, with what its locals `n` and `c` happen to hold: what it returns, and the address. -/
def setIp (address : Address) (ip : Chars) (n : Int32) (c : Char) : Bool × Address :=
  if ip.isEmpty then (false, address)
  else if ip = localhost then (true, { address with ip := ip })
  else if readOctets 4 n c (some ip) then (true, { address with ip := ip })
  else (false, address)

/-- `setPort`. -/
def setPort (address : Address) (port : Int32) : Bool × Address :=
  if port < 0 ∨ 65535 < port then (false, address) else (true, { address with port := port })

/-- `Address(ip, port)`, with what the port and the locals of `setIp` happen to hold. -/
def ofIp (ip : Chars) (port oldPort n : Int32) (c : Char) : Address :=
  let (accepted, address) := (Address.mk [] oldPort).setIp ip n c
  if accepted then
    let (fits, address) := address.setPort port
    if fits then address else new
  else new

end Address

/-! ### Texts of an address -/

/-- A decimal number from 0 to 255. -/
def IsOctet (text : Chars) : Prop :=
  text ≠ [] ∧ (∀ char ∈ text, char.isDigit = true) ∧ Nat.ofDigitChars 10 text 0 ≤ 255

/-- Four decimal numbers from 0 to 255 with single dots between them. -/
def Dotted (text : Chars) : Prop :=
  ∃ first second third fourth, IsOctet first ∧ IsOctet second ∧ IsOctet third ∧ IsOctet fourth ∧
    text = ['.'].intercalate [first, second, third, fourth]

/-- So many numbers from 0 to 255, with white space and a sign before each, white space before the
dot behind it, and anything but a digit after the last. -/
inductive Loose : Nat → Chars → Prop where
  | last (numeral : Numeral) (small : 0 ≤ numeral.value ∧ numeral.value ≤ 255) {rest : Chars}
      (ends : NoDigitAhead rest) : Loose 1 (numeral.text ++ rest)
  | dot (numeral : Numeral) (small : 0 ≤ numeral.value ∧ numeral.value ≤ 255) {blanks : Chars}
      (areBlanks : ∀ char ∈ blanks, isSpace char = true) {count : Nat} {rest : Chars}
      (later : Loose (count + 1) rest) :
      Loose (count + 2) (numeral.text ++ (blanks ++ '.' :: rest))

/-- Four numbers with dots between them, but with signs, white space or a tail around them. -/
def Padded (text : Chars) : Prop := Loose 4 text ∧ ¬ Dotted text

/-- What `setIp` is to accept. -/
def ValidIp (text : Chars) : Prop := text = localhost ∨ Dotted text

namespace Address

/-! ### What is read -/

/-- A round goes on exactly when it finds a number which fits. -/
theorem getInt_fits_iff {text rest : Chars} {n : Int32} :
    (∃ stored, Stream.getInt (some text) = (stored, some rest) ∧
      0 ≤ stored.getD n ∧ stored.getD n ≤ 255) ↔
      ∃ numeral : Numeral, (0 ≤ numeral.value ∧ numeral.value ≤ 255) ∧ NoDigitAhead rest ∧
        text = numeral.text ++ rest := by
  constructor
  · rintro ⟨stored, read, low, high⟩
    obtain ⟨_, value, same, found, rfl, exact, rfl⟩ := Stream.strtol_of_getInt read
    cases same
    obtain ⟨numeral, laid, rfl, ends⟩ := exists_numeral found
    refine ⟨numeral, ?_, ends, laid⟩
    rw [Option.getD_some, Int32.le_iff_toInt_le, exact] at low high
    exact ⟨low, high⟩
  · rintro ⟨numeral, ⟨low, high⟩, ends, rfl⟩
    obtain ⟨found, left⟩ := numeral.strtol_append ends
    have exact : (Int32.ofInt numeral.value).toInt = numeral.value :=
      Int32.toInt_ofInt_of_le (by omega) (by omega)
    refine ⟨some (Int32.ofInt numeral.value), ?_, ?_⟩
    · rw [Stream.getInt_of_strtol found (by omega) (by omega), left]
    · rw [Option.getD_some, Int32.le_iff_toInt_le, Int32.le_iff_toInt_le, exact]
      exact ⟨low, high⟩

/-- What one more round of the loop needs. -/
theorem readOctets_succ_iff {rounds : Nat} {n : Int32} {c : Char} {stream : Stream} :
    readOctets (rounds + 1) n c stream = true ↔
      ∃ stored rest, stream.getInt = (stored, some rest) ∧ 0 ≤ stored.getD n ∧
        stored.getD n ≤ 255 ∧ (rounds = 0 ∨ (Stream.getChar (some rest)).1.getD c = '.' ∧
          readOctets rounds (stored.getD n) ((Stream.getChar (some rest)).1.getD c)
            (Stream.getChar (some rest)).2 = true) := by
  cases read : stream.getInt with
  | mk stored left =>
      cases left with
      | none => simp [readOctets, read]
      | some rest => simp [readOctets, read, Int32.not_lt, and_assoc]

/-- The loop accepts what is loosely an address, whatever its locals hold. -/
theorem readOctets_iff {rounds : Nat} {n : Int32} {c : Char} {text : Chars} :
    readOctets (rounds + 1) n c (some text) = true ↔ Loose (rounds + 1) text := by
  induction rounds generalizing n c text with
  | zero =>
      rw [readOctets_succ_iff]
      constructor
      · rintro ⟨stored, rest, read, low, high, _⟩
        obtain ⟨numeral, small, ends, rfl⟩ := getInt_fits_iff.mp ⟨stored, read, low, high⟩
        exact .last numeral small ends
      · intro loose
        cases loose with
        | last numeral small ends =>
            obtain ⟨stored, read, low, high⟩ :=
              (@getInt_fits_iff _ _ n).mpr ⟨numeral, small, ends, rfl⟩
            exact ⟨stored, _, read, low, high, .inl rfl⟩
  | succ rounds inductionHypothesis =>
      rw [readOctets_succ_iff]
      constructor
      · rintro ⟨stored, rest, read, low, high, none | ⟨dot, later⟩⟩
        · cases none
        · obtain ⟨numeral, small, ends, rfl⟩ := getInt_fits_iff.mp ⟨stored, read, low, high⟩
          cases next : Stream.getChar (some rest) with
          | mk char left =>
              rw [next] at dot later
              cases left with
              | none =>
                  -- The next round finds a stream which has failed, whatever `c` holds.
                  simp [readOctets] at later
              | some left =>
                  obtain ⟨blanks, char, rfl, areBlanks, rfl⟩ := Stream.exists_of_getChar next
                  obtain rfl : char = '.' := dot
                  exact .dot numeral small areBlanks (inductionHypothesis.mp later)
      · intro loose
        cases loose with
        | @dot numeral small blanks areBlanks _ rest later =>
            have ends : NoDigitAhead (blanks ++ '.' :: rest) :=
              noDigitAhead_of_blanks areBlanks (by decide)
            obtain ⟨stored, read, low, high⟩ :=
              (@getInt_fits_iff _ _ n).mpr ⟨numeral, small, ends, rfl⟩
            have dot : Stream.getChar (some (blanks ++ '.' :: rest)) = (some '.', some rest) :=
              Stream.getChar_append areBlanks (by decide)
            refine ⟨stored, _, read, low, high, .inr ?_⟩
            rw [dot]
            exact ⟨rfl, inductionHypothesis.mpr later⟩

/-- `setIp` accepts `localhost` and what is loosely an address. -/
theorem setIp_accepts_iff {address : Address} {ip : Chars} {n : Int32} {c : Char} :
    (address.setIp ip n c).1 = true ↔ ip = localhost ∨ Loose 4 ip := by
  rw [← @readOctets_iff 3 n c]
  unfold setIp
  split
  · next empty =>
      obtain rfl : ip = [] := by simpa using empty
      have other : [] ≠ localhost := by decide
      simp [readOctets, Stream.getInt, other]
  · split
    · next same => simp [same]
    · next other => split <;> simp_all

/-- What `setIp` accepts is stored, and otherwise nothing is. -/
theorem setIp_address {address : Address} {ip : Chars} {n : Int32} {c : Char} :
    (address.setIp ip n c).2 =
      if (address.setIp ip n c).1 then { address with ip := ip } else address := by
  unfold setIp
  split
  · rfl
  · split
    · rfl
    · split <;> rfl

/-- A constructed address is the empty one or has a port that fits and a text which was accepted. -/
theorem ofIp_cases (ip : Chars) (port oldPort n : Int32) (c : Char) :
    ofIp ip port oldPort n c = new ∨
      ofIp ip port oldPort n c = ⟨ip, port⟩ ∧ (ip = localhost ∨ Loose 4 ip) ∧
        0 ≤ port ∧ port ≤ 65535 := by
  have stored := @setIp_address ⟨[], oldPort⟩ ip n c
  have accepts := @setIp_accepts_iff ⟨[], oldPort⟩ ip n c
  unfold ofIp
  cases returned : (Address.mk [] oldPort).setIp ip n c with
  | mk accepted address =>
      rw [returned] at stored accepts
      by_cases valid : accepted = true
      · obtain rfl : address = ⟨ip, oldPort⟩ := by simpa [valid] using stored
        by_cases fits : port < 0 ∨ 65535 < port
        · exact .inl (by simp [setPort, valid, fits])
        · refine .inr ⟨by simp [setPort, valid, fits], accepts.mp valid, ?_⟩
          rw [not_or, Int32.not_lt, Int32.not_lt] at fits
          exact fits
      · exact .inl (by simp [valid])

/-- `setIp` returns true for what is an address and stores it, and does neither for another text. -/
def SetIpExact (address : Address) (ip : Chars) (n : Int32) (c : Char) : Prop :=
  ((address.setIp ip n c).1 = true ↔ ValidIp ip) ∧
    (address.setIp ip n c).2 =
      if (address.setIp ip n c).1 then { address with ip := ip } else address

end Address

/-! ### What is between the two -/

/-- An octet is the text of a numeral from 0 to 255. -/
theorem IsOctet.exists_numeral {text : Chars} (octet : IsOctet text) :
    ∃ numeral : Numeral, numeral.text = text ∧ 0 ≤ numeral.value ∧ numeral.value ≤ 255 := by
  obtain ⟨notEmpty, areDigits, small⟩ := octet
  refine ⟨⟨[], none, text, by simp, areDigits, notEmpty⟩, by simp [Numeral.text, signText], ?_, ?_⟩
  · simp [Numeral.value]
  · simpa [Numeral.value, Numeral.magnitude] using Int.ofNat_le.mpr small

/-- An address is loosely one. -/
theorem Dotted.loose {text : Chars} (dotted : Dotted text) : Loose 4 text := by
  obtain ⟨first, second, third, fourth, one, two, three, four, rfl⟩ := dotted
  obtain ⟨first, rfl, small⟩ := one.exists_numeral
  obtain ⟨second, rfl, smallSecond⟩ := two.exists_numeral
  obtain ⟨third, rfl, smallThird⟩ := three.exists_numeral
  obtain ⟨fourth, rfl, smallFourth⟩ := four.exists_numeral
  have noBlanks : ∀ char ∈ ([] : Chars), isSpace char = true := by simp
  have last : Loose 1 (fourth.text ++ []) := .last fourth smallFourth (by simp [NoDigitAhead])
  simpa [List.intercalate_cons_cons] using Loose.dot first small noBlanks
    (.dot second smallSecond noBlanks (.dot third smallThird noBlanks last))

/-- An address is made of digits and dots. -/
theorem Dotted.digits_or_dots {text : Chars} (dotted : Dotted text) :
    ∀ char ∈ text, char.isDigit = true ∨ char = '.' := by
  obtain ⟨first, second, third, fourth, one, two, three, four, rfl⟩ := dotted
  intro char member
  simp only [List.intercalate_cons_cons, List.intercalate_singleton, List.mem_append,
    List.mem_singleton] at member
  rcases member with (here | dot) | (here | dot) | (here | dot) | here
  · exact .inl (one.2.1 char here)
  · exact .inr dot
  · exact .inl (two.2.1 char here)
  · exact .inr dot
  · exact .inl (three.2.1 char here)
  · exact .inr dot
  · exact .inl (four.2.1 char here)

/-- `localhost` is not loosely an address. -/
theorem not_loose_localhost : ¬ Loose 4 localhost := by
  rw [← @Address.readOctets_iff 3 0 'c']
  decide

/-- `setIp` accepts and stores exactly the addresses, except that it takes those which are padded
for addresses too. -/
theorem set_ip_exact_iff (address : Address) (ip : Chars) (n : Int32) (c : Char) :
    address.SetIpExact ip n c ↔ ¬ Padded ip := by
  constructor
  · rintro ⟨exact, _⟩ ⟨loose, notDotted⟩
    rcases exact.mp (Address.setIp_accepts_iff.mpr (.inr loose)) with rfl | dotted
    · exact not_loose_localhost loose
    · exact notDotted dotted
  · intro unpadded
    refine ⟨Address.setIp_accepts_iff.trans ⟨?_, ?_⟩, Address.setIp_address⟩
    · rintro (same | loose)
      · exact .inl same
      · exact .inr (not_not.mp fun notDotted => unpadded ⟨loose, notDotted⟩)
    · rintro (same | dotted)
      · exact .inl same
      · exact .inr dotted.loose

/-- A text with a letter behind the fourth number is stored as an address. -/
theorem tail_accepted :
    ¬ ∀ (address : Address) (ip : Chars) (n : Int32) (c : Char), address.SetIpExact ip n c := by
  intro claimed
  have accepted : (Address.new.setIp "1.2.3.4x".toList 0 'c').1 = true := by decide
  rcases (claimed .new "1.2.3.4x".toList 0 'c').1.mp accepted with same | dotted
  · exact absurd same (by decide)
  · have tail := dotted.digits_or_dots 'x' (by decide)
    revert tail
    decide

end EasyCab
