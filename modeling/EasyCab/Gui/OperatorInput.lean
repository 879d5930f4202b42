import EasyCab.Common.Protocols
import EasyCab.Gui.EcCentralGui
import EasyCab.Library.Machine

/-!
# What the operator has entered

Between two keys the menus are drawn, which sets the options of the selected action. Each field is
a run of digits and then underscores, and an option is hovered whenever there are options. A digit
which is entered into the full coordinate is written past its end.
-/

namespace EasyCab

open Library

/-! ### Fields -/

/-- Digits, and underscores up to a width. -/
def Filled (width : Nat) (str : Chars) : Prop :=
  ∃ digits : Chars, (∀ digit ∈ digits, digit.isDigit = true) ∧ digits.length ≤ width ∧
    str = digits ++ List.replicate (width - digits.length) '_'

namespace Filled

variable {width : Nat} {str : Chars}

theorem length_eq (filled : Filled width str) : str.length = width := by
  obtain ⟨digits, -, fits, rfl⟩ := filled
  rw [List.length_append, List.length_replicate]
  omega

/-- A string of underscores is filled with nothing. -/
theorem empty (width : Nat) : Filled width (List.replicate width '_') :=
  ⟨[], by simp, Nat.zero_le width, rfl⟩

/-- The first underscore comes after the digits. -/
theorem idxOf_underscore {digits : Chars} {left : Nat}
    (all : ∀ digit ∈ digits, digit.isDigit = true) :
    (digits ++ List.replicate left '_').idxOf '_' = digits.length := by
  have none : '_' ∉ digits := by
    intro member
    have := all '_' member
    simp at this
  rw [List.idxOf_append_of_notMem none]
  cases left with
  | zero => rfl
  | succ left => rw [List.replicate_succ, List.idxOf_cons_self, Nat.add_zero]

/-- A digit in the place of the first underscore is another one of the run. -/
theorem set_digit (filled : Filled width str) {digit : Char} (isDigit : digit.isDigit = true) :
    Filled width (str.set (str.idxOf '_') digit) := by
  obtain ⟨digits, all, fits, rfl⟩ := filled
  rw [idxOf_underscore all, List.set_append_right _ _ (Nat.le_refl _), Nat.sub_self]
  cases room : width - digits.length with
  | zero => exact ⟨digits, all, fits, by simp [room]⟩
  | succ left =>
      refine ⟨digits ++ [digit], ?_, ?_, ?_⟩
      · intro other member
        rcases List.mem_append.mp member with old | new
        · exact all other old
        · rw [List.mem_singleton.mp new]
          exact isDigit
      · rw [List.length_append, List.length_singleton]
        omega
      · have rest : width - (digits ++ [digit]).length = left := by
          rw [List.length_append, List.length_singleton]
          omega
        rw [rest, List.replicate_succ, List.set_cons_zero, List.append_assoc]
        rfl

/-- `erase` writes to the character before the first underscore, if there is one. -/
theorem erase_fst (positive : 0 < str.length) :
    (Gui.erase str).1 = if str.idxOf '_' = 0 then str else str.set (str.idxOf '_' - 1) '_' := by
  unfold Gui.erase
  by_cases start : str.idxOf '_' = 0
  · have inside : str.idxOf '_' ≠ str.length := by omega
    simp [start, Nat.ne_of_lt positive]
  · by_cases full : str.idxOf '_' = str.length
    · simp [full, Nat.ne_of_gt positive]
    · simp [start, full]

theorem erase_inside (positive : 0 < str.length) : ∀ index ∈ (Gui.erase str).2, index < str.length := by
  have least := List.idxOf_le_length (a := '_') (l := str)
  intro index written
  have places : index = str.length - 1 ∨ (index = str.idxOf '_' - 1 ∧ str.idxOf '_' ≠ 0) := by
    simp only [Gui.erase] at written
    split at written <;> split at written <;> simp_all
  omega

/-- `erase` keeps a filled string filled: the last digit becomes an underscore. -/
theorem erase (filled : Filled width str) (positive : 0 < width) : Filled width (Gui.erase str).1 := by
  rw [erase_fst (filled.length_eq ▸ positive)]
  split
  · exact filled
  · next later =>
    obtain ⟨digits, all, fits, rfl⟩ := filled
    rw [idxOf_underscore all] at later ⊢
    rcases List.eq_nil_or_concat digits with rfl | ⟨init, last, rfl⟩
    · cases later rfl
    · rw [List.concat_eq_append, List.length_append, List.length_singleton] at fits
      refine ⟨init, fun digit member => all digit (by simp [member]), by omega, ?_⟩
      have rest : width - init.length = width - (init ++ [last]).length + 1 := by
        rw [List.length_append, List.length_singleton]
        omega
      rw [rest, List.concat_eq_append, List.length_append, List.length_singleton,
        Nat.add_sub_cancel, List.append_assoc, List.set_append_right _ _ (Nat.le_refl _),
        Nat.sub_self, List.replicate_succ]
      rfl

end Filled

/-! ### What holds between two keys -/

namespace Gui

/-- The number of options of the action which is hovered. -/
def optionCount (gui : Gui) : Nat :=
  if gui.menuActions.hovered = guiAction "Go to".toList then 3 else 2

/-- The fields are filled, and no option is hovered that the selected action does not have. When
the menus are drawn, its options are those of the menu. -/
structure Inv (gui : Gui) (drawn : Bool) : Prop where
  taxi : Filled 2 gui.argTaxi
  coord : Filled 4 gui.argCoord
  idle : gui.menuActions.selected = false → gui.menuOptions.hovered = 0
  chosen : gui.menuActions.selected = true → gui.menuOptions.hovered < gui.optionCount
  shown : drawn = true → gui.menuActions.selected = true →
    gui.menuOptions.options.length = gui.optionCount
  valid : gui.menuOptions.options ≠ [] → gui.menuOptions.hovered < gui.menuOptions.options.length

variable {gui other : Gui} {drawn : Bool}

theorem optionCount_pos : 0 < gui.optionCount := by
  unfold optionCount
  split <;> decide

theorem optionsOf_length : gui.optionsOf.length = gui.optionCount := by
  unfold optionsOf optionCount
  split <;> rfl

theorem initGlobals_inv : initGlobals.Inv false where
  taxi := Filled.empty 2
  coord := Filled.empty 4
  idle := fun _ => rfl
  chosen := fun selected => by cases selected
  shown := fun drawn => by cases drawn
  valid := fun some => absurd rfl some

/-- What leaves the menus and the fields alone keeps the invariant. -/
theorem Inv.of_same (holds : gui.Inv drawn) (actions : other.menuActions = gui.menuActions)
    (options : other.menuOptions = gui.menuOptions) (taxi : other.argTaxi = gui.argTaxi)
    (coord : other.argCoord = gui.argCoord) : other.Inv drawn := by
  have count : other.optionCount = gui.optionCount := by rw [optionCount, optionCount, actions]
  constructor
  · rw [taxi]
    exact holds.taxi
  · rw [coord]
    exact holds.coord
  · rw [actions, options]
    exact holds.idle
  · rw [actions, options, count]
    exact holds.chosen
  · rw [actions, options, count]
    exact holds.shown
  · rw [options]
    exact holds.valid

theorem Inv.undrawn (holds : gui.Inv drawn) : gui.Inv false :=
  { holds with shown := fun drawn => by cases drawn }

theorem Inv.listenKafka (holds : gui.Inv drawn) (listened : Listened) :
    (gui.listenKafka listened).Inv drawn := by
  unfold Gui.listenKafka
  split
  · exact holds
  · cases listened with
    | error error fits timestamp => exact holds.of_same rfl rfl rfl rfl
    | nothing => exact holds
    | log log =>
        dsimp only
        split
        · exact holds
        · split <;> exact holds.of_same rfl rfl rfl rfl

theorem Inv.labelFreeze (holds : gui.Inv drawn) : gui.labelFreeze.Inv drawn :=
  ⟨holds.taxi, holds.coord, holds.idle, holds.chosen, holds.shown, holds.valid⟩

/-- Drawing the menus sets the options of a selected action. -/
theorem Inv.printMenu (holds : gui.Inv drawn) : gui.printMenu.Inv true := by
  have labelled := holds.labelFreeze
  have size := @optionsOf_length gui.labelFreeze
  simp only [Gui.printMenu]
  split
  · next selected =>
    refine ⟨labelled.taxi, labelled.coord, labelled.idle, labelled.chosen, fun _ _ => size,
      fun _ => ?_⟩
    exact (labelled.chosen selected).trans_eq size.symm
  · next unselected =>
    exact { labelled with shown := fun _ selected => absurd selected unselected }

/-! ### Keys -/

/-- The width of a field. -/
def width : InputField → Nat
  | .taxi => 2
  | .coord => 4

theorem width_pos (field : InputField) : 0 < width field := by
  cases field <;> decide

theorem Inv.text (holds : gui.Inv drawn) (field : InputField) :
    Filled (width field) (gui.text field) := by
  cases field with
  | taxi => exact holds.taxi
  | coord => exact holds.coord

theorem Inv.setText (holds : gui.Inv drawn) {field : InputField} {text : Chars}
    (filled : Filled (width field) text) : (gui.setText field text).Inv drawn := by
  cases field with
  | taxi => exact { holds with taxi := filled }
  | coord => exact { holds with coord := filled }

/-- An edit which keeps its field filled keeps the invariant. -/
theorem Inv.edit (holds : gui.Inv drawn) {change : InputField → Chars → Chars × List Nat}
    (keeps : ∀ field str, Filled (width field) str → Filled (width field) (change field str).1) :
    (gui.edit change).gui.Inv drawn := by
  unfold Gui.edit
  split
  · exact holds
  · next field _ => exact holds.setText (keeps field _ (holds.text field))

/-- While an action is selected, another one of its options is hovered. -/
theorem Inv.hoverOption (holds : gui.Inv true) (selected : gui.menuActions.selected = true)
    {menu : Menu} (options : menu.options = gui.menuOptions.options)
    (valid : menu.hovered < gui.menuOptions.options.length) :
    Inv { gui with menuOptions := menu } false where
  taxi := holds.taxi
  coord := holds.coord
  idle := fun unselected => by
    change gui.menuActions.selected = false at unselected
    rw [selected] at unselected
    cases unselected
  chosen := fun _ => valid.trans_eq (holds.shown rfl selected)
  shown := fun drawn => by cases drawn
  valid := fun _ => by
    rw [options]
    exact valid

/-- While no action is selected, another one is hovered. -/
theorem Inv.hoverAction (holds : gui.Inv drawn) (unselected : gui.menuActions.selected = false)
    {menu : Menu} (still : menu.selected = false) : Inv { gui with menuActions := menu } false where
  taxi := holds.taxi
  coord := holds.coord
  idle := fun _ => holds.idle unselected
  chosen := fun selected => by
    change menu.selected = true at selected
    rw [still] at selected
    cases selected
  shown := fun drawn => by cases drawn
  valid := holds.valid

/-- An action is selected, with the first of its options hovered. -/
theorem Inv.select (holds : gui.Inv drawn) (unselected : gui.menuActions.selected = false) :
    Inv { gui with menuActions := gui.menuActions.select } false where
  taxi := holds.taxi
  coord := holds.coord
  idle := fun _ => holds.idle unselected
  chosen := fun _ => by
    change gui.menuOptions.hovered < _
    rw [holds.idle unselected]
    exact optionCount_pos
  shown := fun drawn => by cases drawn
  valid := holds.valid

/-- Cancelling the selected action keeps the invariant. -/
theorem Inv.cancel (holds : gui.Inv drawn) : gui.cancel.Inv false := by
  unfold Gui.cancel
  split
  · constructor
    · exact Filled.empty 2
    · exact Filled.empty 4
    · exact fun _ => Nat.zero_min _
    · intro selected
      cases selected
    · intro drawn
      cases drawn
    · intro some
      exact Nat.lt_of_le_of_lt (Nat.min_le_left 0 _) (List.length_pos_iff.mpr some)
  · exact holds.undrawn

/-- The character of a digit key is a digit. -/
theorem isDigit_of_key {ch : Int} (digit : isDigitKey ch = true) :
    (Char.ofNat ch.toNat).isDigit = true := by
  have each : ∀ code < 58, 48 ≤ code → (Char.ofNat code).isDigit = true := by decide
  have range : 48 ≤ ch ∧ ch ≤ 57 := of_decide_eq_true digit
  exact each ch.toNat (by omega) (by omega)

theorem enterDigit_filled {ch : Int} (digit : isDigitKey ch = true) (field : InputField) (str : Chars)
    (filled : Filled (width field) str) : Filled (width field) (enterDigit ch field str).1 := by
  simp only [enterDigit]
  split
  · exact filled.set_digit (isDigit_of_key digit)
  · exact filled

/-- A key which is handled after the menus were drawn keeps the invariant. -/
theorem Inv.handleKey (holds : gui.Inv true) (ch : Int) : (gui.handleKey ch).gui.Inv false := by
  have cases := handleKey_cases gui ch
  generalize gui.handleKey ch = handled at cases ⊢
  split at cases
  · rw [cases]
    exact holds.undrawn.of_same rfl rfl rfl rfl
  · cases cases with
    | stays goesOn executed => exact holds.undrawn.of_same rfl rfl rfl rfl
    | views => exact holds.undrawn.of_same rfl rfl rfl rfl
    | freezes => exact holds.undrawn.of_same rfl rfl rfl rfl
    | selects unselected => exact holds.select unselected
    | hoversAction unselected hovers =>
        apply holds.hoverAction unselected
        rcases hovers with rfl | rfl <;> rfl
    | hoversOption selected hovers =>
        have valid : gui.menuOptions.hovered < gui.menuOptions.options.length :=
          (holds.chosen selected).trans_eq (holds.shown rfl selected).symm
        rcases hovers with rfl | rfl
        · exact holds.hoverOption selected rfl (Menu.hoverNext_lt valid)
        · exact holds.hoverOption selected rfl (Menu.hoverPrevious_lt valid)
    | cancels executed =>
        have before : Inv { gui with actionExecuted := executed } true :=
          holds.of_same rfl rfl rfl rfl
        exact before.cancel
    | erases => exact holds.undrawn.edit fun field _ filled => filled.erase (width_pos field)
    | enters digit => exact holds.undrawn.edit (enterDigit_filled digit)

/-! ### Writes -/

/-- A digit is entered into the coordinate, which has no place for it. -/
def Overruns (gui : Gui) (ch : Int) : Prop :=
  gui.menuActions.selected = true ∧ isDigitKey ch = true ∧ gui.field? = some .coord ∧
    '_' ∉ gui.argCoord

/-- The writes of an edit fall inside where its places are in the string. -/
theorem edit_inside {change : InputField → Chars → Chars × List Nat} :
    (∀ write ∈ (gui.edit change).writes, write.Inside) ↔
      ∀ field ∈ gui.field?, ∀ index ∈ (change field (gui.text field)).2,
        index < (gui.text field).length := by
  unfold Gui.edit
  cases gui.field? with
  | none => simp
  | some field => simp [FieldWrite.Inside]

/-- A digit has its place in the string, but where the coordinate is full. -/
theorem enterDigit_inside {ch : Int} {field : InputField} {str : Chars} :
    (∀ index ∈ (enterDigit ch field str).2, index < str.length) ↔ (field = .coord → '_' ∈ str) := by
  have least := List.idxOf_le_length (a := '_') (l := str)
  cases field with
  | taxi =>
      refine iff_of_true (fun index written => ?_) (fun same => by cases same)
      by_cases full : str.idxOf '_' = str.length
      · simp [enterDigit, notTaxiEnd, full] at written
      · have place : index = str.idxOf '_' := by simpa [enterDigit, notTaxiEnd, full] using written
        omega
  | coord => simp [enterDigit, notTaxiEnd, List.idxOf_lt_length_iff]

/-- No digit is one of the labels. -/
theorem keyOf_of_digit {ch : Int} (digit : isDigitKey ch = true) : keyOf ch = .other := by
  have range : 48 ≤ ch ∧ ch ≤ 57 := of_decide_eq_true digit
  have other (chars : List Char) (apart : ∀ char ∈ chars, char.toNat < 48 ∨ 57 < char.toNat) :
      ¬ isOneOf ch chars = true := by
    intro one
    obtain ⟨char, member, same⟩ := List.mem_map.mp (of_decide_eq_true one)
    have := apart char member
    omega
  have notDown : ¬ (ch = 258 ∨ isOneOf ch ['s', 'S'] = true) := by
    rintro (same | one)
    · omega
    · exact other _ (by decide) one
  have notUp : ¬ (ch = 259 ∨ isOneOf ch ['w', 'W'] = true) := by
    rintro (same | one)
    · omega
    · exact other _ (by decide) one
  rw [keyOf, if_neg (other _ (by decide)), if_neg notDown, if_neg notUp,
    if_neg (other _ (by decide)), if_neg (other _ (by decide)), if_neg (other _ (by decide)),
    if_neg (by omega)]

/-- All writes of a key fall inside, unless it overruns the coordinate. -/
theorem writes_inside_iff (holds : gui.Inv drawn) (ch : Int) :
    (∀ write ∈ (gui.handleKey ch).writes, write.Inside) ↔ ¬ gui.Overruns ch := by
  by_cases digit : isDigitKey ch = true
  · simp only [Gui.handleKey, keyOf_of_digit digit, Overruns, digit]
    by_cases selected : gui.menuActions.selected = true
    · simp only [selected, and_self, if_true, true_and]
      rw [edit_inside]
      simp only [enterDigit_inside]
      constructor
      · rintro inside ⟨coord, full⟩
        exact full (inside .coord coord rfl)
      · rintro room field hovered rfl
        by_contra full
        exact room ⟨hovered, full⟩
    · simp [selected]
  · have fits : ¬ gui.Overruns ch := fun overruns => digit overruns.2.1
    refine iff_of_true ?_ fits
    have cases := handleKey_cases gui ch
    generalize gui.handleKey ch = handled at cases ⊢
    split at cases
    · simp [cases]
    · cases cases with
      | erases =>
          rw [edit_inside]
          intro field _
          apply Filled.erase_inside
          rw [(holds.text field).length_eq]
          exact width_pos field
      | enters entered => exact absurd entered digit
      | _ => simp

/-! ### The options of the menu -/

theorem edit_options {change : InputField → Chars → Chars × List Nat} :
    (gui.edit change).gui.menuOptions = gui.menuOptions := by
  unfold Gui.edit
  split
  · rfl
  · next field _ => cases field <;> rfl

theorem cancel_options : gui.cancel.menuOptions.options = gui.menuOptions.options := by
  unfold Gui.cancel
  split <;> rfl

/-- No key changes the options of the menu. -/
theorem handleKey_options (ch : Int) :
    (gui.handleKey ch).gui.menuOptions.options = gui.menuOptions.options := by
  have cases := handleKey_cases gui ch
  generalize gui.handleKey ch = handled at cases ⊢
  split at cases
  · rw [cases]
  · cases cases with
    | hoversOption selected hovers => rcases hovers with rfl | rfl <;> rfl
    | cancels executed => exact cancel_options
    | erases => rw [edit_options]
    | enters digit => rw [edit_options]
    | _ => rfl

theorem listenKafka_options (listened : Listened) :
    (gui.listenKafka listened).menuOptions = gui.menuOptions := by
  unfold Gui.listenKafka
  split
  · rfl
  · cases listened with
    | error error fits timestamp => rfl
    | nothing => rfl
    | log log =>
        dsimp only
        split
        · rfl
        · split <;> rfl

/-- The menu has options when it had some or an action is selected. -/
theorem printMenu_options : gui.printMenu.menuOptions.options ≠ [] ↔
    gui.menuOptions.options ≠ [] ∨ gui.menuActions.selected = true := by
  simp only [Gui.printMenu]
  split
  · next selected =>
    refine iff_of_true ?_ (.inr selected)
    apply List.ne_nil_of_length_pos
    exact optionCount_pos.trans_eq optionsOf_length.symm
  · next unselected => exact (or_iff_left unselected).symm

end Gui

/-! ### Runs -/

/-- The GUI while it runs, and the writes of its last step. -/
structure OperatorSession where
  gui : Gui
  drawn : Bool
  goesOn : Bool
  writes : List FieldWrite

namespace OperatorSession

/-- What can happen next. -/
inductive Event where
  | listen (listened : Gui.Listened)
  | print
  | key (ch : Int)

/-- The GUI goes on while its operator has not left it and no write fell outside. -/
def Running (session : OperatorSession) : Prop :=
  session.goesOn = true ∧ ∀ write ∈ session.writes, write.Inside

instance (session : OperatorSession) : Decidable session.Running := instDecidableAnd

/-- One step of the loop of `main`. The menus are drawn before each key. -/
def step (session : OperatorSession) (event : Event) : Option OperatorSession :=
  if session.Running then
    match event with
    | .listen listened => some { session with gui := session.gui.listenKafka listened, writes := [] }
    | .print => some { session with gui := session.gui.printMenu, drawn := true, writes := [] }
    | .key ch =>
        if session.drawn then
          let handled := session.gui.handleUserInput ch
          some ⟨handled.gui, false, handled.goesOn, handled.writes⟩
        else none
  else none

/-- The GUI as a machine. -/
def machine : Machine OperatorSession Event := ⟨step⟩

/-- The GUI before its first step. -/
def start : OperatorSession := ⟨.initGlobals, false, true, []⟩

/-- The input of the operator is well formed. -/
structure WellFormed (session : OperatorSession) : Prop where
  inside : ∀ write ∈ session.writes, write.Inside
  taxi : Filled 2 session.gui.argTaxi
  coord : Filled 4 session.gui.argCoord
  hovered : session.gui.menuOptions.hovered < session.gui.menuOptions.options.length

/-- The next event enters a digit into the full coordinate. -/
def Overruns (session : OperatorSession) : Event → Prop
  | .key ch => session.gui.Overruns ch
  | _ => False

/-- The menu has options already, or the next event draws those of the selected action. -/
def HasOptions (session : OperatorSession) (event : Event) : Prop :=
  session.gui.menuOptions.options ≠ [] ∨
    event = .print ∧ session.gui.menuActions.selected = true

/-- The invariant of the GUI, for the menus which are drawn. -/
def Inv (session : OperatorSession) : Prop := session.gui.Inv session.drawn

variable {session later : OperatorSession} {event : Event}

/-- What a step leaves of the input, clause by clause. -/
structure Exact (session : OperatorSession) (event : Event) (later : OperatorSession) : Prop where
  inv : later.Inv
  inside : (∀ write ∈ later.writes, write.Inside) ↔ ¬ session.Overruns event
  options : later.gui.menuOptions.options ≠ [] ↔ session.HasOptions event

theorem step_exact (holds : session.Inv) (stepped : session.step event = some later) :
    Exact session event later := by
  unfold step at stepped
  split at stepped
  · cases event with
    | listen listened =>
        cases stepped
        refine ⟨holds.listenKafka listened, ?_, ?_⟩
        · simp [Overruns]
        · simp [HasOptions, Gui.listenKafka_options]
    | print =>
        cases stepped
        refine ⟨holds.printMenu, ?_, ?_⟩
        · simp [Overruns]
        · simp only [HasOptions, true_and]
          exact Gui.printMenu_options
    | key ch =>
        simp only [Option.ite_none_right_eq_some, Option.some.injEq] at stepped
        obtain ⟨drawn, rfl⟩ := stepped
        have inv : session.gui.Inv session.drawn := holds
        rw [drawn] at inv
        have before : Gui.Inv { session.gui with actionExecuted := false } true :=
          inv.of_same rfl rfl rfl rfl
        refine ⟨before.handleKey ch, Gui.writes_inside_iff before ch, ?_⟩
        rw [Gui.handleUserInput, Gui.handleKey_options]
        simp [HasOptions]
  · cases stepped

/-- The input is well formed exactly if the last step did not overrun the coordinate and there are
options. -/
theorem Exact.wellFormed_iff (exactly : Exact session event later) :
    later.WellFormed ↔ ¬ session.Overruns event ∧ session.HasOptions event := by
  constructor
  · intro formed
    have some : later.gui.menuOptions.options ≠ [] :=
      List.ne_nil_of_length_pos (Nat.lt_of_le_of_lt (Nat.zero_le _) formed.hovered)
    exact ⟨exactly.inside.mp formed.inside, exactly.options.mp some⟩
  · rintro ⟨fits, some⟩
    exact ⟨exactly.inside.mpr fits, exactly.inv.taxi, exactly.inv.coord,
      exactly.inv.valid (exactly.options.mpr some)⟩

end OperatorSession

/-- Whatever the operator does, after each step the fields are filled and all writes fell inside
and an option is hovered, exactly if that step entered no digit into the full coordinate and the
menu has options. A run ends with a write which falls outside. -/
theorem operator_input_iff (events : List OperatorSession.Event) :
    ∀ taken ∈ OperatorSession.machine.run .start events,
      taken.after.WellFormed ↔
        ¬ taken.before.Overruns taken.event ∧ taken.before.HasOptions taken.event := by
  intro taken member
  have initial : OperatorSession.start.Inv := Gui.initGlobals_inv
  have holds := (Machine.run_always OperatorSession.Inv
    (fun taken stepped holds => (OperatorSession.step_exact holds stepped).inv)
    initial taken member).1
  exact (OperatorSession.step_exact holds (Machine.run_step member)).wellFormed_iff

/-- The operator selects the first action, goes to the coordinate and enters these digits. -/
def enterCoord (digits : List Int) : List OperatorSession.Event :=
  [.print, .key 10, .print, .key 258, .print] ++ digits.flatMap fun digit => [.key digit, .print]

/-- The first digit of a coordinate has its place. -/
theorem first_digit_inside :
    ∃ taken ∈ OperatorSession.machine.run .start (enterCoord [48]),
      taken.event = .key 48 ∧ taken.after.WellFormed := by
  refine ⟨_, List.mem_of_getElem? (rfl :
    (OperatorSession.machine.run .start (enterCoord [48]))[5]? = some _), rfl, ?_⟩
  refine (operator_input_iff (enterCoord [48]) _ (List.mem_of_getElem? (rfl :
    (OperatorSession.machine.run .start (enterCoord [48]))[5]? = some _))).mpr ⟨?_, .inl ?_⟩
  · exact fun overruns => overruns.2.2.2 (by decide)
  · decide

/-- The fifth digit of a coordinate falls outside. -/
theorem fifth_digit_outside :
    ¬ ∀ taken ∈ OperatorSession.machine.run .start (enterCoord [48, 49, 48, 50, 51]),
      ∀ write ∈ taken.after.writes, write.Inside := by
  decide +kernel

end EasyCab
