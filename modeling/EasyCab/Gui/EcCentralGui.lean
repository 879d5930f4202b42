import EasyCab.Common.LogCodec
import EasyCab.Library.Recent
import EasyCab.Ncurses.Menu

/-!
# The GUI of Central

What `EC_Central_GUI` does with the logs it listens to and with the keys of its operator. A write
through an iterator is recorded with the length of the string it goes to, so it can be told whether
it falls inside. What is drawn is left out, but for the options which `printMenu` sets.
-/

namespace EasyCab

open Library

/-- `HEIGHT`. -/
def guiHeight : Nat := 20

/-- The strings which the operator edits. -/
inductive InputField where
  | taxi
  | coord
deriving DecidableEq

/-- A write through an iterator, by the length of the string and the place in it. -/
structure FieldWrite where
  size : Nat
  index : Nat
deriving DecidableEq

/-- A write goes to a character of the string. -/
def FieldWrite.Inside (write : FieldWrite) : Prop := write.index < write.size

instance (write : FieldWrite) : Decidable write.Inside := Nat.decLt _ _

/-- The state of the GUI. -/
structure Gui where
  menuViews : Menu
  menuActions : Menu
  menuOptions : Menu
  lstTopLogs : List Log
  lstBottomLogs : List Log
  argTaxi : Chars
  argCoord : Chars
  actionExecuted : Bool
  frozen : Bool

/-- `actions`. -/
def guiActions : List (Chars × Nat) :=
  [("Go to".toList, 0), ("Return to base".toList, 1), ("Stop".toList, 2), ("Continue".toList, 3),
    ("Terminate central".toList, 4), (Menu.gap, 5), ("Freeze".toList, 6), ("Clear".toList, 7),
    ("Close GUI".toList, 8)]

/-- `actions[name]`, which is zero for a name that is none. -/
def guiAction (name : Chars) : Nat := (guiActions.lookup name).getD 0

namespace Gui

/-- The state before the first `printMenu`. -/
def initGlobals : Gui where
  menuViews := .new ["Logs".toList, "Table".toList]
  menuActions := guiActions.foldl (fun menu action => menu.setOption action.2 action.1)
    (.new (List.replicate guiActions.length Menu.gap))
  menuOptions := .new []
  lstTopLogs := []
  lstBottomLogs := []
  argTaxi := "__".toList
  argCoord := "____".toList
  actionExecuted := false
  frozen := false

/-! ### Logs -/

/-- "Can't listen for logs: ". -/
def errorPrefix : List UInt8 :=
  "Can't listen for logs: ".toList.map fun char => UInt8.ofNat char.toNat

/-- What `consume` answers: a log, no message or the end of a partition, or an error, which
becomes the text of a log at some time. -/
inductive Listened where
  | log (log : Log)
  | nothing
  | error (error : List UInt8) (fits : (errorPrefix ++ error).length < textLimit) (timestamp : Text)

/-- The log of an error. -/
def errorLog (error : List UInt8) (fits : (errorPrefix ++ error).length < textLimit)
    (timestamp : Text) : Log where
  printBottom := false
  timestamp := timestamp
  code := .error .undefined
  message := ⟨errorPrefix ++ error, fits⟩

/-- `lst.push_back(log)`, and `pop_front` if the list is longer than `HEIGHT`. -/
def pushLog (lst : List Log) (log : Log) : List Log :=
  if (Int32.ofNat (lst ++ [log]).length).toInt > guiHeight then (lst ++ [log]).tail else lst ++ [log]

/-- `listenKafka`. -/
def listenKafka (gui : Gui) (listened : Listened) : Gui :=
  if gui.frozen then gui
  else
    match listened with
    | .error error fits timestamp =>
        { gui with lstTopLogs := gui.lstTopLogs ++ [errorLog error fits timestamp] }
    | .nothing => gui
    | .log log =>
        if log.message.1.isEmpty then gui
        else if log.printBottom then { gui with lstBottomLogs := pushLog gui.lstBottomLogs log }
        else { gui with lstTopLogs := pushLog gui.lstTopLogs log }

/-! ### Menus -/

/-- The options of a selected action. -/
def optionsOf (gui : Gui) : List Chars :=
  let taxiOpt := "Taxi: ".toList ++ gui.argTaxi
  let coordOpt := "Coordinate: [".toList ++ gui.argCoord.take 2 ++ ", ".toList ++
    gui.argCoord.drop 2 ++ "]".toList
  if gui.menuActions.hovered = guiAction "Go to".toList then [taxiOpt, coordOpt, "Execute".toList]
  else [taxiOpt, "Execute".toList]

/-- `printMenu` up to the first menus: the option which freezes the logs says what it does. -/
def labelFreeze (gui : Gui) : Gui :=
  { gui with
    menuActions := gui.menuActions.setOption (guiAction "Freeze".toList)
      (if gui.frozen then "Unfreeze".toList else "Freeze".toList) }

/-- `printMenu`. -/
def printMenu (gui : Gui) : Gui :=
  let gui := gui.labelFreeze
  if gui.menuActions.selected then { gui with menuOptions := gui.menuOptions.setOptions gui.optionsOf }
  else gui

/-! ### Keys -/

/-- What a key is for. -/
inductive Key where
  | quit
  | next
  | previous
  | view
  | enter
  | cancel
  | erase
  | other
deriving DecidableEq

/-- The key is one of these characters. -/
def isOneOf (ch : Int) (chars : List Char) : Bool := ch ∈ chars.map fun char => (char.toNat : Int)

/-- The labels of the `switch`; `KEY_DOWN`, `KEY_UP` and `KEY_BACKSPACE` are those of ncurses. -/
def keyOf (ch : Int) : Key :=
  if isOneOf ch ['q', 'Q'] then .quit
  else if ch = 258 ∨ isOneOf ch ['s', 'S'] then .next
  else if ch = 259 ∨ isOneOf ch ['w', 'W'] then .previous
  else if isOneOf ch ['\t'] then .view
  else if isOneOf ch ['\n', ' '] then .enter
  else if isOneOf ch ['b'] then .cancel
  else if ch = 263 then .erase
  else .other

/-- What `handleUserInput` returns, the GUI afterwards and the writes through iterators. -/
structure Handled where
  goesOn : Bool
  gui : Gui
  writes : List FieldWrite

/-- The string which is hovered. -/
def field? (gui : Gui) : Option InputField :=
  if gui.menuOptions.hovered = 0 then some .taxi
  else if gui.menuOptions.hovered = 1 ∧ gui.menuActions.hovered = guiAction "Go to".toList then
    some .coord
  else none

/-- The text of a field. -/
def text (gui : Gui) : InputField → Chars
  | .taxi => gui.argTaxi
  | .coord => gui.argCoord

/-- The GUI with another text of a field. -/
def setText (gui : Gui) (field : InputField) (text : Chars) : Gui :=
  match field with
  | .taxi => { gui with argTaxi := text }
  | .coord => { gui with argCoord := text }

/-- The last character which is no underscore becomes one. -/
def erase (str : Chars) : Chars × List Nat :=
  let it := str.idxOf '_'
  let back := if it = str.length then (str.set (str.length - 1) '_', [str.length - 1]) else (str, [])
  if it ≠ 0 then (back.1.set (it - 1) '_', back.2 ++ [it - 1]) else back

/-- `it != arg_taxi.end()`. An iterator of another string is always another one. -/
def notTaxiEnd (field : InputField) (str : Chars) (it : Nat) : Bool :=
  match field with
  | .taxi => it ≠ str.length
  | .coord => true

/-- The first underscore becomes a digit. -/
def enterDigit (ch : Int) (field : InputField) (str : Chars) : Chars × List Nat :=
  let it := str.idxOf '_'
  if notTaxiEnd field str it then (str.set it (Char.ofNat ch.toNat), [it]) else (str, [])

/-- Edit the string which is hovered, if there is one. -/
def edit (gui : Gui) (change : InputField → Chars → Chars × List Nat) : Handled :=
  match gui.field? with
  | none => ⟨true, gui, []⟩
  | some field =>
      let str := gui.text field
      let changed := change field str
      ⟨true, gui.setText field changed.1, changed.2.map fun index => ⟨str.length, index⟩⟩

/-- The `case` of `b`. -/
def cancel (gui : Gui) : Gui :=
  if gui.menuActions.selected then
    { gui with
      menuActions := gui.menuActions.deselect
      menuOptions := gui.menuOptions.hover 0
      argTaxi := "__".toList
      argCoord := "____".toList }
  else gui

/-- The `case` of the return key. -/
def enter (gui : Gui) : Handled :=
  if ¬ gui.menuActions.selected then
    let hovered := gui.menuActions.hovered
    if hovered = guiAction "Close GUI".toList then ⟨false, gui, []⟩
    else if hovered = guiAction "Terminate central".toList then
      ⟨true, { gui with actionExecuted := true }, []⟩
    else if hovered = guiAction "Freeze".toList then
      ⟨true, { gui with frozen := !gui.frozen }, []⟩
    else if hovered = guiAction "Clear".toList then
      ⟨true, { gui with lstTopLogs := [], lstBottomLogs := [] }, []⟩
    else ⟨true, { gui with menuActions := gui.menuActions.select }, []⟩
  else if gui.menuOptions.hovered ≠
      (gui.menuOptions.options.length + 18446744073709551615) % 18446744073709551616 then
    ⟨true, gui, []⟩
  else ⟨true, { gui with actionExecuted := true }.cancel, []⟩

/-- `ch >= '0' && ch <= '9'`. -/
def isDigitKey (ch : Int) : Bool := ('0'.toNat : Int) ≤ ch ∧ ch ≤ ('9'.toNat : Int)

/-- The `switch` of `handleUserInput`. -/
def handleKey (gui : Gui) (ch : Int) : Handled :=
  match keyOf ch with
  | .quit => ⟨false, gui, []⟩
  | .next =>
      if gui.menuActions.selected then ⟨true, { gui with menuOptions := gui.menuOptions.hoverNext }, []⟩
      else ⟨true, { gui with menuActions := gui.menuActions.hoverNext }, []⟩
  | .previous =>
      if gui.menuActions.selected then
        ⟨true, { gui with menuOptions := gui.menuOptions.hoverPrevious }, []⟩
      else ⟨true, { gui with menuActions := gui.menuActions.hoverPrevious }, []⟩
  | .view => ⟨true, { gui with menuViews := gui.menuViews.hoverNext }, []⟩
  | .enter => gui.enter
  | .cancel => ⟨true, gui.cancel, []⟩
  | .erase => if gui.menuActions.selected then gui.edit fun _ => erase else ⟨true, gui, []⟩
  | .other =>
      if gui.menuActions.selected ∧ isDigitKey ch then gui.edit (enterDigit ch) else ⟨true, gui, []⟩

/-- `handleUserInput`. -/
def handleUserInput (gui : Gui) (ch : Int) : Handled :=
  { gui with actionExecuted := false }.handleKey ch

/-! ### What a key can do -/

/-- A key which clears the lists of logs. -/
def clears (gui : Gui) (ch : Int) : Bool :=
  keyOf ch = .enter ∧ gui.menuActions.selected = false ∧
    gui.menuActions.hovered = guiAction "Clear".toList

/-- What a key does which does not clear the lists. -/
inductive KeyStep (gui : Gui) (ch : Int) : Handled → Prop
  | stays (goesOn executed : Bool) :
      KeyStep gui ch ⟨goesOn, { gui with actionExecuted := executed }, []⟩
  | views : KeyStep gui ch ⟨true, { gui with menuViews := gui.menuViews.hoverNext }, []⟩
  | freezes : KeyStep gui ch ⟨true, { gui with frozen := !gui.frozen }, []⟩
  | selects (unselected : gui.menuActions.selected = false) :
      KeyStep gui ch ⟨true, { gui with menuActions := gui.menuActions.select }, []⟩
  | hoversAction (unselected : gui.menuActions.selected = false) {menu : Menu}
      (hovers : menu = gui.menuActions.hoverNext ∨ menu = gui.menuActions.hoverPrevious) :
      KeyStep gui ch ⟨true, { gui with menuActions := menu }, []⟩
  | hoversOption (selected : gui.menuActions.selected = true) {menu : Menu}
      (hovers : menu = gui.menuOptions.hoverNext ∨ menu = gui.menuOptions.hoverPrevious) :
      KeyStep gui ch ⟨true, { gui with menuOptions := menu }, []⟩
  | cancels (executed : Bool) :
      KeyStep gui ch ⟨true, { gui with actionExecuted := executed }.cancel, []⟩
  | erases : KeyStep gui ch (gui.edit fun _ => erase)
  | enters (digit : isDigitKey ch = true) : KeyStep gui ch (gui.edit (enterDigit ch))

/-- The return key clears the lists, or does something else. -/
theorem enter_cases (gui : Gui) (ch : Int) (enters : keyOf ch = .enter) :
    if gui.clears ch then gui.enter = ⟨true, { gui with lstTopLogs := [], lstBottomLogs := [] }, []⟩
    else KeyStep gui ch gui.enter := by
  by_cases unselected : gui.menuActions.selected = false
  · by_cases clear : gui.menuActions.hovered = guiAction "Clear".toList
    · have clears : gui.clears ch = true := by simp [Gui.clears, enters, unselected, clear]
      rw [if_pos clears, Gui.enter, if_pos (by simp [unselected])]
      simp only [clear]
      rfl
    · have clears : ¬ gui.clears ch = true := fun clears => clear (of_decide_eq_true clears).2.2
      rw [if_neg clears, Gui.enter, if_pos (by simp [unselected])]
      simp only [clear, if_false]
      split
      · exact .stays false gui.actionExecuted
      · split
        · exact .stays true true
        · split
          · exact .freezes
          · exact .selects unselected
  · have clears : ¬ gui.clears ch = true := by simp [Gui.clears, unselected]
    rw [if_neg clears, Gui.enter, if_neg (by simpa using unselected)]
    split
    · exact .stays true gui.actionExecuted
    · exact .cancels true

/-- A key clears the lists, or does something else. -/
theorem handleKey_cases (gui : Gui) (ch : Int) :
    if gui.clears ch then
      gui.handleKey ch = ⟨true, { gui with lstTopLogs := [], lstBottomLogs := [] }, []⟩
    else KeyStep gui ch (gui.handleKey ch) := by
  by_cases enters : keyOf ch = .enter
  · simp only [handleKey, enters]
    exact enter_cases gui ch enters
  · have clears : ¬ gui.clears ch = true := by simp [Gui.clears, enters]
    rw [if_neg clears, handleKey]
    cases key : keyOf ch with
    | quit => exact .stays false gui.actionExecuted
    | next =>
        dsimp only
        split
        · next selected => exact .hoversOption selected (.inl rfl)
        · next unselected =>
          exact .hoversAction (Bool.eq_false_of_not_eq_true unselected) (.inl rfl)
    | previous =>
        dsimp only
        split
        · next selected => exact .hoversOption selected (.inr rfl)
        · next unselected =>
          exact .hoversAction (Bool.eq_false_of_not_eq_true unselected) (.inr rfl)
    | view => exact .views
    | enter => exact absurd key enters
    | cancel => exact .cancels gui.actionExecuted
    | erase =>
        dsimp only
        split
        · exact .erases
        · exact .stays true gui.actionExecuted
    | other =>
        dsimp only
        split
        · next digit => exact .enters digit.2
        · exact .stays true gui.actionExecuted

end Gui

end EasyCab
