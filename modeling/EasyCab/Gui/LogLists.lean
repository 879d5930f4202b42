import EasyCab.Gui.EcCentralGui
import EasyCab.Library.Machine

/-!
# The logs which are shown

Each list holds the most recent logs which were appended to it since it was cleared. Only the log
of an error is appended without taking the oldest one out, so an error which comes to the full list
of the top window makes it longer than its window, and no later log makes it shorter again.
-/

namespace EasyCab

open Library

/-- The GUI, and the logs which were appended to each list since both were cleared. -/
structure LogHistory where
  gui : Gui
  top : List Log
  bottom : List Log

namespace Gui

/-- The log which `listenKafka` appends, if there is one. -/
def appended? (gui : Gui) : Listened → Option Log
  | .log log => if gui.frozen ∨ log.message.1.isEmpty then none else some log
  | .nothing => none
  | .error error fits timestamp => if gui.frozen then none else some (errorLog error fits timestamp)

end Gui

namespace LogHistory

/-- What can happen next. The freezing and the clearing of the logs are keys. -/
inductive Event where
  | listen (listened : Gui.Listened)
  | key (ch : Int)
  | print

/-- The logs which were appended, after one more. -/
def append (history : LogHistory) (log : Log) : LogHistory :=
  if log.printBottom then { history with bottom := history.bottom ++ [log] }
  else { history with top := history.top ++ [log] }

/-- The logs which were appended, after one more if there is one. -/
def append? (history : LogHistory) : Option Log → LogHistory
  | none => history
  | some log => history.append log

/-- One step. -/
def step (history : LogHistory) : Event → Option LogHistory
  | .listen listened =>
      some { history.append? (history.gui.appended? listened) with
        gui := history.gui.listenKafka listened }
  | .key ch =>
      let gui := (history.gui.handleUserInput ch).gui
      if history.gui.clears ch then some ⟨gui, [], []⟩ else some { history with gui := gui }
  | .print => some { history with gui := history.gui.printMenu }

/-- The GUI as a machine. -/
def machine : Machine LogHistory Event := ⟨step⟩

/-- The GUI before its first step. -/
def start : LogHistory := ⟨.initGlobals, [], []⟩

/-- The lists are not too long, and hold the most recent logs while they are not frozen. -/
structure Bounded (history : LogHistory) : Prop where
  top : history.gui.lstTopLogs.length ≤ guiHeight
  bottom : history.gui.lstBottomLogs.length ≤ guiHeight
  recent : history.gui.frozen = false →
    history.gui.lstTopLogs = recent guiHeight history.top ∧
      history.gui.lstBottomLogs = recent guiHeight history.bottom

/-- The lists hold the most recent logs. -/
structure Inv (history : LogHistory) : Prop where
  top : history.gui.lstTopLogs = recent guiHeight history.top
  bottom : history.gui.lstBottomLogs = recent guiHeight history.bottom

/-- The next event is an error which comes to a full list. -/
def Overflows (history : LogHistory) : Event → Prop
  | .listen (.error _ _ _) => history.gui.frozen = false ∧ guiHeight ≤ history.gui.lstTopLogs.length
  | _ => False

variable {history later : LogHistory} {event : Event}

theorem Inv.bounded (holds : history.Inv) : history.Bounded where
  top := by
    rw [holds.top]
    exact recent_length_le
  bottom := by
    rw [holds.bottom]
    exact recent_length_le
  recent := fun _ => ⟨holds.top, holds.bottom⟩

/-- A log is pushed to a list which is not too long. -/
theorem pushLog_recent {logs : List Log} (log : Log) :
    Gui.pushLog (recent guiHeight logs) log = recent guiHeight (logs ++ [log]) := by
  have small : (recent guiHeight logs ++ [log]).length < 2 ^ 31 := by
    have most : (recent guiHeight logs).length ≤ 20 := recent_length_le
    rw [List.length_append, List.length_singleton]
    omega
  have size := Int32.toInt_ofNat_of_lt small
  rw [← pushRecent_recent, Gui.pushLog, pushRecent, size]
  simp only [gt_iff_lt, Int.ofNat_lt]

/-! ### Keys -/

/-- The lists are the same in both. -/
def SameLogs (gui other : Gui) : Prop :=
  other.lstTopLogs = gui.lstTopLogs ∧ other.lstBottomLogs = gui.lstBottomLogs

theorem edit_logs {gui : Gui} {change : InputField → Chars → Chars × List Nat} :
    SameLogs gui (gui.edit change).gui := by
  unfold Gui.edit
  split
  · exact ⟨rfl, rfl⟩
  · next field _ => cases field <;> exact ⟨rfl, rfl⟩

theorem cancel_logs {gui : Gui} : SameLogs gui gui.cancel := by
  unfold Gui.cancel
  split <;> exact ⟨rfl, rfl⟩

theorem printMenu_logs {gui : Gui} : SameLogs gui gui.printMenu := by
  simp only [Gui.printMenu]
  split <;> exact ⟨rfl, rfl⟩

/-- A key clears both lists or leaves both alone. -/
theorem handleKey_logs (gui : Gui) (ch : Int) :
    if gui.clears ch then
      (gui.handleKey ch).gui.lstTopLogs = [] ∧ (gui.handleKey ch).gui.lstBottomLogs = []
    else SameLogs gui (gui.handleKey ch).gui := by
  have cases := gui.handleKey_cases ch
  generalize gui.handleKey ch = handled at cases ⊢
  by_cases clears : gui.clears ch = true
  · rw [if_pos clears] at cases ⊢
    rw [cases]
    exact ⟨rfl, rfl⟩
  · rw [if_neg clears] at cases ⊢
    cases cases with
    | cancels executed => exact cancel_logs
    | erases => exact edit_logs
    | enters digit => exact edit_logs
    | _ => exact ⟨rfl, rfl⟩

theorem handleUserInput_logs (gui : Gui) (ch : Int) :
    if gui.clears ch then
      (gui.handleUserInput ch).gui.lstTopLogs = [] ∧ (gui.handleUserInput ch).gui.lstBottomLogs = []
    else SameLogs gui (gui.handleUserInput ch).gui :=
  handleKey_logs { gui with actionExecuted := false } ch

/-! ### Steps -/

/-- The lists hold the most recent logs after what leaves them alone. -/
theorem Inv.of_same (holds : history.Inv) {gui : Gui} (same : SameLogs history.gui gui) :
    Inv { history with gui := gui } where
  top := same.1.trans holds.top
  bottom := same.2.trans holds.bottom

/-- A log which was consumed is pushed to its list. -/
theorem Inv.listen_log (holds : history.Inv) (log : Log)
    (stepped : history.step (.listen (.log log)) = some later) : later.Inv := by
  cases stepped
  simp only [Gui.appended?, Gui.listenKafka]
  cases frozen : history.gui.frozen with
  | true => exact holds
  | false =>
      cases empty : log.message.1.isEmpty with
      | true => exact holds
      | false =>
          simp only [Bool.false_eq_true, or_self, if_false, append?, append]
          cases bottom : log.printBottom with
          | true =>
              refine ⟨holds.top, ?_⟩
              rw [if_pos rfl, if_pos rfl, ← pushLog_recent, ← holds.bottom]
          | false =>
              refine ⟨?_, holds.bottom⟩
              simp only [Bool.false_eq_true, if_false]
              rw [← pushLog_recent, ← holds.top]

/-- Logs which are not frozen are appended with an error, whatever they are. -/
theorem step_error {error : List UInt8} {fits : (Gui.errorPrefix ++ error).length < textLimit}
    {timestamp : Text} (thawed : history.gui.frozen = false) :
    history.step (.listen (.error error fits timestamp)) =
      some ⟨{ history.gui with
        lstTopLogs := history.gui.lstTopLogs ++ [Gui.errorLog error fits timestamp] },
        history.top ++ [Gui.errorLog error fits timestamp], history.bottom⟩ := by
  simp [step, Gui.appended?, Gui.listenKafka, thawed, append?, append, Gui.errorLog]

/-- A step keeps the most recent logs, unless an error comes to a full list. -/
theorem Inv.step (holds : history.Inv) (stepped : history.step event = some later)
    (room : ¬ history.Overflows event) : later.Inv := by
  cases event with
  | listen listened =>
      cases listened with
      | log log => exact holds.listen_log log stepped
      | nothing =>
          cases stepped
          unfold Gui.listenKafka
          split <;> exact holds
      | error error fits timestamp =>
          by_cases frozen : history.gui.frozen = true
          · simp only [LogHistory.step, Gui.appended?, Gui.listenKafka, frozen, if_true] at stepped
            cases stepped
            exact holds
          · rw [Bool.not_eq_true] at frozen
            rw [step_error frozen] at stepped
            cases stepped
            have few : history.gui.lstTopLogs.length < guiHeight :=
              Nat.lt_of_not_le fun full => room ⟨frozen, full⟩
            have short := few
            rw [holds.top] at few
            have all := recent_of_length_lt few
            refine ⟨?_, holds.bottom⟩
            have whole : history.gui.lstTopLogs = history.top := holds.top.trans all
            rw [whole] at short ⊢
            rw [recent_of_le]
            rw [List.length_append, List.length_singleton]
            exact short
  | key ch =>
      have logs := handleUserInput_logs history.gui ch
      simp only [LogHistory.step] at stepped
      split at stepped
      · next clears =>
        rw [if_pos clears] at logs
        cases stepped
        exact ⟨logs.1, logs.2⟩
      · next other =>
        rw [if_neg other] at logs
        cases stepped
        exact holds.of_same logs
  | print =>
      cases stepped
      exact holds.of_same printMenu_logs

/-- An error which comes to a full list makes it too long. -/
theorem not_bounded_of_overflows (stepped : history.step event = some later)
    (overflows : history.Overflows event) : ¬ later.Bounded := by
  intro bounded
  cases event with
  | key ch => cases overflows
  | print => cases overflows
  | listen listened =>
      cases listened with
      | log log => cases overflows
      | nothing => cases overflows
      | error error fits timestamp =>
          obtain ⟨thawed, full⟩ := overflows
          rw [step_error thawed] at stepped
          cases stepped
          have most : (history.gui.lstTopLogs ++ [Gui.errorLog error fits timestamp]).length ≤
              guiHeight := bounded.top
          rw [List.length_append, List.length_singleton] at most
          omega

end LogHistory

/-- Whatever the GUI listens to and its operator does, the lists of logs are no longer than the
window of the top one and hold the most recent logs in their order, exactly as long as no error
comes to the list of the top window while it is full and not frozen. -/
theorem log_lists_bounded_iff (events : List LogHistory.Event) :
    (∀ taken ∈ LogHistory.machine.run .start events, taken.after.Bounded) ↔
      ∀ taken ∈ LogHistory.machine.run .start events, ¬ taken.before.Overflows taken.event := by
  have initial : LogHistory.start.Inv := ⟨rfl, rfl⟩
  apply Machine.run_exactly LogHistory.Inv _ _ initial
  · intro taken stepped holds
    constructor
    · intro bounded overflows
      exact LogHistory.not_bounded_of_overflows stepped overflows bounded
    · intro room
      exact (holds.step stepped room).bounded
  · intro taken stepped room holds
    exact holds.step stepped room

theorem errorPrefix_fits : (Gui.errorPrefix ++ []).length < textLimit := by decide

/-- An error without a text, at some time. -/
def listenError (timestamp : Text) : LogHistory.Event := .listen (.error [] errorPrefix_fits timestamp)

/-- The list of the top window is longer than the window after one more error than it has lines. -/
theorem errors_outgrow_window :
    ¬ ∀ timestamp, ∀ taken ∈ LogHistory.machine.run .start (List.replicate 21 (listenError timestamp)),
      taken.after.Bounded := by
  intro bounded
  have last := (bounded ⟨[], by decide⟩ _ (List.mem_of_getElem? (rfl :
    (LogHistory.machine.run .start (List.replicate 21 (listenError _)))[20]? = some _))).top
  exact absurd last (by decide)

end EasyCab
