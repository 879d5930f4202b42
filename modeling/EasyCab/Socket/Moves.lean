import EasyCab.Library.Machine
import EasyCab.Socket.SocketHandler

/-!
# Handlers which are moved

Handlers with the sockets they hold. A move takes the socket of its source, and copies the arrays
and the last error, which its source keeps. Whatever is done with the handlers, each of them shows
what was left by the last read which its arrays are from. Which sockets are closed with a handler
is left out.
-/

namespace EasyCab

open Library

/-- A handler with its socket; `none` is `CLOSED`. -/
structure Socket where
  socketfd : Option Nat
  handler : SocketHandler

namespace Socket

/-- `SocketHandler(s)`. -/
def new (s : Option Nat) : Socket := ⟨s, .new⟩

/-- `isOpen`. -/
def isOpen (socket : Socket) : Bool := socket.socketfd.isSome

/-- `openSocket` or `connectTo`: the handler has a new socket, or none. -/
def connect (socket : Socket) (s : Option Nat) : Socket := { socket with socketfd := s }

/-- `closeSocket`. -/
def closeSocket (socket : Socket) : Socket := { socket with socketfd := none }

/-- A handler from which another one was moved. -/
def moved (socket : Socket) : Socket := { socket with socketfd := none }

/-- The user writes through `getBuffer()`. -/
def fill (socket : Socket) (payload : Sized bufferSize) : Socket :=
  { socket with handler := socket.handler.fill payload }

/-- `writeToSocketInternal`. -/
def writeToSocketInternal (socket : Socket) : Socket :=
  if socket.isOpen then { socket with handler := socket.handler.writeToSocketInternal } else socket

/-- The bytes which are written at two places of the buffer. -/
def mark (socket : Socket) (first last : Nat × ControlChar) : Socket :=
  { socket with
    handler := { socket.handler with
      buffer := (socket.handler.buffer.set first.1 first.2.byte).set last.1 last.2.byte } }

/-- `writeToSocket`. -/
def writeToSocket (socket : Socket) : Socket :=
  (socket.mark (0, .stx) (frameSize - 2, .etx)).writeToSocketInternal

/-- `sendControlChar`. -/
def sendControlChar (socket : Socket) (char : ControlChar) : Socket :=
  (socket.mark (0, .stc) (1, char)).writeToSocketInternal

/-- `readFromSocket`. A closed handler does not read. -/
def readFromSocket (socket : Socket) (incoming : Incoming) : Bool × Socket :=
  if socket.isOpen then
    let (returned, handler) := socket.handler.readFromSocket incoming
    (returned, { socket with handler := handler })
  else
    (false, { socket with
      handler := { socket.handler with
        error := .socketClosed
        data := socket.handler.data.set 0 ControlChar.none.byte } })

end Socket

/-! ### What a read leaves -/

namespace SocketHandler

/-- What a handler shows after a call of `readFromSocket` which returned true, or false. -/
def ShowsAfter (handler : SocketHandler) : Bool → Prop
  | true =>
      handler.error = .none ∧
        ((handler.hasData = true ∧ handler.hasControlChar = false ∧
            handler.data.byteAt (frameSize - 2) = ControlChar.etx.byte ∧
            handler.data.byteAt (frameSize - 1) = lrc handler.data) ∨
          (handler.hasData = false ∧ handler.hasControlChar = true))
  | false =>
      handler.error ≠ .none ∧ handler.hasData = false ∧ handler.hasControlChar = false ∧
        handler.getControlChar = some .none ∧ handler.getData = Sized.fill bufferSize 0

variable {handler : SocketHandler}

/-- What is shown is in the data and the error. -/
theorem ShowsAfter.of_same {other : SocketHandler} {returned : Bool}
    (shows : handler.ShowsAfter returned) (data : other.data = handler.data)
    (error : other.error = handler.error) : other.ShowsAfter returned := by
  obtain ⟨buffer, _, _⟩ := other
  subst data error
  cases returned <;> exact shows

/-- Data without a head show nothing. -/
theorem showsAfter_false (failed : handler.error ≠ .none)
    (empty : handler.data.byteAt 0 = ControlChar.none.byte) : handler.ShowsAfter false := by
  have noData : handler.hasData = false := by
    rw [hasData, empty]
    rfl
  have noControlChar : handler.hasControlChar = false := by
    rw [hasControlChar, empty]
    rfl
  refine ⟨failed, noData, noControlChar, ?_, ?_⟩
  · rw [getControlChar, noControlChar, if_neg Bool.false_ne_true]
  · rw [getData, noData, if_neg Bool.false_ne_true]

/-- Data which pass the checks show one thing. -/
theorem showsAfter_true (none : handler.error = .none) (passes : checks handler.data = .none) :
    handler.ShowsAfter true := by
  have heads : ControlChar.stc.byte ≠ ControlChar.stx.byte := by decide
  refine ⟨none, ?_⟩
  unfold checks at passes
  split at passes
  · cases passes
  · next format =>
    split at passes
    · cases passes
    · next whole =>
      rw [Classical.not_not, checkDataFormat] at format
      by_cases control : handler.data.byteAt 0 = ControlChar.stc.byte
      · right
        simp [hasData, hasControlChar, control, heads]
      · left
        rw [if_neg control] at format
        by_cases data : handler.data.byteAt 0 = ControlChar.stx.byte
        · rw [if_pos data] at format
          have right := not_and.mp whole data
          rw [Classical.not_not] at right
          refine ⟨by simp [hasData, data], ?_, by simpa using format, right.symm⟩
          simp [hasControlChar, control]
        · rw [if_neg data] at format
          cases format

/-- What a call of `readFromSocket` leaves is told by what it returns. -/
theorem readFromSocket_shows (incoming : Incoming) :
    (handler.readFromSocket incoming).2.ShowsAfter (handler.readFromSocket incoming).1 := by
  by_cases succeeds : (handler.readFromSocketInternal incoming).error = .none
  · simp only [readFromSocket, succeeds, if_true]
    apply showsAfter_true succeeds
    cases incoming with
    | bytes chunk fits => exact succeeds
    | failed wouldBlock => cases wouldBlock <;> cases succeeds
  · simp only [readFromSocket, succeeds, if_false]
    exact showsAfter_false succeeds (Sized.byteAt_set (by decide))

end SocketHandler

namespace Socket

variable {socket : Socket}

theorem readFromSocket_shows (incoming : Incoming) :
    (socket.readFromSocket incoming).2.handler.ShowsAfter (socket.readFromSocket incoming).1 := by
  unfold readFromSocket
  split
  · exact SocketHandler.readFromSocket_shows incoming
  · exact SocketHandler.showsAfter_false (by simp) (Sized.byteAt_set (by decide))

/-- Writing leaves what was read alone. -/
theorem shows_writeToSocketInternal {returned : Bool}
    (shows : socket.handler.ShowsAfter returned) :
    socket.writeToSocketInternal.handler.ShowsAfter returned := by
  unfold writeToSocketInternal
  split
  · exact shows.of_same rfl rfl
  · exact shows

/-- On an open socket, `writeToSocket` is that of the handler. -/
theorem writeToSocket_of_open (opened : socket.isOpen = true) :
    socket.writeToSocket.handler = socket.handler.writeToSocket := by
  have marked : (socket.mark (0, .stx) (frameSize - 2, .etx)).isOpen = true := opened
  rw [writeToSocket, writeToSocketInternal, if_pos marked]
  rfl

/-- On an open socket, `sendControlChar` is that of the handler. -/
theorem sendControlChar_of_open {char : ControlChar} (opened : socket.isOpen = true) :
    (socket.sendControlChar char).handler = socket.handler.sendControlChar char := by
  have marked : (socket.mark (0, .stc) (1, char)).isOpen = true := opened
  rw [sendControlChar, writeToSocketInternal, if_pos marked]
  rfl

end Socket

/-! ### All handlers of a component -/

/-- A handler, and what the call of `readFromSocket` returned which left its arrays as they are. -/
structure HeldSocket where
  socket : Socket
  returned : Option Bool

/-- What is done with one handler. -/
inductive SocketCall where
  | connect (s : Option Nat)
  | closeSocket
  | fill (payload : Sized bufferSize)
  | writeToSocket
  | sendControlChar (char : ControlChar)
  | readFromSocket (incoming : Incoming)

namespace HeldSocket

/-- A handler after a call. -/
def call (held : HeldSocket) : SocketCall → HeldSocket
  | .connect s => { held with socket := held.socket.connect s }
  | .closeSocket => { held with socket := held.socket.closeSocket }
  | .fill payload => { held with socket := held.socket.fill payload }
  | .writeToSocket => { held with socket := held.socket.writeToSocket }
  | .sendControlChar char => { held with socket := held.socket.sendControlChar char }
  | .readFromSocket incoming =>
      let (returned, socket) := held.socket.readFromSocket incoming
      ⟨socket, some returned⟩

/-- A handler from which another one was moved. -/
def moved (held : HeldSocket) : HeldSocket := { held with socket := held.socket.moved }

/-- A handler shows what its last read left. -/
def Shows (held : HeldSocket) : Prop :=
  ∀ returned ∈ held.returned, held.socket.handler.ShowsAfter returned

variable {held : HeldSocket}

/-- A move copies what was read. -/
theorem shows_moved (shows : held.Shows) : held.moved.Shows := shows

theorem shows_call (shows : held.Shows) (call : SocketCall) : (held.call call).Shows := by
  intro returned read
  cases call with
  | connect s => exact shows returned read
  | closeSocket => exact shows returned read
  | fill payload => exact (shows returned read).of_same rfl rfl
  | writeToSocket =>
      apply Socket.shows_writeToSocketInternal
      exact (shows returned read).of_same rfl rfl
  | sendControlChar char =>
      apply Socket.shows_writeToSocketInternal
      exact (shows returned read).of_same rfl rfl
  | readFromSocket incoming =>
      cases read
      exact Socket.readFromSocket_shows incoming

end HeldSocket

namespace Handlers

/-- What can happen next to the handlers of a component, which are told apart by their places. -/
inductive Event where
  | construct (s : Option Nat)
  | moveConstruct (other : Nat)
  | moveAssign (target other : Nat)
  | call (index : Nat) (call : SocketCall)

/-- One step of a component. -/
def step (handlers : List HeldSocket) : Event → Option (List HeldSocket)
  | .construct s => some (handlers ++ [⟨.new s, none⟩])
  | .moveConstruct other => do
      let held ← handlers[other]?
      some (handlers.set other held.moved ++ [held])
  | .moveAssign target other => do
      let held ← handlers[other]?
      if target = other then some handlers
      else if target < handlers.length then some ((handlers.set other held.moved).set target held)
      else none
  | .call index call => do
      let held ← handlers[index]?
      some (handlers.set index (held.call call))

/-- The handlers of a component as a machine. -/
def machine : Machine (List HeldSocket) Event := ⟨step⟩

/-- All handlers show what their last reads left. -/
def Inv (handlers : List HeldSocket) : Prop := ∀ held ∈ handlers, held.Shows

variable {handlers : List HeldSocket} {held : HeldSocket}

theorem Inv.get (holds : Inv handlers) {index : Nat} (found : handlers[index]? = some held) :
    held.Shows :=
  holds held (List.mem_of_getElem? found)

theorem Inv.set (holds : Inv handlers) (shows : held.Shows) (index : Nat) :
    Inv (handlers.set index held) := by
  intro other member
  rcases List.mem_or_eq_of_mem_set member with old | rfl
  · exact holds other old
  · exact shows

theorem Inv.append (holds : Inv handlers) (shows : held.Shows) : Inv (handlers ++ [held]) := by
  intro other member
  rcases List.mem_append.mp member with old | new
  · exact holds other old
  · cases List.mem_singleton.mp new
    exact shows

theorem inv_step {later : List HeldSocket} {event : Event} (stepped : step handlers event = some later)
    (holds : Inv handlers) : Inv later := by
  cases event with
  | construct s =>
      cases stepped
      exact holds.append fun returned read => by cases read
  | moveConstruct other =>
      obtain ⟨held, found, same⟩ := Option.bind_eq_some_iff.mp stepped
      cases same
      have source := HeldSocket.shows_moved (holds.get found)
      exact (holds.set source other).append (holds.get found)
  | moveAssign target other =>
      obtain ⟨held, found, same⟩ := Option.bind_eq_some_iff.mp stepped
      split at same
      · cases same
        exact holds
      · split at same
        · cases same
          have source := HeldSocket.shows_moved (holds.get found)
          exact (holds.set source other).set (holds.get found) target
        · cases same
  | call index call =>
      obtain ⟨held, found, same⟩ := Option.bind_eq_some_iff.mp stepped
      cases same
      exact holds.set (HeldSocket.shows_call (holds.get found) call) index

end Handlers

/-- Whatever is done with the handlers of a component, after a read which returned true a handler
has no error and shows data, with their foot and check byte right, or a control character; after
one which returned false it has an error and shows nothing. -/
theorem failed_read_exposes_nothing (events : List Handlers.Event) :
    ∀ taken ∈ Handlers.machine.run [] events, ∀ held ∈ taken.after, held.Shows := by
  intro taken member
  have initial : Handlers.Inv [] := by
    intro held held_mem
    cases held_mem
  exact (Machine.run_always Handlers.Inv (fun taken stepped holds => Handlers.inv_step stepped holds)
    initial taken member).2

/-- A handler reads a frame of sevens, and then it reads in vain. -/
def readInVain : List Handlers.Event :=
  let frame := (SocketHandler.new.fill (Sized.fill bufferSize 7)).dataFrame
  [.construct (some 3),
    .call 0 (.readFromSocket (.bytes frame.bytes.1 (Nat.le_of_eq frame.bytes.2))),
    .call 0 (.readFromSocket (.failed true))]

theorem vain_read_exposes_nothing :
    (∃ taken ∈ Handlers.machine.run [] readInVain, ∃ held ∈ taken.after,
      held.returned = some true ∧ held.socket.handler.getData = Sized.fill bufferSize 7) ∧
      ∃ taken ∈ Handlers.machine.run [] readInVain, ∃ held ∈ taken.after,
        held.returned = some false ∧ held.socket.handler.hasData = false ∧
          held.socket.handler.getData = Sized.fill bufferSize 0 := by
  constructor
  · refine ⟨_, List.mem_of_getElem? (rfl : (Handlers.machine.run [] readInVain)[1]? = some _), _,
      List.mem_of_getElem? (rfl : _[0]? = some _), ?_, ?_⟩
    · decide +kernel
    · decide +kernel
  · refine ⟨_, List.mem_of_getElem? (rfl : (Handlers.machine.run [] readInVain)[2]? = some _), _,
      List.mem_of_getElem? (rfl : _[0]? = some _), ?_⟩
    have shows := failed_read_exposes_nothing readInVain _
      (List.mem_of_getElem? (rfl : (Handlers.machine.run [] readInVain)[2]? = some _)) _
      (List.mem_of_getElem? (rfl : _[0]? = some _)) false (by decide +kernel)
    exact ⟨by decide +kernel, shows.2.1, shows.2.2.2.2⟩

end EasyCab
