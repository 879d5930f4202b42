import EasyCab.Library.Ownership
import EasyCab.Socket.Moves

/-!
# Descriptors and their handlers

The handlers of a process, where they are in memory, and the descriptors which the process has open.
A handler opens, accepts and closes descriptors; moves pass them on, and the destructor closes what
is left unless it was told not to. A descriptor has one handler and is closed once, unless a handler
is constructed from one which another handler has. It is lost where a handler which holds one opens
another, and where it is not to close the one it has; those of a pipe have no handler at first.
-/

namespace EasyCab

open Library

/-- A handler with `closeAtEnd`. -/
structure OwningSocket where
  socket : Socket
  closeAtEnd : Bool

/-- The handlers of a process by their places, the descriptors which are open, and the calls of the
kernel which opened and closed them. -/
structure Process where
  sockets : Nat → Option OwningSocket
  opened : Finset Nat
  calls : List (Deed Nat)

namespace Process

/-- The descriptor which a handler holds. -/
def descriptor (process : Process) (this : Nat) : Option Nat :=
  (process.sockets this).bind fun owning => owning.socket.socketfd

/-- Who holds which descriptor. -/
def holdings (process : Process) : Holdings Nat Nat where
  live := process.opened
  held := process.descriptor
  deeds := process.calls

/-- A handler is written. -/
def put (process : Process) (this : Nat) (owning : OwningSocket) : Process :=
  { process with sockets := Function.update process.sockets this (some owning) }

/-- The kernel opens a descriptor. -/
def «open» (process : Process) (fd : Nat) : Process :=
  { process with
    opened := insert fd process.opened
    calls := process.calls ++ [.acquired fd] }

/-- The kernel closes a descriptor. -/
def close (process : Process) (fd : Nat) : Process :=
  { process with
    opened := process.opened.erase fd
    calls := process.calls ++ [.released fd] }

/-! ### Methods -/

/-- `SocketHandler()`. -/
def construct (process : Process) (this : Nat) : Process := process.put this ⟨.new none, true⟩

/-- `SocketHandler(int s)`, where `s` is a descriptor or `CLOSED`. -/
def constructFrom (process : Process) (this : Nat) (s : Option Nat) : Process :=
  process.put this ⟨.new s, true⟩

/-- `PipeHandler()`: `pipe` opens two descriptors, and no handler has them. -/
def pipe (process : Process) (reader writer : Nat) : Process := (process.open reader).open writer

/-- `closeSocket`. -/
def closeSocket (process : Process) (this : Nat) : Process :=
  match process.sockets this with
  | none => process
  | some owning =>
      match owning.socket.socketfd with
      | none => process
      | some fd => (process.close fd).put this { owning with socket := owning.socket.closeSocket }

/-- `this->socketfd = socket(…)`; `none` is an error. -/
def socket (process : Process) (this : Nat) (owning : OwningSocket) : Option Nat → Process
  | none => process.put this { owning with socket := owning.socket.connect none }
  | some fd => (process.open fd).put this { owning with socket := owning.socket.connect (some fd) }

/-- `openSocket`, with what `socket` answers and whether the later calls of the kernel succeed. -/
def openSocket (process : Process) (this : Nat) (owning : OwningSocket) (fd : Option Nat)
    (setsockopt bind listen : Bool) : Process :=
  let created := process.socket this owning fd
  if fd.isNone then created
  else if !setsockopt then created.closeSocket this
  else if !bind then created.closeSocket this
  else if !listen then created.closeSocket this
  else created

/-- `connectTo`, with what `socket` answers and whether `connect` succeeds. -/
def connectTo (process : Process) (this : Nat) (owning : OwningSocket) (fd : Option Nat)
    (connect : Bool) : Process :=
  let created := process.socket this owning fd
  if fd.isNone then created
  else if !connect then created.closeSocket this
  else created

/-- `acceptConnections`, with what `accept` answers. The result is a new handler. -/
def acceptConnections (process : Process) (listener : OwningSocket) (result : Nat) (fd : Option Nat) :
    Process :=
  if listener.socket.isOpen then
    match fd with
    | none => process.construct result
    | some fd => (process.open fd).put result ⟨.new (some fd), true⟩
  else process.construct result

/-- `SocketHandler(SocketHandler &&other)`. -/
def moveConstruct (process : Process) (this other : Nat) (source : OwningSocket) : Process :=
  (process.put this source).put other { source with socket := source.socket.moved }

/-- `operator=(SocketHandler &&other)`. -/
def moveAssign (process : Process) (this other : Nat) (target source : OwningSocket) : Process :=
  if this = other then process
  else
    let closed :=
      match target.socket.socketfd with
      | none => process
      | some fd => if target.closeAtEnd then process.close fd else process
    (closed.put this source).put other { source with socket := source.socket.moved }

/-- `~SocketHandler`. -/
def destroy (process : Process) (this : Nat) (owning : OwningSocket) : Process :=
  let closed := if owning.closeAtEnd then process.closeSocket this else process
  { closed with sockets := Function.update closed.sockets this none }

/-! ### Runs -/

/-- What can happen next. -/
inductive Event where
  | construct (this : Nat)
  | constructFrom (this : Nat) (s : Option Nat)
  | pipe (reader writer : Nat)
  | openSocket (this : Nat) (fd : Option Nat) (setsockopt bind listen : Bool)
  | connectTo (this : Nat) (fd : Option Nat) (connect : Bool)
  | acceptConnections (listener result : Nat) (fd : Option Nat)
  | moveConstruct (this other : Nat)
  | moveAssign (this other : Nat)
  | setCloseAtEnd (this : Nat) (closeAtEnd : Bool)
  | closeSocket (this : Nat)
  | destroy (this : Nat)

/-- The kernel answers with a descriptor which is not open. -/
def Fresh (process : Process) (fd : Option Nat) : Prop := ∀ new ∈ fd, new ∉ process.opened

instance (process : Process) (fd : Option Nat) : Decidable (process.Fresh fd) := by
  unfold Fresh
  infer_instance

/-- One step of a process. A new handler is at a free place, and the others exist. -/
def step (process : Process) : Event → Option Process
  | .construct this =>
      if (process.sockets this).isNone then some (process.construct this) else none
  | .constructFrom this s =>
      if (process.sockets this).isNone then some (process.constructFrom this s) else none
  | .pipe reader writer =>
      if process.Fresh (some reader) ∧ process.Fresh (some writer) ∧ reader ≠ writer then
        some (process.pipe reader writer)
      else none
  | .openSocket this fd setsockopt bind listen => do
      let owning ← process.sockets this
      if process.Fresh fd then some (process.openSocket this owning fd setsockopt bind listen) else none
  | .connectTo this fd connect => do
      let owning ← process.sockets this
      if process.Fresh fd then some (process.connectTo this owning fd connect) else none
  | .acceptConnections listener result fd => do
      let owning ← process.sockets listener
      if (process.sockets result).isNone ∧ process.Fresh fd then
        some (process.acceptConnections owning result fd)
      else none
  | .moveConstruct this other => do
      let source ← process.sockets other
      if (process.sockets this).isNone then some (process.moveConstruct this other source) else none
  | .moveAssign this other => do
      let target ← process.sockets this
      let source ← process.sockets other
      some (process.moveAssign this other target source)
  | .setCloseAtEnd this closeAtEnd => do
      let owning ← process.sockets this
      some (process.put this { owning with closeAtEnd := closeAtEnd })
  | .closeSocket this => do
      let _ ← process.sockets this
      some (process.closeSocket this)
  | .destroy this => do
      let owning ← process.sockets this
      some (process.destroy this owning)

/-- A process as a machine. -/
def machine : Machine Process Event := ⟨step⟩

/-- A process without handlers, of which no descriptor is considered. -/
def start : Process := ⟨fun _ => none, ∅, []⟩

/-- A handler which does not close what it has at its end. -/
def Forgets (process : Process) (this : Nat) : Prop :=
  process.descriptor this ≠ none ∧
    (process.sockets this).map OwningSocket.closeAtEnd = some false

instance (process : Process) (this : Nat) : Decidable (process.Forgets this) := by
  unfold Forgets
  infer_instance

/-- The step gives a handler a descriptor which is not open or which another handler has. -/
def Usurps (process : Process) : Event → Prop
  | .constructFrom _ (some fd) => fd ∈ process.opened → ∃ other, process.descriptor other = some fd
  | _ => False

/-- The step leaves a descriptor which is open without a handler. -/
def Loses (process : Process) : Event → Prop
  | .pipe .. => True
  | .openSocket this .. | .connectTo this .. => process.descriptor this ≠ none
  | .moveAssign this other => this ≠ other ∧ process.Forgets this
  | .destroy this => process.Forgets this
  | _ => False

instance (process : Process) (event : Event) : Decidable (process.Loses event) := by
  unfold Loses
  cases event <;> infer_instance

/-! ### Methods in the holdings -/

variable {process : Process} {this other : Nat} {owning source : OwningSocket}

@[simp] theorem descriptor_put : (process.put this owning).descriptor =
    Function.update process.descriptor this owning.socket.socketfd := by
  funext place
  by_cases same : place = this <;> simp [descriptor, put, same]

/-- A handler which holds nothing is put where nothing was held. -/
theorem holdings_put_same (same : process.descriptor this = owning.socket.socketfd) :
    (process.put this owning).holdings = process.holdings := by
  have unchanged : (process.put this owning).descriptor = process.descriptor := by
    rw [descriptor_put, ← same, Function.update_eq_self]
  simp only [holdings, unchanged]
  rfl

theorem holdings_closeSocket : (process.closeSocket this).holdings = process.holdings.release this := by
  unfold closeSocket Holdings.release
  cases found : process.sockets this with
  | none => simp [holdings, descriptor, found]
  | some owning =>
      cases held : owning.socket.socketfd with
      | none => simp [holdings, descriptor, found, held]
      | some fd =>
          have holds : process.descriptor this = some fd := by simp [descriptor, found, held]
          simp only [held, holdings, holds, descriptor_put]
          rfl

theorem keeps_socket {fd : Option Nat} (fresh : process.Fresh fd) :
    process.holdings.Keeps (process.socket this owning fd).holdings (process.descriptor this ≠ none) := by
  cases fd with
  | none =>
      have abandons : (process.socket this owning none).holdings = process.holdings.abandon this := by
        simp only [socket, holdings, descriptor_put]
        rfl
      rw [abandons]
      exact Holdings.keeps_abandon
  | some fd =>
      have acquires : (process.socket this owning (some fd)).holdings =
          process.holdings.acquire this fd := by
        simp only [socket, holdings, descriptor_put]
        rfl
      rw [acquires]
      exact Holdings.keeps_acquire (fresh fd rfl)

theorem keeps_openSocket {fd : Option Nat} {setsockopt bind listen : Bool}
    (fresh : process.Fresh fd) :
    process.holdings.Keeps (process.openSocket this owning fd setsockopt bind listen).holdings
      (process.descriptor this ≠ none) := by
  have created := @keeps_socket process this owning fd fresh
  have closed : process.holdings.Keeps ((process.socket this owning fd).closeSocket this).holdings
      (process.descriptor this ≠ none) := by
    rw [holdings_closeSocket]
    exact created.release
  unfold openSocket
  split_ifs
  · exact created
  · exact closed
  · exact closed
  · exact closed
  · exact created

theorem keeps_connectTo {fd : Option Nat} {connect : Bool} (fresh : process.Fresh fd) :
    process.holdings.Keeps (process.connectTo this owning fd connect).holdings
      (process.descriptor this ≠ none) := by
  have created := @keeps_socket process this owning fd fresh
  have closed : process.holdings.Keeps ((process.socket this owning fd).closeSocket this).holdings
      (process.descriptor this ≠ none) := by
    rw [holdings_closeSocket]
    exact created.release
  unfold connectTo
  split_ifs
  · exact created
  · exact closed
  · exact created

theorem keeps_acceptConnections {listener : OwningSocket} {fd : Option Nat}
    (free : process.sockets this = none) (fresh : process.Fresh fd) :
    process.holdings.Keeps (process.acceptConnections listener this fd).holdings False := by
  have empty : process.descriptor this = none := by simp [descriptor, free]
  have constructed : process.holdings.Keeps (process.construct this).holdings False := by
    rw [construct, holdings_put_same empty]
    exact Holdings.keeps_refl
  unfold acceptConnections
  split
  · cases fd with
    | none => exact constructed
    | some fd =>
        have acquires : ((process.open fd).put this ⟨.new (some fd), true⟩).holdings =
            process.holdings.acquire this fd := by
          simp only [holdings, descriptor_put]
          rfl
        have keeps := @Holdings.keeps_acquire _ _ _ _ process.holdings this fd (fresh fd rfl)
        rw [acquires]
        simpa [holdings, empty] using keeps
  · exact constructed

/-- Two handlers after the descriptor of one of them was moved to the other. -/
theorem holdings_moved (holds : process.descriptor other = source.socket.socketfd) :
    ((process.put this source).put other { source with socket := source.socket.moved }).holdings =
      process.holdings.give other this := by
  simp only [holdings, descriptor_put, Holdings.give, holds]
  rfl

theorem keeps_moveConstruct (free : process.sockets this = none)
    (found : process.sockets other = some source) :
    process.holdings.Keeps (process.moveConstruct this other source).holdings False := by
  have differ : other ≠ this := by
    rintro rfl
    rw [free] at found
    cases found
  have empty : process.descriptor this = none := by simp [descriptor, free]
  have keeps := @Holdings.keeps_give _ _ _ _ process.holdings other this differ
  rw [moveConstruct, holdings_moved (by simp [descriptor, found])]
  simpa [holdings, empty] using keeps

theorem keeps_moveAssign (target : process.sockets this = some owning)
    (found : process.sockets other = some source) :
    process.holdings.Keeps (process.moveAssign this other owning source).holdings
      (this ≠ other ∧ process.Forgets this) := by
  have own : process.descriptor this = owning.socket.socketfd := by simp [descriptor, target]
  have holds : process.descriptor other = source.socket.socketfd := by simp [descriptor, found]
  unfold moveAssign
  by_cases same : this = other
  · rw [if_pos same]
    simpa [same] using Holdings.keeps_refl
  · have differ : other ≠ this := fun equal => same equal.symm
    rw [if_neg same]
    cases held : owning.socket.socketfd with
    | none =>
        rw [held] at own
        rw [holdings_moved holds]
        have keeps := @Holdings.keeps_give _ _ _ _ process.holdings other this differ
        simpa [Forgets, holdings, own, same] using keeps
    | some fd =>
        rw [held] at own
        cases closes : owning.closeAtEnd with
        | true =>
            have released : (((process.close fd).put this source).put other
                { source with socket := source.socket.moved }).holdings =
                  (process.holdings.release this).give other this := by
              simp only [holdings, descriptor_put, Holdings.release, own, Holdings.give,
                Function.update_idem, Function.update_of_ne differ, holds]
              rfl
            simp only [if_true]
            rw [released]
            simpa [Forgets, target, closes] using Holdings.keeps_release_give differ
        | false =>
            simp only [Bool.false_eq_true, if_false]
            rw [holdings_moved holds]
            have keeps := @Holdings.keeps_give _ _ _ _ process.holdings other this differ
            simpa [Forgets, holdings, own, same, target, closes] using keeps

/-- Taking a handler away abandons what it holds. -/
theorem holdings_erase : ({ process with
      sockets := Function.update process.sockets this none }).holdings =
    process.holdings.abandon this := by
  have erased : ({ process with
      sockets := Function.update process.sockets this none }).descriptor =
        Function.update process.descriptor this none := by
    funext place
    by_cases same : place = this <;> simp [descriptor, same]
  simp only [holdings, erased]
  rfl

theorem keeps_destroy (found : process.sockets this = some owning) :
    process.holdings.Keeps (process.destroy this owning).holdings (process.Forgets this) := by
  unfold destroy
  rw [holdings_erase]
  cases closes : owning.closeAtEnd with
  | true =>
      have unchanged : (process.holdings.release this).abandon this = process.holdings.release this := by
        rw [Holdings.abandon, ← @Holdings.held_release _ _ _ _ process.holdings this,
          Function.update_eq_self]
      simp only [if_true]
      rw [holdings_closeSocket, unchanged]
      simpa [Forgets, found, closes] using Holdings.keeps_refl.release
  | false =>
      simp only [Bool.false_eq_true, if_false]
      have keeps := @Holdings.keeps_abandon _ _ _ _ process.holdings this
      simpa [Forgets, found, closes, holdings] using keeps

/-! ### Steps and runs -/

/-- A handler which is constructed from a descriptor takes it. -/
theorem holdings_constructFrom {fd : Nat} :
    (process.constructFrom this (some fd)).holdings = process.holdings.take this fd := by
  simp only [constructFrom, holdings, descriptor_put]
  rfl

/-- Every step which usurps nothing keeps the holdings, and loses what it is said to lose. -/
theorem keeps_step {next : Process} {event : Event} (stepped : process.step event = some next)
    (rightful : ¬ process.Usurps event) :
    process.holdings.Keeps next.holdings (process.Loses event) := by
  cases event with
  | construct this =>
      obtain ⟨free, same⟩ := Option.ite_none_right_eq_some.mp stepped
      cases same
      rw [Option.isNone_iff_eq_none] at free
      rw [construct, holdings_put_same (by simp [descriptor, free, Socket.new])]
      exact Holdings.keeps_refl
  | constructFrom this s =>
      obtain ⟨free, same⟩ := Option.ite_none_right_eq_some.mp stepped
      cases same
      rw [Option.isNone_iff_eq_none] at free
      have empty : process.descriptor this = none := by simp [descriptor, free]
      cases s with
      | none =>
          rw [constructFrom, holdings_put_same (by simp [empty, Socket.new])]
          exact Holdings.keeps_refl
      | some fd =>
          simp only [Usurps, Classical.not_imp, not_exists] at rightful
          rw [holdings_constructFrom]
          exact Holdings.keeps_take empty rightful.1 rightful.2
  | pipe reader writer =>
      obtain ⟨⟨freshReader, freshWriter, differ⟩, same⟩ := Option.ite_none_right_eq_some.mp stepped
      cases same
      intro sound
      have first : (process.holdings.create reader).Sound := sound.create (freshReader reader rfl)
      have fresh : writer ∉ (process.holdings.create reader).live := by
        rw [Holdings.create, Finset.mem_insert, not_or]
        exact ⟨differ.symm, freshWriter writer rfl⟩
      exact ⟨first.create fresh, fun _ => iff_of_false (first.not_tidy_create fresh) fun held =>
        held trivial⟩
  | openSocket this fd setsockopt bind listen =>
      obtain ⟨owning, found, opens⟩ := Option.bind_eq_some_iff.mp stepped
      obtain ⟨fresh, same⟩ := Option.ite_none_right_eq_some.mp opens
      cases same
      exact keeps_openSocket fresh
  | connectTo this fd connect =>
      obtain ⟨owning, found, opens⟩ := Option.bind_eq_some_iff.mp stepped
      obtain ⟨fresh, same⟩ := Option.ite_none_right_eq_some.mp opens
      cases same
      exact keeps_connectTo fresh
  | acceptConnections listener result fd =>
      obtain ⟨owning, found, accepts⟩ := Option.bind_eq_some_iff.mp stepped
      obtain ⟨⟨free, fresh⟩, same⟩ := Option.ite_none_right_eq_some.mp accepts
      cases same
      exact keeps_acceptConnections (Option.isNone_iff_eq_none.mp free) fresh
  | moveConstruct this other =>
      obtain ⟨source, found, moves⟩ := Option.bind_eq_some_iff.mp stepped
      obtain ⟨free, same⟩ := Option.ite_none_right_eq_some.mp moves
      cases same
      exact keeps_moveConstruct (Option.isNone_iff_eq_none.mp free) found
  | moveAssign this other =>
      obtain ⟨target, own, moves⟩ := Option.bind_eq_some_iff.mp stepped
      obtain ⟨source, found, same⟩ := Option.bind_eq_some_iff.mp moves
      cases same
      exact keeps_moveAssign own found
  | setCloseAtEnd this closeAtEnd =>
      obtain ⟨owning, found, same⟩ := Option.bind_eq_some_iff.mp stepped
      cases same
      rw [holdings_put_same (by simp [descriptor, found])]
      exact Holdings.keeps_refl
  | closeSocket this =>
      obtain ⟨owning, found, same⟩ := Option.bind_eq_some_iff.mp stepped
      cases same
      rw [holdings_closeSocket]
      exact Holdings.keeps_refl.release
  | destroy this =>
      obtain ⟨owning, found, same⟩ := Option.bind_eq_some_iff.mp stepped
      cases same
      exact keeps_destroy found

/-- A step which usurps a descriptor leaves one with two handlers, or a handler with one which is
not open. -/
theorem not_sound_of_usurps {next : Process} {event : Event}
    (stepped : process.step event = some next) (usurps : process.Usurps event) :
    ¬ next.holdings.Sound := by
  intro sound
  cases event with
  | constructFrom this s =>
      obtain ⟨free, same⟩ := Option.ite_none_right_eq_some.mp stepped
      cases same
      cases s with
      | none => exact usurps
      | some fd =>
          rw [holdings_constructFrom] at sound
          obtain ⟨live, only⟩ := sound.of_take
          obtain ⟨other, held⟩ := usurps live
          obtain rfl := only other held
          rw [Option.isNone_iff_eq_none] at free
          simp [descriptor, free] at held
  | _ => exact usurps

/-- A step which gives no handler what is not its own. -/
def Rightful (taken : Transition Process Event) : Prop := ¬ taken.before.Usurps taken.event

/-- A step which loses no descriptor. -/
def Careful (taken : Transition Process Event) : Prop := ¬ taken.before.Loses taken.event

end Process

/-- Whatever a process does with its handlers and whatever the kernel answers: what a handler holds
is open, no other handler holds it, and each descriptor is closed once for each time it was opened,
exactly as long as no handler is constructed from a descriptor which is not open or which another
handler has. Then every open descriptor has its handler exactly as long as no handler which holds a
descriptor opens another one, none which is not to close it is destroyed or assigned to, and no pipe
is opened. -/
theorem descriptors_owned (events : List Process.Event) :
    ((∀ taken ∈ Process.machine.run Process.start events, taken.after.holdings.Sound) ↔
        ∀ taken ∈ Process.machine.run Process.start events, Process.Rightful taken) ∧
      ((∀ taken ∈ Process.machine.run Process.start events,
          taken.after.holdings.Sound ∧ taken.after.holdings.Tidy) ↔
        ∀ taken ∈ Process.machine.run Process.start events,
          Process.Rightful taken ∧ Process.Careful taken) := by
  have sound : Process.start.holdings.Sound := by
    refine ⟨?_, ?_, fun _ => rfl⟩
    · intro this fd held
      cases held
    · intro this other fd held
      cases held
  have tidy : Process.start.holdings.Tidy := by
    intro fd member
    cases member
  constructor
  · apply Machine.run_exactly fun process : Process => process.holdings.Sound
    · intro taken stepped holds
      exact ⟨fun after usurps => Process.not_sound_of_usurps stepped usurps after,
        fun rightful => (Process.keeps_step stepped rightful holds).1⟩
    · intro taken stepped rightful holds
      exact (Process.keeps_step stepped rightful holds).1
    · exact sound
  · apply Machine.run_exactly fun process : Process => process.holdings.Sound ∧ process.holdings.Tidy
    · rintro taken stepped ⟨holds, tidily⟩
      constructor
      · rintro ⟨after, tidyAfter⟩
        have rightful : Process.Rightful taken :=
          fun usurps => Process.not_sound_of_usurps stepped usurps after
        exact ⟨rightful, ((Process.keeps_step stepped rightful holds).2 tidily).mp tidyAfter⟩
      · rintro ⟨rightful, careful⟩
        obtain ⟨after, exactly⟩ := Process.keeps_step stepped rightful holds
        exact ⟨after, (exactly tidily).mpr careful⟩
    · rintro taken stepped ⟨rightful, careful⟩ ⟨holds, tidily⟩
      obtain ⟨after, exactly⟩ := Process.keeps_step stepped rightful holds
      exact ⟨after, (exactly tidily).mpr careful⟩
    · exact ⟨sound, tidy⟩

end EasyCab
