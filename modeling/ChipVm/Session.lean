import ChipVm.Disk
import ChipVm.HostKey
import ChipVm.Listing
import ChipVm.Machine
import ChipVm.Options
import ChipVm.Text.Quoted
import ChipVm.WindowSystem

/-!
# Sessions

A session runs a program in a window.  It goes on in passes.  Each pass first shows the screen if
it has changed, then handles the events that have come in, and then, unless the program is paused,
executes one instruction and offers the timers a tick.

While the program is paused it can be stepped through: a step executes one instruction in the pass
in which it is asked for, however often it is asked for there, and then shows the listing and the
registers in the log.  So does every request to pause.

A session is a value, and a pass leads from one session to the next together with a `Verdict`: the
session goes on, it is over, or it has failed.  In either case the session afterwards is there to be
looked at.

* `Session`, `Verdict`, `Failure` — a session and how it stands.
* `Stage`, `Stage.andThen` — a part of a pass, and parts one after the other.
* `Session.handle`, `Session.handleAll` — events.
* `Session.update` — the instruction at the end of a pass.
* `Session.pass` — a pass; `Session.run` — a session from its beginning to its end.
* **`Stage.andThen_assoc`** — only the order of the parts counts.
* **`Session.handleAll_append`** — nothing that comes after the end of a session is handled.
-/

namespace ChipVm

/-- What comes in from the window. -/
inductive Event where
  /-- The window is closed. -/
  | quit
  /-- A key goes down; the window system may not know which. -/
  | keyDown (key : Option HostKey)
  /-- A key comes up; the window system may not know which. -/
  | keyUp (key : Option HostKey)
  /-- Anything else. -/
  | other
  deriving DecidableEq, Repr

/-- What comes in from outside in one pass. -/
structure Pass where
  /-- The events, oldest first. -/
  events : List Event
  /-- The byte that the random instruction draws. -/
  random : UInt8

/-- Why a session fails. -/
inductive Failure where
  /-- The machine refused. -/
  | machine (fault : Fault)
  /-- The program cannot be read. -/
  | romUnreadable (path : String)
  /-- The state cannot be saved. -/
  | stateUnwritable (path : String)
  /-- The window system refused. -/
  | windowing (call : WindowCall)
  deriving DecidableEq, Repr

/-- The sentence for a failure. -/
def Failure.message : Failure → String
  | .machine fault => fault.message
  | .romUnreadable path => s!"unable to read {Quoted.text path}"
  | .stateUnwritable path => s!"unable to write state to {Quoted.text path}"
  | .windowing call => call.message

/-- How a session stands. -/
inductive Verdict where
  /-- It goes on. -/
  | goesOn
  /-- It is over. -/
  | ended
  /-- It has failed. -/
  | failed (failure : Failure)
  deriving DecidableEq, Repr

/-- A program running in a window. -/
structure Session where
  /-- The machine that runs the program. -/
  machine : Machine
  /-- What has been said. -/
  log : Log
  /-- The files. -/
  disk : Disk
  /-- The window system. -/
  windowSystem : WindowSystem
  /-- The file that the state is saved to and loaded from. -/
  stateFile : String
  /-- Whether the program is paused. -/
  paused : Bool
  /-- Whether a step has been asked for in this pass. -/
  stepping : Bool
  /-- Where the window of the listing begins. -/
  listingWindow : UInt16
  /-- How many times events have been asked for. -/
  polls : Nat

/-! ## Parts of a pass -/

/-- A part of a pass. -/
abbrev Stage := Session → Verdict × Session

namespace Stage

/-- A part that does nothing. -/
def skip : Stage := fun s => (.goesOn, s)

/-- Two parts one after the other; the second one only if the session goes on after the first. -/
def andThen (first second : Stage) : Stage := fun s =>
  match first s with
  | (.goesOn, s) => second s
  | stop => stop

@[simp] theorem andThen_skip (f : Stage) : f.andThen skip = f := by
  funext s
  unfold andThen
  split
  · rename_i t heq
    simp [skip, heq]
  · rfl

/-- **Only the order of the parts counts,** not how they are bracketed. -/
theorem andThen_assoc (f g h : Stage) : (f.andThen g).andThen h = f.andThen (g.andThen h) := by
  funext s
  unfold andThen
  rcases f s with ⟨verdict, t⟩
  cases verdict <;> rfl

end Stage

namespace Session

/-- A session before its beginning. -/
def idle (options : Options) (disk : Disk) (windowSystem : WindowSystem) (log : Log) :
    Session where
  machine := Machine.fresh
  log := log
  disk := disk
  windowSystem := windowSystem
  stateFile := options.stateFile
  paused := options.paused
  stepping := false
  listingWindow := 0
  polls := 0

/-- The session after something was said. -/
def say (s : Session) (level : Log.Level) (text : String) : Session :=
  { s with log := s.log.write level text }

/-- The session after something was done to the machine. -/
def adopt {α : Type} (s : Session) (o : Outcome α) : Session :=
  { s with machine := o.machine, log := o.log }

/-! ## Looking into the program -/

/-- A line of the listing, marked if the program counter is there. -/
def markedLine (pc : UInt16) (line : Line) : String :=
  if line.address = pc then s!"> {line.text}" else s!"  {line.text}"

/-- The program counter, the address register, the depth of the stack and the timers. -/
def countersText (s : State) : String :=
  String.join
    ["PC: ", Hex.text 4 s.pc.toNat, " I: ", Hex.text 4 s.i.toNat,
     " SP: ", Hex.text 2 s.stack.length, " DT: ", Hex.text 2 s.delayTimer.toNat,
     " ST: ", Hex.text 2 s.soundTimer.toNat]

/-- The registers. -/
def registersText (s : State) : String :=
  " ".intercalate ((List.finRange 16).map fun k =>
    s!"V{Hex.text 1 k.val}: {Hex.text 2 (s.v.read k).toNat}")

/-- What is said about a state whose listing begins at a window. -/
def inspection (state : State) (window : UInt16) : List String :=
  (state.listing window).map (markedLine state.pc) ++ [countersText state, registersText state]

/-- Moves the window of the listing to the program counter, and says what is there. -/
def inspect (s : Session) : Session :=
  let window := listingStart s.listingWindow s.machine.state.pc
  (inspection s.machine.state window).foldl (fun s line => s.say .info line)
    { s with listingWindow := window }

/-! ## Events -/

/-- Starts the program over. -/
def restart : Stage := fun s =>
  let done := s.machine.reset s.log
  match done.answer with
  | .error fault => (.failed (.machine fault), s.adopt done)
  | .ok () => (.goesOn, { s.adopt done with listingWindow := 0 }.say .info "reset")

/-- Saves the state to its file.  If that fails, the session fails. -/
def saveState : Stage := fun s =>
  match s.disk.writeText s.stateFile s.machine.save with
  | .error _ => (.failed (.stateUnwritable s.stateFile), s)
  | .ok disk =>
      (.goesOn, { s with disk := disk }.say .info s!"saved state to {Quoted.text s.stateFile}")

/-- Says that the state could not be loaded, and why. -/
def warnUnloaded (s : Session) (reason : String) : Session :=
  s.say .warn s!"unable to load state from {Quoted.text s.stateFile}: {reason}"

/-- Loads the state from its file.  If that fails, the program goes on as it was. -/
def loadState : Stage := fun s =>
  match s.disk.readText s.stateFile with
  | .error fault => (.goesOn, s.warnUnloaded fault.message)
  | .ok text =>
      let done := s.machine.restore text s.log
      match done.answer with
      | .error fault => (.goesOn, (s.adopt done).warnUnloaded fault.message)
      | .ok () =>
          (.goesOn, (s.adopt done).say .info s!"loaded state from {Quoted.text s.stateFile}")

/-- A key that is not on the keypad goes down. -/
def command (key : HostKey) : Stage := fun s =>
  match key with
  | .escape => (.ended, s)
  | .char 'P' => (.goesOn, { s with paused := true }.inspect)
  | .char 'N' => (.goesOn, { s with stepping := true })
  | .enter => (.goesOn, { s with paused := false })
  | .backspace => restart s
  | .function 5 => saveState s
  | .function 9 => loadState s
  | _ => (.goesOn, s)

/-- One event.  The keys of the keypad come first; a key that is not on it may be a command. -/
def handle (event : Event) : Stage := fun s =>
  match event with
  | .quit => (.ended, s)
  | .keyDown (some key) =>
      match key.keypad? with
      | some k => (.goesOn, { s with machine := s.machine.press k })
      | none => command key s
  | .keyUp (some key) =>
      match key.keypad? with
      | some k => (.goesOn, { s with machine := s.machine.release k })
      | none => (.goesOn, s)
  | _ => (.goesOn, s)

/-- Events in their order, up to the one after which the session does not go on. -/
def handleAll : List Event → Stage
  | [] => Stage.skip
  | event :: events => (handle event).andThen (handleAll events)

/-! ## A pass -/

/-- Shows the screen if it has changed. -/
def showFrame : Stage := fun s =>
  match s.machine.takeFrame with
  | (none, machine) => (.goesOn, { s with machine := machine })
  | (some frame, machine) =>
      match s.windowSystem.present frame with
      | (none, ws) => (.goesOn, { s with machine := machine, windowSystem := ws })
      | (some bad, ws) =>
          (.failed (.windowing bad), { s with machine := machine, windowSystem := ws })

/-- Asks for events. -/
def poll : Stage := fun s => (.goesOn, { s with polls := s.polls + 1 })

/-- Executes one instruction and offers the timers a tick, unless the program is paused and no step
has been asked for. -/
def advance (random : UInt8) : Stage := fun s =>
  if !s.paused || s.stepping then
    let done := s.machine.tick random s.log
    match done.answer with
    | .error fault => (.failed (.machine fault), s.adopt done)
    | .ok () => (.goesOn, s.adopt done)
  else (.goesOn, s)

/-- After a step, says where the program is. -/
def concludeStep : Stage := fun s =>
  if s.stepping then (.goesOn, { s with stepping := false }.inspect) else (.goesOn, s)

/-- What a pass does after its events. -/
def update (random : UInt8) : Stage := (advance random).andThen concludeStep

/-- What a pass does before its events. -/
def prepare : Stage := showFrame.andThen poll

/-- A pass. -/
def pass (p : Pass) : Stage := (prepare.andThen (handleAll p.events)).andThen (update p.random)

/-- Passes one after the other. -/
def passes : List Pass → Stage
  | [] => Stage.skip
  | p :: rest => (pass p).andThen (passes rest)

/-! ## From the beginning to the end -/

/-- Reads the program and starts it. -/
def loadProgram (path : String) : Stage := fun s =>
  match s.disk.readBytes path with
  | .error _ => (.failed (.romUnreadable path), s)
  | .ok bytes =>
      let done := s.machine.loadRom bytes.toList s.log
      match done.answer with
      | .error fault => (.failed (.machine fault), s.adopt done)
      | .ok () =>
          (.goesOn, (s.adopt done).say .info s!"loaded {Quoted.text path} ({bytes.size} bytes)")

/-- Opens the window. -/
def openWindow (scale : Nat) : Stage := fun s =>
  match s.windowSystem.openWindow scale with
  | (none, ws) => (.goesOn, { s with windowSystem := ws })
  | (some bad, ws) => (.failed (.windowing bad), { s with windowSystem := ws })

/-- Sets up the queue of events. -/
def openEvents : Stage := fun s =>
  match s.windowSystem.openEvents with
  | (none, ws) => (.goesOn, { s with windowSystem := ws })
  | (some bad, ws) => (.failed (.windowing bad), { s with windowSystem := ws })

/-- A session that starts paused says where the program is. -/
def concludeStart : Stage := fun s =>
  if s.paused then (.goesOn, s.inspect) else (.goesOn, s)

/-- Everything before the first pass. -/
def start (options : Options) : Stage :=
  (loadProgram options.rom).andThen
    ((openWindow options.scale).andThen (openEvents.andThen concludeStart))

/-- The pass in which the window is closed. -/
def lastPass : Pass := ⟨[.quit], 0⟩

/-- A session in which the given passes take place and the window is closed after them. -/
def run (options : Options) (script : List Pass) : Stage :=
  (start options).andThen (passes (script ++ [lastPass]))

/-! ## Small facts -/

/-- **Events that come after the end of a session are not handled.** -/
theorem handleAll_append (events later : List Event) :
    handleAll (events ++ later) = (handleAll events).andThen (handleAll later) := by
  induction events with
  | nil => rfl
  | cons event rest ih => rw [List.cons_append, handleAll, handleAll, ih, Stage.andThen_assoc]

/-- Passes can be cut in two anywhere. -/
theorem passes_append (script later : List Pass) :
    passes (script ++ later) = (passes script).andThen (passes later) := by
  induction script with
  | nil => rfl
  | cons p rest ih => rw [List.cons_append, passes, passes, ih, Stage.andThen_assoc]

end Session

end ChipVm
