import LedMachine.Assembler.Load
import LedMachine.Machine.Step
import LedMachine.Storage.Scratchpad

/-!
# Sessions at the machine

A session is a machine together with its working directory, which keeps the scratchpad file, and
the text printed so far. Requests act on the session one by one. A step that changes the
scratchpad saves it; creating a machine reads it back. A request that faults keeps the changes
made before the fault, and later requests go on.
-/

namespace LedMachine

/-- A machine with its working directory and what has been printed. -/
structure Session where
  /-- The machine. -/
  machine : Machine
  /-- The working directory. -/
  files : FileStore := FileStore.empty
  /-- The text printed since the last request began. -/
  printed : String := ""
  /-- Whether the grid on show was made for a machine that could not be created, so that it
  stays dark while the old machine goes on with its own. -/
  detached : Bool := false

/-- Operations on a session that may end early with a fault. -/
abbrev SessionM := EStateM Fault Session

/-- A register of the machine that a request may write directly. -/
inductive Register where
  | counter
  | delay
  | entry
  | activeDelay
  deriving DecidableEq, Repr

/-- A request to a session. -/
inductive Request where
  /-- Replace the machine by a new one with a memory of this size and a dark grid. -/
  | create (size : Int)
  /-- Load a program from its source lines. -/
  | load (lines : List String)
  /-- One step, whether or not the machine runs. -/
  | step
  /-- Start the machine and step while it runs, at most this many times. -/
  | run (limit : Int)
  /-- Reset the machine. -/
  | reset
  /-- Store a value in a memory cell. -/
  | poke (addr value : Int)
  /-- Store a value in a scratchpad cell. -/
  | pokeScratch (addr value : Int)
  /-- Write a register. -/
  | setRegister (r : Register) (v : Int)
  /-- Start or stop the machine. -/
  | setRunning (b : Bool)
  /-- Save the scratchpad to its file. -/
  | saveScratch
  /-- Read the scratchpad back from its file. -/
  | restoreScratch
  /-- Put a directory where the scratchpad file goes, unless something stands there. -/
  | blockScratchFile
  /-- Remove the scratchpad file, or the directory in its place. -/
  | deleteScratchFile
  deriving Repr

/-- What a request reports besides the session after it. -/
structure Reply where
  /-- Whether a program loaded, for a load. -/
  loaded : Option Bool := none
  /-- The number of steps made, for a run that ended without a fault. -/
  steps : Option Nat := none
  /-- The fault that ended the request, if any. -/
  fault : Option Fault := none
  /-- The text printed during the request. -/
  printed : String := ""

namespace Machine

/-- Writes a register. -/
def setRegister (m : Machine) : Register → Int → Machine
  | .counter, v => { m with pc := v }
  | .delay, v => { m with delay := v }
  | .entry, v => { m with entry := v }
  | .activeDelay, v => { m with activeDelay := v }

end Machine

namespace Session

/-- Prints a line. -/
def print (line : String) : SessionM Unit :=
  modify fun s => { s with printed := s.printed ++ line }

/-- Runs an operation of the machine on the session's machine. -/
def onMachine {α : Type} (op : MachineM α) : SessionM α := fun s =>
  match op.run s.machine with
  | .ok a m => .ok a { s with machine := m }
  | .error f m => .error f { s with machine := m }

/-- Saves the scratchpad to its file, or prints why it could not. -/
def saveScratch : SessionM Unit := do
  let s ← get
  match s.files.saveScratch s.machine.scratch with
  | .ok files => set { s with files }
  | .error e => print (saveFailureLine e)

/-- Reads the scratchpad back from its file if the file exists, or prints why it could not. -/
def restoreScratch : SessionM Unit := do
  let s ← get
  match s.files.restoreScratch with
  | none => pure ()
  | some (.ok v) => set { s with machine.scratch := v }
  | some (.error e) => print (restoreFailureLine e)

/-- Replaces the machine by a new one, which reads the scratchpad back. A size that cannot be
allocated is a fault: the old machine stays, but the grid on show is the new, dark one. -/
def create (size : Int) : SessionM Unit := do
  match Machine.create size Grid.dark with
  | .error f =>
    modify fun s => { s with detached := true }
    throw f
  | .ok m =>
    modify fun s => { s with machine := m, detached := false }
    restoreScratch

/-- One step of the machine, saving the scratchpad if the step changed it. -/
def step : SessionM Unit := do
  if ← onMachine Machine.step then saveScratch

/-- Steps while the machine runs, at most `fuel` times; gives the number of steps, counted from
`done`. -/
def steps : Nat → Nat → SessionM Nat
  | 0, done => pure done
  | fuel + 1, done => do
    if !(← get).machine.running then return done
    step
    steps fuel (done + 1)

/-- Starts the machine and steps while it runs, at most `limit` times. -/
def run (limit : Int) : SessionM Nat := do
  modify fun s => { s with machine.running := true }
  steps limit.toNat 0

/-- Carries out a request. -/
def handle : Request → SessionM Reply
  | .create size => do create size; pure {}
  | .load lines => do pure { loaded := some (← onMachine (Machine.load lines)) }
  | .step => do step; pure {}
  | .run limit => do pure { steps := some (← run limit) }
  | .reset => do onMachine Machine.reset; pure {}
  | .poke addr value => do onMachine (Machine.store addr value); pure {}
  | .pokeScratch addr value => do onMachine (Machine.storeScratch addr (.int value)); pure {}
  | .setRegister r v => do modify (fun s => { s with machine := s.machine.setRegister r v }); pure {}
  | .setRunning b => do modify (fun s => { s with machine.running := b }); pure {}
  | .saveScratch => do saveScratch; pure {}
  | .restoreScratch => do restoreScratch; pure {}
  | .blockScratchFile => do
    modify fun s => { s with files := (s.files.makeDirectory scratchFile).toOption.getD s.files }
    pure {}
  | .deleteScratchFile => do
    modify fun s => { s with files := s.files.remove scratchFile }
    pure {}

/-- Carries out a request on a session: the session after it, and the reply. -/
def perform (s : Session) (r : Request) : Session × Reply :=
  match (handle r).run { s with printed := "" } with
  | .ok reply s' => ({ s' with printed := "" }, { reply with printed := s'.printed })
  | .error f s' => ({ s' with printed := "" }, { fault := some f, printed := s'.printed })

/-- The grid on show. -/
def shownGrid (s : Session) : Grid := if s.detached then Grid.dark else s.machine.grid

/-- A first session: a new machine of the given size in an empty working directory. -/
def start (size : Int) : Except Fault Session := do
  let machine ← Machine.create size Grid.dark
  pure { machine }

end Session

end LedMachine
