import LedMachine.Grid
import LedMachine.Memory
import LedMachine.Object.Access
import LedMachine.Machine.Alarm
import LedMachine.Machine.LineMap

/-!
# The machine

The machine holds a memory of a declared size, a scratchpad, a program counter, a wait count with
the length of the wait it belongs to, an entry point, whether it runs, its alarm, its pixel grid
and, once a program has been loaded or the machine reset, the map from load addresses to source
lines.

The scratchpad starts as eight zero bytes, but it is whatever value its file last held: the
instructions address eight cells of it and read, write, add and compare them as that value
allows, so that a scratchpad read back as a list or a number fails where bytes would not.

The machine's operations run in `MachineM`: they change the machine and may end early with a
fault, keeping the changes made before it.
-/

namespace LedMachine

/-- The number of scratchpad cells the instructions may address. -/
def scratchSize : Nat := 8

/-- The scratchpad of a new machine: eight zero bytes. -/
def freshScratch : Value := Value.ofBytes (List.replicate scratchSize 0)

/-- The state of the machine. -/
structure Machine where
  /-- The declared size of the memory; checks use it, while reads and writes use the cells. -/
  size : Int
  /-- The memory. -/
  ram : Memory
  /-- The scratchpad. -/
  scratch : Value
  /-- The address of the next instruction. -/
  pc : Int := 0
  /-- The steps still to wait. -/
  delay : Int := 0
  /-- The length of the wait under way, or 0. -/
  activeDelay : Int := 0
  /-- Where a program starts, and where it goes on a loop. -/
  entry : Int := 0
  /-- Whether the machine runs. -/
  running : Bool := false
  /-- The alarm, if any. -/
  alarm : Option Alarm := none
  /-- The pixel grid. -/
  grid : Grid := Grid.dark
  /-- Source lines by load address; none before the first load or reset. -/
  lines : Option LineMap := none
  deriving Repr

/-- Operations on the machine that may end early with a fault. -/
abbrev MachineM := EStateM Fault Machine

namespace Machine

/-- A new machine with `size` zero cells, a zero scratchpad and the given grid. -/
def create (size : Int) (grid : Grid) : Except Fault Machine := do
  let ram ← Memory.alloc size
  pure { size, ram, scratch := freshScratch, grid }

/-- Whether the alarm says anything: an alarm with an empty message counts as none. -/
def alarmed (m : Machine) : Bool :=
  match m.alarm with
  | some a => a.message != ""
  | none => false

/-- Lifts a step that may fail into the machine's operations, keeping the machine on failure. -/
def liftFault {α : Type} (r : Except Fault α) : MachineM α :=
  match r with
  | .ok a => pure a
  | .error f => throw f

/-- Resets the machine: the counter goes to the entry point, the wait ends, the memory is zeroed at
its declared size, the grid goes dark, the machine stops, the alarm clears and the line map
empties. A declared size that cannot be allocated is a fault after the counter and wait are set. -/
def reset : MachineM Unit := do
  modify fun m => { m with pc := m.entry, delay := 0 }
  let m ← get
  let ram ← liftFault (Memory.alloc m.size)
  set { m with ram, grid := Grid.dark, running := false, alarm := none, lines := some LineMap.empty }

/-- The byte at a memory index. -/
def cell (i : Int) : MachineM Nat := do
  liftFault ((← get).ram.get i)

/-- Stores a byte at a memory index. -/
def store (i v : Int) : MachineM Unit := do
  let m ← get
  let ram ← liftFault (m.ram.set i v)
  set { m with ram }

/-- Stores a value at a memory index, which must be a byte. -/
def storeValue (i : Int) (v : Value) : MachineM Unit := do
  let b ← liftFault v.byteOf
  store i b

/-- The value at a scratchpad index. -/
def scratchCell (i : Int) : MachineM Value := do
  liftFault ((← get).scratch.getItem i)

/-- Stores a value at a scratchpad index. -/
def storeScratch (i : Int) (v : Value) : MachineM Unit := do
  let m ← get
  let scratch ← liftFault (m.scratch.setItem i v)
  set { m with scratch }

end Machine

end LedMachine
