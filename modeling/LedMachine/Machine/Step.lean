import LedMachine.Machine.Basic

/-!
# One step of the machine

A step first spends a pending wait. Otherwise it reads the instruction at the program counter,
checks that its operand bytes lie within the declared memory, checks its addresses, and carries
it out. A failed check stops the machine with an alarm and leaves the counter where it is; the
only changes that stay are the pixels that setting or clearing painted before a bad pair. A zero
byte stops the machine without an alarm.

Reading a cell outside the actual memory is a fault, which happens only when the program counter
lies more than the memory's size below zero, or when the declared size differs from the memory.
-/

namespace LedMachine

namespace Opcode

/-- The result of an instruction that combines two bytes into a third. -/
def combine : Opcode → Nat → Nat → Nat
  | .add, x, y => (x + y) % 256
  | .bitAnd, x, y => x &&& y
  | .bitOr, x, y => x ||| y
  | .bitXor, x, y => x ^^^ y
  | .sub, x, y => (((x : Int) - y) % 256).toNat
  | _, x, _ => x

/-- The result of an instruction that turns one byte into another. -/
def transform : Opcode → Nat → Nat
  | .bitNot, x => 255 - x % 256
  | .shiftLeft, x => 2 * x % 256
  | .shiftRight, x => x / 2
  | _, x => x

example : sub.combine 3 5 = 254 ∧ sub.combine 5 3 = 2 ∧ sub.combine 0 255 = 1 := by decide

end Opcode

namespace Machine

/-- Stops the machine with an alarm. -/
def halt (a : Alarm) : MachineM Unit :=
  modify fun m => { m with running := false, alarm := some a }

/-- Moves the program counter on by `n`. -/
def advance (n : Nat) : MachineM Unit :=
  modify fun m => { m with pc := m.pc + n }

/-- Sends the program counter to an address. -/
def jumpTo (a : Int) : MachineM Unit :=
  modify fun m => { m with pc := a }

/-- Lights or darkens one pixel. -/
def paint (x y : Int) (lit : Bool) : MachineM Unit :=
  modify fun m => { m with grid := m.grid.paint x y lit }

/-- Whether an address lies within the declared memory. -/
def holds (m : Machine) (a : Nat) : Bool := decide ((a : Int) < m.size)

/-- Paints `count` pairs read from `addr` on: gives the address after the last pair, or the alarm
that stopped the painting. Pixels painted before the alarm stay painted. -/
def paintPairs (op : Opcode) (lit : Bool) : Nat → Int → MachineM (Except Alarm Int)
  | 0, addr => pure (.ok addr)
  | count + 1, addr => do
    if (← get).size ≤ addr + 1 then return .error (.incompletePair op)
    let x ← cell addr
    let y ← cell (addr + 1)
    if x < gridSide ∧ y < gridSide then
      paint x y lit
      paintPairs op lit count (addr + 2)
    else
      return .error (.badCoordinates op x y)

/-- Carries out an instruction whose operand bytes lie within the declared memory. Tells whether
the scratchpad changed. -/
def execute (op : Opcode) (pc : Int) : MachineM Bool := do
  let m ← get
  let operand (k : Nat) : MachineM Nat := cell (pc + k)
  match op with
  | .set | .clear =>
    let count ← operand 1
    match ← paintPairs op (op == .set) count (pc + 2) with
    | .ok next => jumpTo next
    | .error a => halt a
    return false
  | .wait =>
    let n ← operand 1
    modify fun m => { m with delay := n, activeDelay := n }
    advance 2
    return false
  | .loop =>
    jumpTo m.entry
    return false
  | .setAll | .setNone =>
    modify fun m => { m with grid := Grid.fill (op == .setAll) }
    advance 1
    return false
  | .store =>
    let a ← operand 1
    let v ← operand 2
    if m.holds a then store a v; advance 3 else halt (.badCell a)
    return false
  | .load =>
    let a ← operand 1
    if m.holds a then
      let v ← cell a
      paint 0 0 (0 < v)
      advance 2
    else halt (.badCell a)
    return false
  | .jump =>
    let a ← operand 1
    if m.holds a then jumpTo a else halt (.badTarget a)
    return false
  | .jumpIf =>
    let a ← operand 1
    let r ← operand 2
    if m.holds a && m.holds r then
      if 0 < (← cell r) then jumpTo a else advance 3
    else halt .badTargetOrCell
    return false
  | .scratchStore =>
    let s ← operand 1
    let v ← operand 2
    if s < scratchSize then
      storeScratch s (.int v)
      advance 3
      return true
    else
      halt (.badScratchCell s)
      return false
  | .scratchLoad =>
    let s ← operand 1
    let r ← operand 2
    if s < scratchSize && m.holds r then
      let v ← scratchCell s
      storeValue r v
      advance 3
    else halt .badScratchOrCell
    return false
  | .scratchAdd =>
    let s ← operand 1
    let t ← operand 2
    let d ← operand 3
    if s < scratchSize && t < scratchSize && d < scratchSize then
      let x ← scratchCell s
      let y ← scratchCell t
      let sum ← liftFault (x.add y)
      storeScratch d (← liftFault sum.lowByte)
      advance 4
      return true
    else
      halt .badScratchCells
      return false
  | .scratchCopy =>
    let r ← operand 1
    let s ← operand 2
    if m.holds r && s < scratchSize then
      let v ← cell r
      storeScratch s (.int v)
      advance 3
      return true
    else
      halt .badCellOrScratch
      return false
  | .scratchJumpIf =>
    let a ← operand 1
    let s ← operand 2
    if m.holds a && s < scratchSize then
      if ← liftFault (← scratchCell s).positive then jumpTo a else advance 3
    else halt .badTargetOrScratch
    return false
  | .add | .bitAnd | .bitOr | .bitXor | .sub =>
    let a ← operand 1
    let b ← operand 2
    let d ← operand 3
    if m.holds a && m.holds b && m.holds d then
      let x ← cell a
      let y ← cell b
      store d (op.combine x y)
      advance 4
    else halt .badCells
    return false
  | .bitNot | .shiftLeft | .shiftRight =>
    let a ← operand 1
    let d ← operand 2
    if m.holds a && m.holds d then
      let x ← cell a
      store d (op.transform x)
      advance 3
    else halt .badCells
    return false

/-- The alarm for operand bytes that run past the declared memory. -/
def shortOperands (op : Opcode) : Alarm :=
  if op.takesPairs then .missingCount op else .missingOperands

/-- One step of the machine. Tells whether the scratchpad changed, so that it is to be saved. -/
def step : MachineM Bool := do
  let m ← get
  if 0 < m.delay then
    let d := m.delay - 1
    set { m with delay := d, activeDelay := if d = 0 then 0 else m.activeDelay }
    return false
  if m.size ≤ m.pc then
    halt .counterOutOfRange
    return false
  let code ← cell m.pc
  if code = 0 then
    set { m with running := false }
    return false
  match Opcode.ofCode? code with
  | none =>
    halt (.unknownOpcode code)
    return false
  | some op =>
    if m.size ≤ m.pc + op.arity then
      halt (shortOperands op)
      return false
    execute op m.pc

end Machine

end LedMachine
