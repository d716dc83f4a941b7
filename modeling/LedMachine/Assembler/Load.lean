import LedMachine.Assembler.Source
import LedMachine.Machine.Basic

/-!
# Loading a program

Loading resets the machine and then reads the source lines in order, writing each instruction's
bytes at the load pointer, which starts at 0. `EP n` makes `n` the entry point and moves the load
pointer there. Every instruction line records its load address in the line map, checks that its
bytes fit below the declared size, reads its operands and checks them, then writes its bytes.
The first line that fails stops loading with an alarm that names the line; the bytes written
before stay. After the last line the program counter goes to the entry point.

Checks of addresses are upper bounds only: a negative operand passes them and then fails as a
byte, and a negative load pointer writes from the end of memory.
-/

namespace LedMachine

/-- The state while loading: the machine and the address of the next instruction. -/
structure Loader where
  /-- The machine being loaded. -/
  machine : Machine
  /-- Where the next instruction goes. -/
  ptr : Int

/-- Steps of loading one line, which may fail with a line error. -/
abbrev LoadM := EStateM LineError Loader

namespace Opcode

/-- The check of an instruction's operands against the declared size `size`, giving the error of
the first operand that fails. -/
def checkOperands (op : Opcode) (size : Int) (args : List Int) : Option LineError :=
  let beyond (a : Int) : Bool := decide (size ≤ a)
  let offScratch (a : Int) : Bool := decide ((scratchSize : Int) ≤ a)
  match op, args with
  | .store, a :: _ | .load, a :: _ | .jump, a :: _ =>
    if beyond a then some (.addressOutOfRange a) else none
  | .scratchStore, s :: _ => if offScratch s then some (.scratchOutOfRange s) else none
  | .scratchLoad, [s, r] =>
    if offScratch s then some (.scratchOutOfRange s)
    else if beyond r then some (.cellOutOfRange r) else none
  | .scratchCopy, [r, s] =>
    if beyond r then some (.cellOutOfRange r)
    else if offScratch s then some (.scratchOutOfRange s) else none
  | .scratchJumpIf, [a, s] =>
    if beyond a then some (.targetOutOfRange a)
    else if offScratch s then some (.scratchOutOfRange s) else none
  | .scratchAdd, args => if args.any offScratch then some .scratchesOutOfRange else none
  | _, args => if args.any beyond then some .addressesOutOfRange else none

/-- The operand bytes written for checked operands: an immediate value is taken modulo 256. -/
def encodeOperands (op : Opcode) (args : List Int) : List Int :=
  match op, args with
  | .store, [a, v] | .scratchStore, [a, v] => [a, v % 256]
  | _, args => args

end Opcode

namespace Loader

/-- Lifts a fault of the machine into a line error. -/
def liftFault {α : Type} (r : Except Fault α) : LoadM α :=
  match r with
  | .ok a => pure a
  | .error f => throw (.fault f)

/-- Records that the instruction at the load pointer comes from `line`. -/
def mark (line : Nat) : LoadM Unit :=
  modify fun l =>
    { l with machine.lines := some ((l.machine.lines.getD LineMap.empty).insert l.ptr line) }

/-- Fails unless `n` bytes fit between the load pointer and the declared size. -/
def room (n : Nat) : LoadM Unit := do
  let l ← get
  if l.machine.size < l.ptr + n then throw .noRoom

/-- Writes a byte at offset `k` from the load pointer. -/
def emit (k : Nat) (v : Int) : LoadM Unit := do
  let l ← get
  let ram ← liftFault (l.machine.ram.set (l.ptr + k) v)
  set { l with machine.ram := ram }

/-- Writes bytes from offset `k` on. -/
def emitAll : Nat → List Int → LoadM Unit
  | _, [] => pure ()
  | k, v :: vs => do emit k v; emitAll (k + 1) vs

/-- Moves the load pointer on by `n`. -/
def skip (n : Nat) : LoadM Unit :=
  modify fun l => { l with ptr := l.ptr + n }

/-- The numeral in word `k` of a line. -/
def operand (ws : List String) (k : Nat) : LoadM Int :=
  match ws[k]? with
  | none => throw (.fault .missingOperand)
  | some w =>
    match readInt w with
    | .ok v => pure v
    | .error e => throw (.fault (.badNumeral e))

/-- The numerals in words `1` to `n` of a line, read in order. -/
def operands (ws : List String) (n : Nat) : LoadM (List Int) :=
  (List.range n).mapM fun k => operand ws (k + 1)

/-- Loads a pixel instruction line whose words are `ws`: the count of pairs, then the pairs. -/
def pixelInstruction (line : Nat) (op : Opcode) (ws : List String) : LoadM Unit := do
  mark line
  let pairs ← match Source.readPairs ws.tail with
    | .ok ps => pure ps
    | .error e => throw e
  if pairs.isEmpty then throw (.noPairs op)
  let n := op.width pairs.length
  room n
  emitAll 0 ([(op.code : Int), pairs.length] ++ pairs.flatMap fun (x, y) => [x, y])
  skip n

/-- Loads a line of an instruction with fixed operands whose words are `ws`. -/
def operandInstruction (line : Nat) (op : Opcode) (ws : List String) : LoadM Unit := do
  mark line
  let n := op.width 0
  room n
  let args ← operands ws op.arity
  if let some e := op.checkOperands (← get).machine.size args then throw e
  emitAll 0 ((op.code : Int) :: op.encodeOperands args)
  skip n

/-- Loads an instruction line whose words are `ws`. -/
def instruction (line : Nat) (op : Opcode) (ws : List String) : LoadM Unit := do
  match op with
  | .set | .clear => pixelInstruction line op ws
  | .wait =>
    mark line
    room 2
    emit 0 op.code
    emit 1 (← operand ws 1)
    skip 2
  | .loop =>
    modify fun l => { l with machine.pc := l.machine.entry }
    mark line
    room 1
    emit 0 op.code
    skip 1
  | _ => operandInstruction line op ws

/-- Loads a line whose words are `ws`. -/
def words (line : Nat) (ws : List String) : LoadM Unit := do
  match ws with
  | [] => pure ()
  | cmd :: _ =>
    if cmd = "EP" then
      mark line
      let v ← operand ws 1
      if (← get).machine.size ≤ v then throw .entryOutOfRange
      modify fun l => { l with machine.entry := v, ptr := v }
    else
      match Opcode.ofMnemonic? cmd with
      | some op => instruction line op ws
      | none => throw (.unknownCommand cmd)

/-- Loads the lines from number `line` on; stops at the first failing line and names it. -/
def lines (line : Nat) : List String → Loader → Loader × Option (Nat × LineError)
  | [], l => (l, none)
  | raw :: rest, l =>
    match Source.words? raw with
    | none => lines (line + 1) rest l
    | some ws =>
      match (words line ws).run l with
      | .ok _ l' => lines (line + 1) rest l'
      | .error e l' => (l', some (line, e))

end Loader

namespace Machine

/-- Loads a program: clears the alarm, resets the machine, loads the lines from the first, and
then sends the counter to the entry point. Tells whether every line loaded; a failing line leaves
its alarm. A reset that faults ends loading with that fault. -/
def load (code : List String) : MachineM Bool := do
  modify fun m => { m with alarm := none }
  reset
  let (l, failure) := Loader.lines 1 code ⟨← get, 0⟩
  match failure with
  | some (line, e) =>
    set { l.machine with alarm := some (.badLine line e) }
    return false
  | none =>
    set { l.machine with pc := l.machine.entry }
    return true

end Machine

end LedMachine
