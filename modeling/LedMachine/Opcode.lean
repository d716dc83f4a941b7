/-!
# Opcodes

The instructions of the machine, their codes in memory, their mnemonics in source text and how
many bytes each takes. Setting and clearing pixels take a count of pairs and the pairs; every
other instruction has a fixed number of operand bytes.
-/

namespace LedMachine

/-- An instruction of the machine. -/
inductive Opcode where
  | set | clear | wait | loop | store | load | jump | jumpIf | add | setAll | setNone
  | scratchStore | scratchLoad | scratchAdd | scratchCopy | scratchJumpIf
  | bitAnd | bitOr | bitXor | bitNot | sub | shiftLeft | shiftRight
  deriving DecidableEq, Repr

namespace Opcode

/-- Every instruction, in the order of their codes. -/
def all : List Opcode :=
  [.set, .clear, .wait, .loop, .store, .load, .jump, .jumpIf, .add, .setAll, .setNone,
   .scratchStore, .scratchLoad, .scratchAdd, .scratchCopy, .scratchJumpIf,
   .bitAnd, .bitOr, .bitXor, .bitNot, .sub, .shiftLeft, .shiftRight]

/-- The byte that stands for an instruction in memory. -/
def code : Opcode → Nat
  | .set => 0x01 | .clear => 0x02 | .wait => 0x03 | .loop => 0x04 | .store => 0x05
  | .load => 0x06 | .jump => 0x07 | .jumpIf => 0x08 | .add => 0x09 | .setAll => 0x10
  | .setNone => 0x11 | .scratchStore => 0x12 | .scratchLoad => 0x13 | .scratchAdd => 0x14
  | .scratchCopy => 0x15 | .scratchJumpIf => 0x16 | .bitAnd => 0x17 | .bitOr => 0x18
  | .bitXor => 0x19 | .bitNot => 0x20 | .sub => 0x21 | .shiftLeft => 0x22 | .shiftRight => 0x23

/-- The name of an instruction in source text. -/
def mnemonic : Opcode → String
  | .set => "SET" | .clear => "CLEAR" | .wait => "WAIT" | .loop => "LOOP" | .store => "STORE"
  | .load => "LOAD" | .jump => "JUMP" | .jumpIf => "JUMPIF" | .add => "ADD"
  | .setAll => "SETALL" | .setNone => "SETNONE" | .scratchStore => "SCRATCH_STORE"
  | .scratchLoad => "SCRATCH_LOAD" | .scratchAdd => "SCRATCH_ADD"
  | .scratchCopy => "SCRATCH_COPY" | .scratchJumpIf => "SCRATCH_JUMPIF" | .bitAnd => "AND"
  | .bitOr => "OR" | .bitXor => "XOR" | .bitNot => "NOT" | .sub => "SUB"
  | .shiftLeft => "SHL" | .shiftRight => "SHR"

/-- The instruction a byte stands for, if any. -/
def ofCode? (b : Nat) : Option Opcode := all.find? fun op => op.code == b

/-- The instruction a mnemonic names, if any. -/
def ofMnemonic? (s : String) : Option Opcode := all.find? fun op => op.mnemonic == s

/-- How many operand bytes follow an instruction with fixed operands. -/
def arity : Opcode → Nat
  | .set | .clear => 1
  | .loop | .setAll | .setNone => 0
  | .wait | .load | .jump => 1
  | .store | .jumpIf | .scratchStore | .scratchLoad | .scratchCopy | .scratchJumpIf
  | .bitNot | .shiftLeft | .shiftRight => 2
  | .add | .scratchAdd | .bitAnd | .bitOr | .bitXor | .sub => 3

/-- The bytes an instruction takes in memory; setting or clearing `pairs` pixels takes the
opcode, the count and two bytes a pair. -/
def width (op : Opcode) (pairs : Nat) : Nat :=
  match op with
  | .set | .clear => 2 + 2 * pairs
  | op => 1 + op.arity

/-- Whether an instruction sets or clears pixels from a list of pairs. -/
def takesPairs : Opcode → Bool
  | .set | .clear => true
  | _ => false

/-- The code of the entry point directive, which no instruction uses. -/
def entryCode : Nat := 0x24

example : all.map code = [1, 2, 3, 4, 5, 6, 7, 8, 9, 16, 17, 18, 19, 20, 21, 22, 23, 24, 25, 32,
    33, 34, 35] := by decide
example : ofMnemonic? "SCRATCH_JUMPIF" = some .scratchJumpIf := by decide
example : ofCode? 0x24 = none := by decide

end Opcode

end LedMachine
