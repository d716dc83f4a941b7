import LedMachine.Assembler.Load

/-!
# The grammar of programs and their layout

What the assembler accepts, said line by line and apart from how it loads. A source line holds
nothing, sets the entry point with `EP`, or names an instruction. The operands of an instruction
are numerals of the kinds it takes: memory addresses lie below both the memory's size and 256,
scratchpad addresses below eight, wait lengths are bytes, and values to store may be any integer,
kept as their low byte. Setting and clearing pixels take from 1 to 255 coordinate pairs of bytes
instead.

`Source.assemble` lays a program out. The load pointer starts at 0, moves to `n` on `EP n` and
past each instruction, which must fit where it goes, addresses below zero counting from the end
of memory. The layout lists the instruction lines with the addresses they go to, the entry
points set on the way, and the first line that fails, if any.
-/

namespace LedMachine

/-- What an operand of an instruction names, which decides the values it may take. -/
inductive Operand where
  /-- A memory address. -/
  | cell
  /-- A scratchpad address. -/
  | scratch
  /-- The length of a wait. -/
  | count
  /-- A value to store. -/
  | immediate
  deriving DecidableEq, Repr

namespace Operand

/-- Whether a value may stand for an operand in a memory of `size` cells. -/
def admits (size : Int) : Operand → Int → Bool
  | .cell, v => decide (0 ≤ v ∧ v < size ∧ v < 256)
  | .scratch, v => decide (0 ≤ v ∧ v < scratchSize)
  | .count, v => decide (0 ≤ v ∧ v < 256)
  | .immediate, _ => true

/-- The byte an operand is stored as: a value to store by its low byte, any other as it is. -/
def byte : Operand → Int → Nat
  | .immediate, v => (v % 256).toNat
  | _, v => v.toNat

end Operand

namespace Opcode

/-- The operands an instruction takes after its code, in order. The pixel instructions take
coordinate pairs instead. -/
def operands : Opcode → List Operand
  | .set | .clear | .loop | .setAll | .setNone => []
  | .wait => [.count]
  | .load | .jump => [.cell]
  | .store => [.cell, .immediate]
  | .scratchStore => [.scratch, .immediate]
  | .scratchLoad => [.scratch, .cell]
  | .scratchCopy | .scratchJumpIf => [.cell, .scratch]
  | .jumpIf | .bitNot | .shiftLeft | .shiftRight => [.cell, .cell]
  | .add | .bitAnd | .bitOr | .bitXor | .sub => [.cell, .cell, .cell]
  | .scratchAdd => [.scratch, .scratch, .scratch]

theorem code_of_ofCode? {b : Nat} {op : Opcode} (found : ofCode? b = some op) : op.code = b := by
  have := List.find?_some found
  simpa using this

end Opcode

/-- An instruction as it lies in memory. -/
structure Instr where
  /-- The opcode. -/
  op : Opcode
  /-- The bytes after the code: the operands, or the count and the coordinate pairs. -/
  args : List Nat
  deriving DecidableEq, Repr

namespace Instr

/-- The bytes of an instruction, its code first. -/
def bytes (i : Instr) : List Nat := i.op.code :: i.args

/-- The number of bytes an instruction takes. -/
def size (i : Instr) : Nat := i.args.length + 1

@[simp]
theorem length_bytes (i : Instr) : i.bytes.length = i.size := by
  simp [bytes, size]

end Instr

/-- A line of a program that does something. -/
inductive Stmt where
  /-- `EP v`: start at `v`, and load what follows from there. -/
  | entry (v : Int)
  /-- An instruction. -/
  | instr (i : Instr)
  deriving DecidableEq, Repr

namespace Source

/-- The numeral in word `k` of a line, if that word is there and reads as a whole number. -/
def numeral? (ws : List String) (k : Nat) : Option Int :=
  ws[k]?.bind fun w => (readInt w).toOption

/-- The numerals in words `1` to `n` of a line. -/
def numerals? (ws : List String) (n : Nat) : Option (List Int) :=
  (List.range n).mapM fun k => numeral? ws (k + 1)

/-- Whether an integer is a byte. -/
def isByte (v : Int) : Bool := decide (0 ≤ v ∧ v < 256)

/-- The instruction a line naming `op` stands for in a memory of `size` cells, when its operands
are well formed. -/
def instr? (size : Int) (op : Opcode) (ws : List String) : Option Instr :=
  if op.takesPairs then
    match readPairs ws.tail with
    | .ok ps =>
      if 0 < ps.length ∧ ps.length < 256 ∧ ps.all (fun q => isByte q.1 && isByte q.2) then
        some ⟨op, ps.length :: ps.flatMap fun q => [q.1.toNat, q.2.toNat]⟩
      else none
    | .error _ => none
  else
    (numerals? ws op.operands.length).bind fun vs =>
      if (op.operands.zip vs).all (fun q => q.1.admits size q.2) then
        some ⟨op, List.zipWith Operand.byte op.operands vs⟩
      else none

/-- What the words of a line stand for in a memory of `size` cells, when they are well formed:
an entry point within memory, or an instruction. -/
def stmt? (size : Int) : List String → Option Stmt
  | [] => none
  | cmd :: rest =>
    if cmd = "EP" then
      (numeral? (cmd :: rest) 1).bind fun v => if v < size then some (.entry v) else none
    else
      (Opcode.ofMnemonic? cmd).bind fun op => (instr? size op (cmd :: rest)).map .instr

/-- Whether `n` bytes fit from address `p` in a memory of `size` cells, an address below zero
counting from the end. -/
def fits (size p : Int) (n : Nat) : Bool := decide (-size ≤ p ∧ p + n ≤ size)

@[simp]
theorem fits_eq_true {size p : Int} {n : Nat} : fits size p n = true ↔ -size ≤ p ∧ p + n ≤ size :=
  decide_eq_true_iff

@[simp]
theorem fits_eq_false {size p : Int} {n : Nat} :
    fits size p n = false ↔ ¬(-size ≤ p ∧ p + n ≤ size) :=
  decide_eq_false_iff_not

end Source

/-- An instruction line of a program, with the address it goes to. -/
structure Placed where
  /-- The number of the line, counting from 1. -/
  line : Nat
  /-- The load pointer when the line was read. -/
  addr : Int
  /-- The instruction. -/
  instr : Instr
  deriving DecidableEq, Repr

/-- Where the lines of a program go. -/
structure Layout where
  /-- The instruction lines before the first that fails, in order. -/
  placed : List Placed
  /-- The entry points set before the first line that fails, in order. -/
  entries : List Int
  /-- The load pointer after the last line, or at the line that fails. -/
  ptr : Int
  /-- The number of the first line that fails, if any. -/
  stop : Option Nat
  deriving DecidableEq, Repr

namespace Source

/-- Lays out the lines from number `n` on, with the load pointer at `p`. -/
def layout (size : Int) : Nat → Int → List String → Layout
  | _, p, [] => ⟨[], [], p, none⟩
  | n, p, raw :: rest =>
    match words? raw with
    | none | some [] => layout size (n + 1) p rest
    | some ws =>
      match stmt? size ws with
      | some (.entry v) =>
        let after := layout size (n + 1) v rest
        { after with entries := v :: after.entries }
      | some (.instr i) =>
        if fits size p i.size then
          let after := layout size (n + 1) (p + i.size) rest
          { after with placed := ⟨n, p, i⟩ :: after.placed }
        else ⟨[], [], p, some n⟩
      | none => ⟨[], [], p, some n⟩

/-- The layout of a program in a memory of `size` cells, its lines numbered from 1 and loaded
from address 0. -/
def assemble (size : Int) (lines : List String) : Layout := layout size 1 0 lines

/-- What one line does to a layout: nothing, for a blank or comment line; it sets an entry point;
it places an instruction at the load pointer; or the layout stops at it. -/
theorem layout_cons (size : Int) (n : Nat) (p : Int) (raw : String) (rest : List String) :
    layout size n p (raw :: rest) = layout size (n + 1) p rest ∨
      (∃ ws v, words? raw = some ws ∧ stmt? size ws = some (.entry v) ∧
        layout size n p (raw :: rest) =
          { layout size (n + 1) v rest with entries := v :: (layout size (n + 1) v rest).entries }) ∨
      (∃ ws i, words? raw = some ws ∧ stmt? size ws = some (.instr i) ∧
        fits size p i.size = true ∧
        layout size n p (raw :: rest) =
          { layout size (n + 1) (p + i.size) rest with
            placed := ⟨n, p, i⟩ :: (layout size (n + 1) (p + i.size) rest).placed }) ∨
      layout size n p (raw :: rest) = ⟨[], [], p, some n⟩ := by
  rw [layout.eq_def]
  dsimp only
  split
  · exact .inl rfl
  · exact .inl rfl
  · rename_i ws _ found
    split
    · rename_i v made
      exact .inr (.inl ⟨ws, v, found, made, rfl⟩)
    · rename_i i made
      split
      · rename_i fit
        exact .inr (.inr (.inl ⟨ws, i, found, made, fit, rfl⟩))
      · exact .inr (.inr (.inr rfl))
    · exact .inr (.inr (.inr rfl))

/-- What a line can stand for: an entry point below the size, or what the instruction parser of
the line's mnemonic makes of it. -/
theorem stmt?_cases {size : Int} {ws : List String} {st : Stmt} (made : stmt? size ws = some st) :
    (∃ v, st = .entry v ∧ v < size) ∨ ∃ op i, st = .instr i ∧ instr? size op ws = some i := by
  match ws, made with
  | cmd :: rest, made =>
    simp only [stmt?] at made
    split at made
    · simp only [Option.bind_eq_some_iff] at made
      obtain ⟨v, -, made⟩ := made
      split at made
      · cases made
        exact .inl ⟨v, rfl, by assumption⟩
      · cases made
    · simp only [Option.bind_eq_some_iff, Option.map_eq_some_iff] at made
      obtain ⟨op, -, i, found, rfl⟩ := made
      exact .inr ⟨op, i, rfl, found⟩

theorem stmt?_entry_lt {size v : Int} {ws : List String} (made : stmt? size ws = some (.entry v)) :
    v < size := by
  rcases stmt?_cases made with ⟨_, same, below⟩ | ⟨_, _, same, -⟩
  · cases same
    exact below
  · cases same

/-- An instruction statement is what the instruction parser of its mnemonic makes of the line. -/
theorem instr?_of_stmt? {size : Int} {ws : List String} {i : Instr}
    (made : stmt? size ws = some (.instr i)) : ∃ op, instr? size op ws = some i := by
  rcases stmt?_cases made with ⟨_, same, -⟩ | ⟨op, _, same, found⟩
  · cases same
  · cases same
    exact ⟨op, found⟩

/-- Every instruction of a layout fits where it goes and is what its line stands for. -/
theorem mem_placed_layout {size : Int} {n : Nat} {p : Int} {L : List String} {pl : Placed}
    (mem : pl ∈ (layout size n p L).placed) :
    fits size pl.addr pl.instr.size = true ∧ n ≤ pl.line ∧
      ∃ ws, L[pl.line - n]?.bind words? = some ws ∧ stmt? size ws = some (.instr pl.instr) := by
  induction L generalizing n p with
  | nil => cases mem
  | cons raw rest ih =>
    -- an instruction of a later line: its line counts one further into the program
    have later : ∀ q, pl ∈ (layout size (n + 1) q rest).placed →
        fits size pl.addr pl.instr.size = true ∧ n ≤ pl.line ∧
          ∃ ws, (raw :: rest)[pl.line - n]?.bind words? = some ws ∧
            stmt? size ws = some (.instr pl.instr) := by
      intro q mem
      obtain ⟨fit, after, ws, found, made⟩ := ih mem
      refine ⟨fit, by omega, ws, ?_, made⟩
      rw [show pl.line - n = pl.line - (n + 1) + 1 by omega]
      simpa using found
    rcases layout_cons size n p raw rest with
      same | ⟨ws, v, -, -, same⟩ | ⟨ws, i, found, made, fit, same⟩ | stopped
    · rw [same] at mem
      exact later p mem
    · rw [same] at mem
      exact later v mem
    · rw [same] at mem
      rcases List.mem_cons.mp mem with rfl | mem
      · exact ⟨fit, Nat.le_refl n, ws, by simpa using found, made⟩
      · exact later _ mem
    · rw [stopped] at mem
      cases mem

/-- Every entry point of a layout lies below the size. -/
theorem mem_entries_layout {size : Int} {n : Nat} {p : Int} {L : List String} {v : Int}
    (mem : v ∈ (layout size n p L).entries) : v < size := by
  induction L generalizing n p with
  | nil => cases mem
  | cons raw rest ih =>
    rcases layout_cons size n p raw rest with
      same | ⟨ws, w, -, made, same⟩ | ⟨ws, i, -, -, -, same⟩ | stopped
    · rw [same] at mem
      exact ih mem
    · rw [same] at mem
      rcases List.mem_cons.mp mem with rfl | mem
      · exact stmt?_entry_lt made
      · exact ih mem
    · rw [same] at mem
      exact ih mem
    · rw [stopped] at mem
      cases mem

end Source

end LedMachine
