import LedMachine.Proofs.Acceptance

/-!
# Loaded instructions read back

A loaded program can be read back from memory the way a step reads it. `Memory.decode` reads the
instruction at an address as the machine does: the opcode byte, then for setting or clearing
pixels the count and that many coordinate pairs, and for any other instruction its operand bytes.

When the instructions of an accepted program occupy cells apart from each other, every one of
them decodes at its address to the instruction its line stands for, and the next address is the
one past its bytes (`load_decodes_layout`). Indices are signed: a slot that starts below zero
counts from the end of memory, so that slots are compared by the cells they name.

The argument runs through `Memory.Holds`: loading writes each instruction's bytes at its address
(`Loader.lines_follow`), a write keeps every cell it does not name (`get_write_other`), and bytes
written are read back (`get_write_self`).
-/

namespace LedMachine

namespace Memory

/-! ## Reading after writing -/

/-- The cells that `n` successive indices from `a` name in a row of `size` cells. -/
def cellsOf (size : Nat) (a : Int) : Nat → List Nat
  | 0 => []
  | n + 1 => (position? size a).toList ++ cellsOf size (a + 1) n

theorem mem_cellsOf {size p : Nat} {a : Int} {n : Nat} :
    p ∈ cellsOf size a n ↔ ∃ k < n, position? size (a + k) = some p := by
  induction n generalizing a with
  | zero => simp [cellsOf]
  | succ n ih =>
    simp only [cellsOf, List.mem_append, Option.mem_toList, ih]
    constructor
    · rintro (here | ⟨k, hk, named⟩)
      · exact ⟨0, by omega, by simpa using here⟩
      · exact ⟨k + 1, by omega, by rwa [show a + ((k + 1 : Nat) : Int) = a + 1 + k by omega]⟩
    · rintro ⟨k, hk, named⟩
      cases k with
      | zero => exact .inl (by simpa using named)
      | succ k =>
        exact .inr ⟨k, by omega, by rwa [show a + 1 + (k : Int) = a + ((k + 1 : Nat) : Int) by omega]⟩

/-- A read succeeds only at an index that fits a word and names a cell. -/
theorem get_ok {m : Memory} {i : Int} {b : Nat} (read : m.get i = .ok b) :
    fitsWord i = true ∧ ∃ p, position? m.size i = some p := by
  unfold get at read
  split at read
  · cases read
  · rename_i word
    refine ⟨by simpa using word, ?_⟩
    cases named : position? m.size i with
    | none => simp [named] at read
    | some p => exact ⟨p, rfl⟩

/-- A read at an index that fits a word and names a cell reads that cell. -/
theorem get_of_cell (m : Memory) {j : Int} {p : Nat} {c : UInt8} (word : fitsWord j = true)
    (named : position? m.size j = some p) (cell : m.cells[p]? = some c) :
    m.get j = .ok c.toNat := by
  simp only [get, word, Bool.not_true, Bool.false_eq_true, if_false, named, Option.bind_some, cell]

theorem get_put (m : Memory) (i : Int) (b : Nat) {j : Int} {p : Nat} (word : fitsWord j = true)
    (named : position? m.size j = some p) :
    (m.put i b).get j = if position? m.size i = some p then .ok (b % 256) else m.get j := by
  have inside : p < m.cells.size := position?_lt named
  have named' : position? (m.put i b).size j = some p := by rwa [size_put]
  obtain ⟨c, cell⟩ : ∃ c, m.cells[p]? = some c := ⟨m.cells[p], by simp [inside]⟩
  cases at_i : position? m.size i with
  | none =>
    have kept : (m.put i b).cells[p]? = some c := by simp [put, at_i, cell]
    simp only [reduceCtorEq, if_false]
    rw [get_of_cell _ word named' kept, get_of_cell m word named cell]
  | some q =>
    simp only [Option.some.injEq]
    by_cases same : q = p
    · subst same
      have stored : (m.put i b).cells[q]? = some (UInt8.ofNat b) := by simp [put, at_i, inside]
      rw [if_pos rfl, get_of_cell _ word named' stored]
      simp
    · have kept : (m.put i b).cells[p]? = some c := by
        simp [put, at_i, Array.getElem?_setIfInBounds_ne same, cell]
      rw [if_neg same, get_of_cell _ word named' kept, get_of_cell m word named cell]

/-- A write keeps every cell it does not name. -/
theorem get_write_other (m : Memory) (a : Int) (bs : List Nat) {j : Int} {p : Nat}
    (word : fitsWord j = true) (named : position? m.size j = some p)
    (apart : p ∉ cellsOf m.size a bs.length) : (m.write a bs).get j = m.get j := by
  induction bs generalizing m a with
  | nil => rfl
  | cons b bs ih =>
    simp only [List.length_cons, cellsOf, List.mem_append, not_or] at apart
    have here : position? m.size a ≠ some p := fun same => apart.1 (by simp [same])
    rw [write, ih (m.put a b) (a + 1) (by rwa [size_put]) (by rw [size_put]; exact apart.2),
      get_put m a b word named, if_neg here]

/-- Bytes written within memory, each to a cell of its own, are read back. -/
theorem get_write_self (m : Memory) {a : Int} {bs : List Nat} (small : (m.size : Int) ≤ wordHalf)
    (low : -(m.size : Int) ≤ a) (high : a + bs.length ≤ m.size)
    (distinct : (cellsOf m.size a bs.length).Nodup) (bytes : ∀ b ∈ bs, b < 256)
    {k : Nat} (hk : k < bs.length) : (m.write a bs).get (a + k) = .ok bs[k] := by
  induction bs generalizing m a k with
  | nil => simp at hk
  | cons b bs ih =>
    simp only [List.length_cons] at high
    have word : fitsWord a = true := by
      simp only [fitsWord, decide_eq_true_eq]
      omega
    obtain ⟨p, named⟩ : ∃ p, position? m.size a = some p := by
      rw [position?_of_within low (by omega)]
      exact ⟨_, rfl⟩
    simp only [List.length_cons, cellsOf, named, Option.toList_some, List.singleton_append,
      List.nodup_cons] at distinct
    cases k with
    | zero =>
      -- the later bytes go to other cells
      rw [show a + ((0 : Nat) : Int) = a by omega, List.getElem_cons_zero, write, get_write_other _ _ _ word (by rwa [size_put]) (by rw [size_put]; exact distinct.1),
        get_put m a b word named, if_pos named, Nat.mod_eq_of_lt (bytes b (by simp))]
    | succ k =>
      have shifted : a + ((k + 1 : Nat) : Int) = a + 1 + (k : Int) := by omega
      rw [write, shifted, ih (m.put a b) (by simpa using small) (by simp; omega)
        (by simp; omega) (by rw [size_put]; exact distinct.2)
        (fun c mem => bytes c (by simp [mem])) (by simpa using hk)]
      simp

/-! ## Memory holding bytes -/

/-- The memory holds the bytes `bs` from index `a` on. -/
def Holds (m : Memory) (a : Int) (bs : List Nat) : Prop :=
  ∀ k (hk : k < bs.length), m.get (a + k) = .ok bs[k]

namespace Holds

variable {m : Memory} {a : Int} {b : Nat} {bs : List Nat}

theorem head (h : m.Holds a (b :: bs)) : m.get a = .ok b := by
  have read := h 0 (by simp)
  rwa [show a + ((0 : Nat) : Int) = a by omega, List.getElem_cons_zero] at read

theorem tail (h : m.Holds a (b :: bs)) : m.Holds (a + 1) bs := by
  intro k hk
  have read := h (k + 1) (by simpa using hk)
  rwa [show a + ((k + 1 : Nat) : Int) = a + 1 + k by omega] at read

/-- Bytes written within memory, each to a cell of its own, are held there. -/
theorem of_write (m : Memory) (small : (m.size : Int) ≤ wordHalf) (low : -(m.size : Int) ≤ a)
    (high : a + bs.length ≤ m.size) (distinct : (cellsOf m.size a bs.length).Nodup)
    (bytes : ∀ b ∈ bs, b < 256) : (m.write a bs).Holds a bs :=
  fun _ hk => get_write_self m small low high distinct bytes hk

/-- Bytes held stay held through a write to other cells. -/
theorem write (h : m.Holds a bs) (b : Int) (cs : List Nat)
    (apart : ∀ c ∈ cellsOf m.size a bs.length, c ∉ cellsOf m.size b cs.length) :
    (m.write b cs).Holds a bs := by
  intro k hk
  obtain ⟨word, p, named⟩ := get_ok (h k hk)
  rw [get_write_other m b cs word named (apart p (mem_cellsOf.mpr ⟨k, hk, named⟩)), h k hk]

end Holds

/-! ## Decoding -/

/-- The `n` bytes from index `a` on, if every index names a cell. -/
def readBytes (m : Memory) (a : Int) : Nat → Option (List Nat)
  | 0 => some []
  | n + 1 => do
    let b ← (m.get a).toOption
    let bs ← m.readBytes (a + 1) n
    pure (b :: bs)

theorem Holds.readBytes {m : Memory} {a : Int} {bs : List Nat} (h : m.Holds a bs) :
    m.readBytes a bs.length = some bs := by
  induction bs generalizing a with
  | nil => rfl
  | cons b bs ih =>
    simp [Memory.readBytes, h.head, ih h.tail, Except.toOption]

/-- The instruction at index `a` with the index after it, read the way a step reads it: the
opcode byte; for setting or clearing pixels the count byte and that many coordinate pairs after
it; for any other instruction as many operand bytes as it takes. -/
def decode (m : Memory) (a : Int) : Option (Instr × Int) := do
  let code ← (m.get a).toOption
  let op ← Opcode.ofCode? code
  if op.takesPairs then
    let count ← (m.get (a + 1)).toOption
    let pairs ← m.readBytes (a + 2) (2 * count)
    pure (⟨op, count :: pairs⟩, a + 2 + 2 * count)
  else
    let args ← m.readBytes (a + 1) op.arity
    pure (⟨op, args⟩, a + 1 + op.arity)

end Memory

namespace Opcode

@[simp]
theorem ofCode?_code (op : Opcode) : ofCode? op.code = some op := by
  cases op <;> rfl

theorem code_lt (op : Opcode) : op.code < 256 := by
  cases op <;> decide

end Opcode

namespace Instr

/-- Whether an instruction has the operand bytes its opcode reads: for setting or clearing pixels
a count and two bytes a pair, for any other instruction one byte an operand. -/
def shaped (i : Instr) : Bool :=
  if i.op.takesPairs then
    match i.args with
    | count :: pairs => pairs.length == 2 * count
    | [] => false
  else i.args.length == i.op.arity

end Instr

namespace Memory

/-- An instruction held in memory decodes to itself, followed by the index past its bytes. -/
theorem Holds.decode {m : Memory} {a : Int} {i : Instr} (h : m.Holds a i.bytes)
    (shaped : i.shaped = true) : m.decode a = some (i, a + i.size) := by
  obtain ⟨op, args⟩ := i
  have code := Holds.head h
  have rest := Holds.tail h
  cases pixels : op.takesPairs
  · simp only [Instr.shaped, pixels, Bool.false_eq_true, if_false, beq_iff_eq] at shaped
    have read := rest.readBytes
    rw [shaped] at read
    simp [Memory.decode, code, Except.toOption, pixels, read, Instr.size, shaped]
    omega
  · -- the count byte, then twice as many coordinate bytes
    obtain ⟨count, pairs, rfl, length⟩ : ∃ count pairs, args = count :: pairs ∧
        pairs.length = 2 * count := by
      simp only [Instr.shaped, pixels, if_true] at shaped
      split at shaped
      · exact ⟨_, _, rfl, by simpa using shaped⟩
      · cases shaped
    have counted := Holds.head rest
    have read := (Holds.tail rest).readBytes
    rw [length, show a + 1 + 1 = a + 2 by omega] at read
    simp [Memory.decode, code, counted, Except.toOption, pixels, read, Instr.size, length]
    omega

end Memory

/-! ## Loading a layout -/

namespace Placed

/-- The cells an instruction of a layout occupies in a memory of `size` cells: those its indices
name, which wrap around to the start of memory when its address is below zero. -/
def cells (size : Nat) (pl : Placed) : List Nat := Memory.cellsOf size pl.addr pl.instr.size

end Placed

namespace Memory

/-- The memory after writing the instructions of a layout one after another. -/
abbrev writeAll (r : Memory) (ps : List Placed) : Memory :=
  ps.foldl (fun ram pl => ram.write pl.addr pl.instr.bytes) r

/-- Bytes held stay held through writes of instructions to other cells. -/
theorem Holds.writeAll {r : Memory} {a : Int} {bs : List Nat} (h : r.Holds a bs)
    (qs : List Placed) (apart : ∀ c ∈ cellsOf r.size a bs.length,
      c ∉ qs.flatMap (Placed.cells r.size)) :
    (r.writeAll qs).Holds a bs := by
  induction qs generalizing r with
  | nil => exact h
  | cons q qs ih =>
    simp only [List.flatMap_cons, List.mem_append, not_or] at apart
    apply ih (h.write q.addr q.instr.bytes fun c mem => by simpa [Placed.cells] using (apart c mem).1)
    simpa using fun c mem => (apart c mem).2

/-- Each instruction written is held at its address when they all fit in memory, are bytes, and
occupy cells of their own. -/
theorem holds_writeAll (ps : List Placed) (r : Memory) (small : (r.size : Int) ≤ wordHalf)
    (fit : ∀ q ∈ ps, -(r.size : Int) ≤ q.addr ∧ q.addr + q.instr.size ≤ r.size)
    (bytes : ∀ q ∈ ps, ∀ b ∈ q.instr.bytes, b < 256)
    (distinct : (ps.flatMap (Placed.cells r.size)).Nodup) :
    ∀ pl ∈ ps, (r.writeAll ps).Holds pl.addr pl.instr.bytes := by
  induction ps generalizing r with
  | nil => simp
  | cons q qs ih =>
    rw [List.flatMap_cons, List.nodup_append] at distinct
    obtain ⟨own, rest, apart⟩ := distinct
    intro pl mem
    rcases List.mem_cons.mp mem with rfl | later
    · -- the first instruction is written here and kept through the writes of the others
      obtain ⟨low, high⟩ := fit pl (by simp)
      have written := Holds.of_write r small low (by simpa using high)
        (by simpa [Placed.cells] using own) (bytes pl (by simp))
      exact written.writeAll qs fun c mem' same => apart c (by simpa [Placed.cells] using mem')
        c (by simpa using same) rfl
    · exact ih (r.write q.addr q.instr.bytes) (by simpa using small)
        (fun q' mem' => by simpa using fit q' (by simp [mem'])) (fun q' mem' => bytes q' (by simp [mem']))
        (by simpa using rest) pl later

end Memory

/-! ## The instructions a line stands for -/

namespace Operand

theorem byte_lt {size : Int} {o : Operand} {v : Int} (admitted : o.admits size v = true) :
    o.byte v < 256 := by
  have eight : (scratchSize : Int) = 8 := rfl
  cases o <;> simp [admits, byte] at admitted ⊢ <;> omega

theorem zipWith_byte_lt {size : Int} {os : List Operand} {vs : List Int}
    (admitted : (os.zip vs).all (fun q => q.1.admits size q.2) = true) :
    ∀ b ∈ List.zipWith byte os vs, b < 256 := by
  induction os generalizing vs with
  | nil => simp
  | cons o os ih =>
    cases vs with
    | nil => simp
    | cons v vs =>
      simp only [List.zip_cons_cons, List.all_cons, Bool.and_eq_true] at admitted
      simp only [List.zipWith_cons_cons, List.mem_cons]
      rintro b (rfl | later)
      · exact byte_lt admitted.1
      · exact ih admitted.2 b later

end Operand

namespace Source

/-- The instruction a line stands for has the shape its opcode reads, and its bytes are bytes. -/
theorem instr?_shaped {size : Int} {op : Opcode} {ws : List String} {i : Instr}
    (made : instr? size op ws = some i) : i.shaped = true ∧ ∀ b ∈ i.bytes, b < 256 := by
  cases pixels : op.takesPairs
  · obtain ⟨vs, read, admitted, rfl⟩ := instr?_fixed_eq_some pixels made
    have len := length_of_numerals? read
    refine ⟨?_, ?_⟩
    · simp [Instr.shaped, pixels, len, Opcode.arity_eq_length_operands pixels]
    · simp only [Instr.bytes, List.mem_cons]
      rintro b (rfl | later)
      · exact op.code_lt
      · exact Operand.zipWith_byte_lt admitted b later
  · obtain ⟨ps, -, ⟨_, short, pairs⟩, rfl⟩ := instr?_pixels_eq_some pixels made
    refine ⟨?_, ?_⟩
    · simp only [Instr.shaped, pixels, if_true, beq_iff_eq]
      rw [← toNat_flatMap_pairs, List.length_map, length_flatMap_pairs]
    · simp only [Instr.bytes, List.mem_cons, List.mem_flatMap]
      rintro b (rfl | rfl | ⟨q, mem, found⟩)
      · exact op.code_lt
      · exact short
      · have good := List.all_eq_true.mp pairs q mem
        simp only [Bool.and_eq_true, isByte, decide_eq_true_eq] at good
        simp only [List.not_mem_nil, or_false] at found
        omega

theorem stmt?_shaped {size : Int} {ws : List String} {i : Instr}
    (made : stmt? size ws = some (.instr i)) : i.shaped = true ∧ ∀ b ∈ i.bytes, b < 256 := by
  obtain ⟨_, found⟩ := instr?_of_stmt? made
  exact instr?_shaped found

end Source

/-! ## The round trip -/

namespace Machine

/-- Loading an accepted program returns normally, with the program's layout written over a memory
of zeros. -/
theorem load_writes_layout (m : Machine) (L : List String) (low : 0 ≤ m.size)
    (high : m.size ≤ Memory.allocationLimit) (accepted : (Source.assemble m.size L).stop = none) :
    ∃ m', (load L).run m = .ok true m' ∧
      m'.ram = (Memory.zeros m.size.toNat).writeAll (Source.assemble m.size L).placed := by
  obtain ⟨cells, small⟩ := cleared_cells low high
  have follows := Loader.lines_follow 1 L ⟨m.cleared, 0⟩ cells small
  rcases run : Loader.lines 1 L ⟨m.cleared, 0⟩ with ⟨l, failure⟩
  rw [run] at follows
  -- loading stops at no line, as the layout does not
  have loaded : failure = none := by
    have stop : failure.map Prod.fst = (Source.assemble m.size L).stop := follows.stop
    rw [accepted, Option.map_eq_none_iff] at stop
    exact stop
  subst loaded
  exact ⟨_, run_load low high run, follows.ram rfl⟩

/-- Every instruction of an accepted program whose instructions occupy cells of their own decodes
at its address, read the way a step reads it, to the instruction its line stands for, and the
index after it is its address plus its size. -/
theorem load_decodes_layout (m : Machine) (L : List String) (low : 0 ≤ m.size)
    (high : m.size ≤ Memory.allocationLimit) (accepted : (Source.assemble m.size L).stop = none)
    (distinct : ((Source.assemble m.size L).placed.flatMap (Placed.cells m.size.toNat)).Nodup) :
    ∃ m', (load L).run m = .ok true m' ∧
      ∀ pl ∈ (Source.assemble m.size L).placed,
        m'.ram.decode pl.addr = some (pl.instr, pl.addr + pl.instr.size) ∧
          ∃ ws, L[pl.line - 1]?.bind Source.words? = some ws ∧
            Source.stmt? m.size ws = some (.instr pl.instr) := by
  obtain ⟨m', run, written⟩ := load_writes_layout m L low high accepted
  refine ⟨m', run, fun pl mem => ?_⟩
  obtain ⟨-, -, ws, found, made⟩ := Source.mem_placed_layout mem
  refine ⟨?_, ws, by simpa using found, made⟩
  -- the layout written over zeros holds each instruction at its address
  have sized : ((Memory.zeros m.size.toNat).size : Int) = m.size := by
    simp only [Memory.size_zeros]
    omega
  have small : ((Memory.zeros m.size.toNat).size : Int) ≤ Memory.wordHalf := by
    have below : (Memory.allocationLimit : Int) < Memory.wordHalf := by decide
    omega
  have fit : ∀ q ∈ (Source.assemble m.size L).placed,
      -((Memory.zeros m.size.toNat).size : Int) ≤ q.addr ∧
        q.addr + q.instr.size ≤ (Memory.zeros m.size.toNat).size := by
    intro q mem'
    rw [sized]
    simpa using (Source.mem_placed_layout mem').1
  have bytes : ∀ q ∈ (Source.assemble m.size L).placed, ∀ b ∈ q.instr.bytes, b < 256 := by
    intro q mem'
    obtain ⟨-, -, ws, -, stands⟩ := Source.mem_placed_layout mem'
    exact (Source.stmt?_shaped stands).2
  have holds := Memory.holds_writeAll _ _ small fit bytes (by simpa using distinct) pl mem
  rw [← written] at holds
  exact holds.decode (Source.stmt?_shaped made).1

/-- Slots apart from each other are not enough: an instruction that starts below zero and is
longer than memory overwrites its own first bytes, and reads back as another instruction. Here
the addition written from the first of three cells leaves the code of clearing pixels there. -/
theorem long_instruction_reads_back_otherwise :
    (Source.assemble 3 ["EP -3", "ADD 0 1 2"]).stop = none ∧
      (Source.assemble 3 ["EP -3", "ADD 0 1 2"]).placed.Pairwise
        (fun a b => ∀ c ∈ a.cells 3, c ∉ b.cells 3) ∧
      ∃ m', (load ["EP -3", "ADD 0 1 2"]).run
          { size := 3, ram := Memory.zeros 3, scratch := freshScratch } = .ok true m' ∧
        ∃ pl ∈ (Source.assemble 3 ["EP -3", "ADD 0 1 2"]).placed,
          m'.ram.decode pl.addr ≠ some (pl.instr, pl.addr + pl.instr.size) := by
  refine ⟨by decide +kernel, by decide +kernel, ?_⟩
  obtain ⟨m', run, written⟩ := load_writes_layout
    { size := 3, ram := Memory.zeros 3, scratch := freshScratch } ["EP -3", "ADD 0 1 2"]
    (by decide) (by decide) (by decide +kernel)
  refine ⟨m', run, ?_⟩
  rw [written]
  decide +kernel

theorem load_decodes_layout_sample :
    (0 : Int) ≤ 16 ∧ (16 : Int) ≤ Memory.allocationLimit ∧
      (Source.assemble 16 ["EP -3", "STORE 3 300", "LOAD 5"]).stop = none ∧
      ((Source.assemble 16 ["EP -3", "STORE 3 300", "LOAD 5"]).placed.flatMap
        (Placed.cells 16)).Nodup ∧
      ∃ m', (load ["EP -3", "STORE 3 300", "LOAD 5"]).run
          { size := 16, ram := Memory.zeros 16, scratch := freshScratch } = .ok true m' ∧
        ∀ pl ∈ (Source.assemble 16 ["EP -3", "STORE 3 300", "LOAD 5"]).placed,
          m'.ram.decode pl.addr = some (pl.instr, pl.addr + pl.instr.size) ∧
            ∃ ws, ["EP -3", "STORE 3 300", "LOAD 5"][pl.line - 1]?.bind Source.words? = some ws ∧
              Source.stmt? 16 ws = some (.instr pl.instr) :=
  ⟨by decide, by decide, by decide +kernel, by decide +kernel,
    load_decodes_layout { size := 16, ram := Memory.zeros 16, scratch := freshScratch }
      ["EP -3", "STORE 3 300", "LOAD 5"] (by decide) (by decide) (by decide +kernel)
      (by decide +kernel)⟩

end Machine

end LedMachine
