import LedMachine.Proofs.ByteCount
import LedMachine.Proofs.LineNumbers

/-!
# Where loading writes

A line is loaded at the load pointer `p` and reserves as many bytes as the byte counter counts
for it (`lineTally`): its slot is the cells that the indices from `p` on name, counted from the
end of memory below zero, or no cell at all when the bytes do not fit between `-size` and `size`.
Every line, loaded or failing, writes only within its slot (`words_footprint`): the fit is checked
before the first byte is written, a first byte below memory fails before any other is written, and
each later byte goes to the next index. A line that loads moves the load pointer past its bytes,
or to its entry point; a line that fails leaves the pointer where it was.

So after a program that loads, memory holds zeros outside the slots of its instructions, and after
one that fails it holds what the lines before the failing one wrote, but within the failing line's
slot (`load_writes_only_slots`).

The argument runs through `Loader.Confines`: a step that, from a loader whose memory differs from
where the line started at most within the slot, leaves one that does too. Checks and reads keep
the memory; a byte written at an index of the slot keeps it within the slot.
-/

namespace LedMachine

namespace Memory

/-- `m'` differs from `m` at most in the cells of `slot`: it has as many cells, and every other
cell holds what it held in `m`. -/
def DiffersWithin (slot : List Nat) (m m' : Memory) : Prop :=
  m'.size = m.size ∧ ∀ c, c ∉ slot → m'.cells[c]? = m.cells[c]?

namespace DiffersWithin

variable {slot slot' : List Nat} {m m₁ m₂ : Memory}

theorem refl (slot : List Nat) (m : Memory) : m.DiffersWithin slot m :=
  ⟨rfl, fun _ _ => rfl⟩

theorem trans (first : m.DiffersWithin slot m₁) (second : m₁.DiffersWithin slot m₂) :
    m.DiffersWithin slot m₂ :=
  ⟨second.1.trans first.1, fun c out => (second.2 c out).trans (first.2 c out)⟩

theorem mono (h : m.DiffersWithin slot m₁) (sub : ∀ c ∈ slot, c ∈ slot') :
    m.DiffersWithin slot' m₁ :=
  ⟨h.1, fun c out => h.2 c fun inside => out (sub c inside)⟩

/-- A memory that differs from another in no cell is that memory. -/
theorem eq_of_nil (h : m.DiffersWithin [] m₁) : m₁ = m := by
  obtain ⟨cells⟩ := m
  obtain ⟨cells₁⟩ := m₁
  congr
  exact Array.ext_getElem? fun c => h.2 c List.not_mem_nil

end DiffersWithin

theorem differsWithin_put (m : Memory) (i : Int) (b : Nat) :
    m.DiffersWithin (position? m.size i).toList (m.put i b) := by
  refine ⟨size_put m i b, fun c out => ?_⟩
  unfold put
  split
  · rename_i p named
    have other : p ≠ c := fun same => out (by simp [named, same])
    exact Array.getElem?_setIfInBounds_ne other
  · rfl

/-- A store that succeeds stores the byte in the cell its index names. -/
theorem put_of_set {m m' : Memory} {i v : Int} (stored : m.set i v = .ok m') :
    m' = m.put i v.toNat := by
  unfold set at stored
  split at stored
  · cases stored
  · split at stored
    · cases stored
    · split at stored <;> rename_i named
      · cases stored
        rw [put, named]
      · cases stored

theorem differsWithin_write (m : Memory) (a : Int) (bs : List Nat) :
    m.DiffersWithin (cellsOf m.size a bs.length) (m.write a bs) := by
  induction bs generalizing m a with
  | nil => exact DiffersWithin.refl _ m
  | cons b bs ih =>
    -- the first byte goes to the first cell, the rest to the cells after it
    have first : m.DiffersWithin (cellsOf m.size a (bs.length + 1)) (m.put a b) :=
      (differsWithin_put m a b).mono fun c mem => by
        simp only [cellsOf]
        exact List.mem_append_left _ mem
    have rest : (m.put a b).DiffersWithin (cellsOf m.size a (bs.length + 1))
        ((m.put a b).write (a + 1) bs) :=
      (ih (m.put a b) (a + 1)).mono fun c mem => by
        simp only [cellsOf, size_put] at mem ⊢
        exact List.mem_append_right _ mem
    exact first.trans rest

/-- Instructions written one after another change only the cells they occupy. -/
theorem differsWithin_writeAll (r : Memory) (ps : List Placed) :
    r.DiffersWithin (ps.flatMap (Placed.cells r.size)) (r.writeAll ps) := by
  induction ps generalizing r with
  | nil => exact DiffersWithin.refl _ r
  | cons q qs ih =>
    have first : r.DiffersWithin ((q :: qs).flatMap (Placed.cells r.size))
        (r.write q.addr q.instr.bytes) :=
      (differsWithin_write r q.addr q.instr.bytes).mono fun c mem => by
        simp only [List.flatMap_cons, Placed.cells, Instr.length_bytes] at mem ⊢
        exact List.mem_append_left _ mem
    have rest : (r.write q.addr q.instr.bytes).DiffersWithin
        ((q :: qs).flatMap (Placed.cells r.size)) ((r.write q.addr q.instr.bytes).writeAll qs) :=
      (ih (r.write q.addr q.instr.bytes)).mono fun c mem => by
        simp only [List.flatMap_cons, size_write] at mem ⊢
        exact List.mem_append_right _ mem
    exact first.trans rest

end Memory

namespace Source

/-- The cells that `n` bytes loaded from index `p` go to in a memory of `size` cells: none when
they do not fit. -/
def slot (size p : Int) (n : Nat) : List Nat :=
  if fits size p n then Memory.cellsOf size.toNat p n else []

theorem slot_of_fits {size p : Int} {n : Nat} (fit : fits size p n = true) :
    slot size p n = Memory.cellsOf size.toNat p n := by
  simp [slot, fit]

theorem slot_of_unfit {size p : Int} {n : Nat} (unfit : fits size p n = false) :
    slot size p n = [] := by
  simp [slot, unfit]

end Source

/-- A pixel instruction whose pairs read takes, as the counter counts it, two bytes and two for each
pair. -/
theorem lineTally_of_readPairs {cmd : String} {rest : List String} {op : Opcode} (ep : cmd ≠ "EP")
    (known : Opcode.ofMnemonic? cmd = some op) {ps : List (Int × Int)}
    (read : Source.readPairs (cmd :: rest).tail = .ok ps) (present : ps ≠ []) :
    (lineTally (cmd :: rest)).1 = op.width ps.length := by
  cases pixels : op.takesPairs
  · -- an instruction with fixed operands has one width, whatever pairs its text holds
    have fixed : lineTally (cmd :: rest) = (op.width 0, false) := by
      simp [lineTally_of_mnemonic ep known, pixels]
    rw [fixed]
    cases op <;> simp_all [Opcode.takesPairs, Opcode.width]
  · rw [List.tail_cons] at read
    obtain ⟨two, len⟩ := Source.pieces_of_readPairs read
    -- every piece is a pair, so the counter keeps them all
    have kept : (Source.pairPieces rest).filter (fun p => (Text.wordsOf p).length = 2) =
        Source.pairPieces rest :=
      List.filter_eq_self.mpr fun p mem => by simpa using two p mem
    have occupied : (Source.pairPieces rest).isEmpty = false := by
      rw [List.isEmpty_eq_false_iff, ← List.length_pos_iff, ← len]
      exact List.length_pos_iff.mpr present
    simp [lineTally_of_mnemonic ep known, pixels, kept, occupied, len]

namespace Loader

/-- A loader that, against the loader `l₀` a line started from, has kept the load pointer and
the declared size, and whose memory differs at most within `slot`. -/
structure Confined (slot : List Nat) (l₀ l : Loader) : Prop where
  ptr : l.ptr = l₀.ptr
  size : l.machine.size = l₀.machine.size
  ram : l₀.machine.ram.DiffersWithin slot l.machine.ram

theorem Confined.refl (slot : List Nat) (l : Loader) : Confined slot l l :=
  ⟨rfl, rfl, Memory.DiffersWithin.refl slot _⟩

/-- Steps of a line that keep a loader confined to `slot`, whether they return or fail. -/
def Confines {α : Type} (slot : List Nat) (l₀ : Loader) (x : LoadM α) : Prop :=
  ∀ l, Confined slot l₀ l → Yields x l (fun _ => Confined slot l₀) (fun _ => Confined slot l₀)

/-- Steps of a line that keep a loader confined when they fail; the last step of a line that loads
moves the load pointer. -/
def FailsConfined {α : Type} (slot : List Nat) (l₀ : Loader) (x : LoadM α) : Prop :=
  ∀ l, Confined slot l₀ l → Yields x l (fun _ _ => True) (fun _ => Confined slot l₀)

section Confines

variable {α β : Type} {slot : List Nat} {l₀ : Loader}

theorem Confines.bind {x : LoadM α} {f : α → LoadM β} (first : Confines slot l₀ x)
    (rest : ∀ a, Confines slot l₀ (f a)) : Confines slot l₀ (x >>= f) := by
  intro l confined
  rw [yields_bind]
  exact (first l confined).mono (fun a l' confined' => rest a l' confined') fun _ _ kept => kept

theorem Confines.bind_fails {x : LoadM α} {f : α → LoadM β} (first : Confines slot l₀ x)
    (rest : ∀ a, FailsConfined slot l₀ (f a)) : FailsConfined slot l₀ (x >>= f) := by
  intro l confined
  rw [yields_bind]
  exact (first l confined).mono (fun a l' confined' => rest a l' confined') fun _ _ kept => kept

theorem Confines.fails {x : LoadM α} (h : Confines slot l₀ x) : FailsConfined slot l₀ x :=
  fun l confined => (h l confined).mono (fun _ _ _ => trivial) fun _ _ kept => kept

theorem confines_pure (a : α) : Confines slot l₀ (pure a : LoadM α) :=
  fun _ confined => confined

theorem confines_throw (e : LineError) : Confines slot l₀ (throw e : LoadM α) :=
  fun _ confined => confined

theorem confines_throw_bind (e : LineError) (f : α → LoadM β) :
    Confines slot l₀ (throw e >>= f) :=
  fun _ confined => confined

theorem failsConfined_get_bind {f : Loader → LoadM α}
    (rest : ∀ l, Confined slot l₀ l → FailsConfined slot l₀ (f l)) :
    FailsConfined slot l₀ (get >>= f) :=
  fun l confined => (yields_get_bind f).mpr (rest l confined l confined)

theorem failsConfined_modify (g : Loader → Loader) :
    FailsConfined slot l₀ (modify g : LoadM PUnit) :=
  fun _ _ => trivial

theorem confines_modify {g : Loader → Loader}
    (keeps : ∀ l, Confined slot l₀ l → Confined slot l₀ (g l)) : Confines slot l₀ (modify g) :=
  keeps

theorem confines_mark (line : Nat) : Confines slot l₀ (mark line) :=
  confines_modify fun _ confined => ⟨confined.ptr, confined.size, confined.ram⟩

theorem confines_room (n : Nat) : Confines slot l₀ (room n) := by
  intro l confined
  unfold room
  rw [yields_get_bind]
  split
  · exact confined
  · exact confined

/-- Bytes that do not fit below the declared size fail the fit check, before anything after it. -/
theorem confines_room_bind_of_short {n : Nat} {f : Unit → LoadM α}
    (short : l₀.machine.size < l₀.ptr + n) : Confines slot l₀ (room n >>= f) := by
  intro l confined
  rw [yields_room_bind]
  refine ⟨fun _ => confined, fun fit => ?_⟩
  rw [confined.ptr, confined.size] at fit
  omega

theorem confines_operand (ws : List String) (k : Nat) : Confines slot l₀ (operand ws k) := by
  intro l confined
  unfold operand
  split
  · exact confined
  · split
    · exact confined
    · exact confined

/-- Reading operands keeps the loader, and gives as many as were asked for. -/
theorem failsConfined_operands_bind {ws : List String} {n : Nat} {f : List Int → LoadM α}
    (rest : ∀ vs, vs.length = n → FailsConfined slot l₀ (f vs)) :
    FailsConfined slot l₀ (operands ws n >>= f) := by
  intro l confined
  apply yields_operands_bind
  · exact fun _ _ => confined
  · exact fun vs read => rest vs (Source.length_of_numerals? read) l confined

/-- A byte written at an index among the `n` from the load pointer keeps the loader confined to
the cells of those indices. -/
theorem confines_emit {n k : Nat} (hk : k < n) (v : Int) :
    Confines (Memory.cellsOf l₀.machine.ram.size l₀.ptr n) l₀ (emit k v) := by
  intro l confined
  unfold emit
  rw [yields_get_bind, yields_bind]
  cases stored : l.machine.ram.set (l.ptr + k) v with
  | error e => exact confined
  | ok ram =>
    -- the cell the index names is one of the slot's
    have written : l.machine.ram.DiffersWithin (Memory.cellsOf l₀.machine.ram.size l₀.ptr n)
        (l.machine.ram.put (l.ptr + k) v.toNat) :=
      (Memory.differsWithin_put l.machine.ram (l.ptr + k) v.toNat).mono fun c mem => by
        rw [confined.ram.1, confined.ptr] at mem
        exact Memory.mem_cellsOf.mpr ⟨k, hk, by simpa using mem⟩
    rw [Memory.put_of_set stored]
    exact ⟨confined.ptr, confined.size, confined.ram.trans written⟩

theorem confines_emitAll {n : Nat} :
    ∀ (k : Nat) (vs : List Int), k + vs.length ≤ n →
      Confines (Memory.cellsOf l₀.machine.ram.size l₀.ptr n) l₀ (emitAll k vs)
  | _, [], _ => confines_pure ()
  | k, v :: vs, fit =>
    (confines_emit (by simp at fit; omega) v).bind fun _ =>
      confines_emitAll (k + 1) vs (by simp at fit; omega)

/-- A first byte below memory fails before anything after it. -/
theorem confines_emit_bind_of_below {k : Nat} {v : Int} {f : Unit → LoadM α}
    (below : l₀.ptr + k < -(l₀.machine.ram.size : Int)) : Confines slot l₀ (emit k v >>= f) := by
  intro l confined
  apply yields_emit_bind_of_below
  · rw [confined.ptr, confined.ram.1]
    exact below
  · exact fun _ => confined

end Confines

/-! ## The slot of each line -/

section Lines

variable {α : Type} {l₀ : Loader} (line : Nat)
  (cells : (l₀.machine.ram.size : Int) = l₀.machine.size)
include cells

/-- After the fit check of `n` bytes: either they fit, and what follows keeps within their cells,
or they start below memory, and what follows writes nothing. -/
theorem failsConfined_room_bind {n : Nat} {f : Unit → LoadM α}
    (writes : Source.fits l₀.machine.size l₀.ptr n = true →
      FailsConfined (Memory.cellsOf l₀.machine.ram.size l₀.ptr n) l₀ (f ()))
    (below : l₀.ptr < -l₀.machine.size → FailsConfined [] l₀ (f ())) :
    FailsConfined (Source.slot l₀.machine.size l₀.ptr n) l₀ (room n >>= f) := by
  cases fit : Source.fits l₀.machine.size l₀.ptr n
  · rw [Source.slot_of_unfit fit]
    by_cases short : l₀.machine.size < l₀.ptr + n
    · exact (confines_room_bind_of_short short).fails
    · have low : l₀.ptr < -l₀.machine.size := by
        simp only [Source.fits_eq_false] at fit
        omega
      exact (confines_room n).bind_fails fun _ => below low
  · rw [Source.slot_of_fits fit, ← cells, Int.toNat_natCast]
    exact (confines_room n).bind_fails fun _ => writes fit

/-- A first byte written below memory fails before anything after it. -/
theorem failsConfined_emit_bind_of_low {slot : List Nat} {v : Int} {f : Unit → LoadM α}
    (low : l₀.ptr < -l₀.machine.size) : FailsConfined slot l₀ (emit 0 v >>= f) :=
  (confines_emit_bind_of_below (by rw [cells]; simpa using low)).fails

theorem failsConfined_operandInstruction {op : Opcode} (fixed : op.takesPairs = false)
    (ws : List String) :
    FailsConfined (Source.slot l₀.machine.size l₀.ptr (op.width 0)) l₀
      (operandInstruction line op ws) := by
  unfold operandInstruction
  refine (confines_mark line).bind_fails fun _ => ?_
  apply failsConfined_room_bind cells
  · -- the code and the operands, as many bytes as fit
    intro _
    refine failsConfined_operands_bind fun vs len => ?_
    refine failsConfined_get_bind fun l _ => ?_
    split
    · exact (confines_throw_bind _ _).fails
    · refine (confines_emitAll 0 _ ?_).bind_fails fun _ => failsConfined_modify _
      simp [len, Opcode.width_zero fixed, Opcode.arity_eq_length_operands fixed]
  · intro low
    refine failsConfined_operands_bind fun vs _ => ?_
    refine failsConfined_get_bind fun l _ => ?_
    split
    · exact (confines_throw_bind _ _).fails
    · simp only [emitAll, bind_assoc]
      exact failsConfined_emit_bind_of_low cells low

theorem failsConfined_pixelInstruction {op : Opcode} (pixels : op.takesPairs = true)
    (ws : List String) {n : Nat}
    (width : ∀ ps, Source.readPairs ws.tail = .ok ps → ps ≠ [] → n = op.width ps.length) :
    FailsConfined (Source.slot l₀.machine.size l₀.ptr n) l₀ (pixelInstruction line op ws) := by
  unfold pixelInstruction
  refine (confines_mark line).bind_fails fun _ => ?_
  cases read : Source.readPairs ws.tail with
  | error e => exact (confines_throw_bind _ _).fails
  | ok ps =>
    simp only [pure_bind]
    by_cases empty : ps.isEmpty
    · rw [if_pos empty]
      exact (confines_throw_bind _ _).fails
    rw [if_neg empty, width ps read (by simpa using empty)]
    apply failsConfined_room_bind cells
    · -- the code, the count and two bytes a pair
      intro _
      refine (confines_emitAll 0 _ ?_).bind_fails fun _ => failsConfined_modify _
      simp only [List.length_append, List.length_cons, List.length_nil, Source.length_flatMap_pairs,
        Opcode.width_pairs pixels]
      omega
    · intro low
      simp only [List.cons_append, emitAll, bind_assoc]
      exact failsConfined_emit_bind_of_low cells low

theorem failsConfined_waitInstruction (ws : List String) :
    FailsConfined (Source.slot l₀.machine.size l₀.ptr 2) l₀ (instruction line .wait ws) := by
  unfold instruction
  dsimp only
  refine (confines_mark line).bind_fails fun _ => ?_
  apply failsConfined_room_bind cells
  · -- the code, then the length of the wait once it is read
    intro _
    refine (confines_emit (by decide) _).bind_fails fun _ => ?_
    refine (confines_operand ws 1).bind_fails fun v => ?_
    exact (confines_emit (by decide) v).bind_fails fun _ => failsConfined_modify _
  · intro low
    exact failsConfined_emit_bind_of_low cells low

theorem failsConfined_loopInstruction (ws : List String) :
    FailsConfined (Source.slot l₀.machine.size l₀.ptr 1) l₀ (instruction line .loop ws) := by
  unfold instruction
  dsimp only
  -- the counter goes to the entry point first, which keeps the loader confined
  refine Confines.bind_fails ?_ fun _ => ?_
  · exact confines_modify fun _ confined => ⟨confined.ptr, confined.size, confined.ram⟩
  refine (confines_mark line).bind_fails fun _ => ?_
  apply failsConfined_room_bind cells
  · intro _
    exact (confines_emit (by decide) _).bind_fails fun _ => failsConfined_modify _
  · intro low
    exact failsConfined_emit_bind_of_low cells low

/-- Any instruction line writes within the slot of its width: its fixed width, or for a pixel
instruction the width of the pairs it reads. -/
theorem failsConfined_instruction (op : Opcode) (ws : List String) {n : Nat}
    (fixedWidth : op.takesPairs = false → n = op.width 0)
    (pairsWidth : ∀ ps, Source.readPairs ws.tail = .ok ps → ps ≠ [] → n = op.width ps.length) :
    FailsConfined (Source.slot l₀.machine.size l₀.ptr n) l₀ (instruction line op ws) := by
  cases op
  case set => exact failsConfined_pixelInstruction line cells rfl ws pairsWidth
  case clear => exact failsConfined_pixelInstruction line cells rfl ws pairsWidth
  case wait =>
    rw [fixedWidth rfl]
    exact failsConfined_waitInstruction line cells ws
  case loop =>
    rw [fixedWidth rfl]
    exact failsConfined_loopInstruction line cells ws
  all_goals
    rw [fixedWidth rfl]
    exact failsConfined_operandInstruction line cells rfl ws

/-- Every line writes within the slot of the bytes the counter counts for it: an entry line and a
line of no instruction write nothing. -/
theorem failsConfined_words (ws : List String) :
    FailsConfined (Source.slot l₀.machine.size l₀.ptr (lineTally ws).1) l₀ (words line ws) := by
  match ws with
  | [] => exact (confines_pure ()).fails
  | cmd :: rest =>
    unfold words
    dsimp only
    by_cases ep : cmd = "EP"
    · -- the entry point is read and checked, then set
      rw [if_pos ep]
      refine (confines_mark line).bind_fails fun _ => ?_
      refine (confines_operand _ 1).bind_fails fun v => ?_
      refine failsConfined_get_bind fun l _ => ?_
      split
      · exact (confines_throw_bind _ _).fails
      · exact failsConfined_modify _
    · rw [if_neg ep]
      cases known : Opcode.ofMnemonic? cmd with
      | none => exact (confines_throw _).fails
      | some op =>
        dsimp only
        apply failsConfined_instruction line cells
        · intro fixed
          simp [lineTally_of_mnemonic ep known, fixed]
        · intro ps read present
          exact lineTally_of_readPairs ep known read present

/-- One line loaded from `l₀` writes only within its slot. If it loads, the load pointer moves to
its entry point, for an entry line, or past its bytes; if it fails, the pointer stays. -/
theorem words_footprint (ws : List String) (small : l₀.machine.size ≤ Memory.wordHalf) :
    Yields (words line ws) l₀
      (fun _ l => l₀.machine.ram.DiffersWithin (Source.slot l₀.machine.size l₀.ptr (lineTally ws).1)
          l.machine.ram ∧
        (∀ v, Source.stmt? l₀.machine.size ws = some (.entry v) → l.ptr = v) ∧
        ((∀ v, Source.stmt? l₀.machine.size ws ≠ some (.entry v)) →
          l.ptr = l₀.ptr + (lineTally ws).1))
      (fun _ l => l.ptr = l₀.ptr ∧
        l₀.machine.ram.DiffersWithin (Source.slot l₀.machine.size l₀.ptr (lineTally ws).1)
          l.machine.ram) := by
  have confined := failsConfined_words line cells ws l₀ (Confined.refl _ l₀)
  match ws with
  | [] =>
    refine ⟨Memory.DiffersWithin.refl _ _, ⟨fun _ made => ?_, fun _ => by simp [lineTally]⟩⟩
    simp [Source.stmt?] at made
  | cmd :: rest =>
    refine ((yields_words line cells small (List.cons_ne_nil cmd rest)).and confined).mono
      (fun _ l loaded => ?_) fun _ l failed => ⟨failed.2.ptr, failed.2.ram⟩
    obtain ⟨⟨s, made, fit, rfl⟩, -⟩ := loaded
    cases s with
    | entry v =>
      -- an entry line writes nothing and moves the pointer to the entry point
      refine ⟨Memory.DiffersWithin.refl _ _, fun w same => ?_, fun other => absurd made (other v)⟩
      rw [made] at same
      cases same
      rfl
    | instr i =>
      -- an instruction that fits is written over its slot, and the pointer moves past it
      have tally := lineTally_of_instr made
      simp only [Stmt.fitsAt] at fit
      have sized : l₀.machine.size.toNat = l₀.machine.ram.size := by omega
      rw [tally, Source.slot_of_fits fit, sized]
      refine ⟨?_, ⟨fun v same => ?_, fun _ => rfl⟩⟩
      · have written := Memory.differsWithin_write l₀.machine.ram l₀.ptr i.bytes
        rw [Instr.length_bytes] at written
        exact written
      · rw [made] at same
        cases same

/-- A line whose bytes do not fit between `-size` and `size` leaves memory as it found it, whether
it loads or fails. -/
theorem words_keeps_ram_of_unfit (ws : List String) (small : l₀.machine.size ≤ Memory.wordHalf)
    (unfit : Source.fits l₀.machine.size l₀.ptr (lineTally ws).1 = false) :
    Yields (words line ws) l₀ (fun _ l => l.machine.ram = l₀.machine.ram)
      fun _ l => l.machine.ram = l₀.machine.ram := by
  refine (words_footprint line cells ws small).mono (fun _ _ loaded => ?_) fun _ _ failed => ?_
  · rw [Source.slot_of_unfit unfit] at loaded
    exact loaded.1.eq_of_nil
  · rw [Source.slot_of_unfit unfit] at failed
    exact failed.2.eq_of_nil

end Lines

/-- A run that stops at line `k` is the run of the lines before it, which all load, followed by
line `k` failing from where they left the loader. -/
theorem lines_take_of_stop (n : Nat) (L : List String) (l : Loader) {l' : Loader} {k : Nat}
    {e : LineError} (stopped : lines n L l = (l', some (k, e))) :
    n ≤ k ∧ ∃ lb ws, lines n (L.take (k - n)) l = (lb, none) ∧
      L[k - n]?.bind Source.words? = some ws ∧ (words k ws).run lb = .error e l' := by
  induction L generalizing n l with
  | nil => cases stopped
  | cons raw rest ih =>
    -- a line that loads: the stop is further on, and the prefix starts with this line
    have later : ∀ l₁, (∀ X, lines n (raw :: X) l = lines (n + 1) X l₁) →
        n ≤ k ∧ ∃ lb ws, lines n ((raw :: rest).take (k - n)) l = (lb, none) ∧
          (raw :: rest)[k - n]?.bind Source.words? = some ws ∧
            (words k ws).run lb = .error e l' := by
      intro l₁ each
      rw [each rest] at stopped
      obtain ⟨after, lb, ws, before, found, run⟩ := ih (n + 1) l₁ stopped
      refine ⟨by omega, lb, ws, ?_, ?_, run⟩
      · rw [show k - n = k - (n + 1) + 1 by omega, List.take_succ_cons, each]
        exact before
      · rw [show k - n = k - (n + 1) + 1 by omega]
        simpa using found
    -- one step of the run through its definitional equation: its equations by cases are slow to
    -- generate
    cases found : Source.words? raw with
    | none => exact later l fun X => by rw [lines.eq_def]; simp only [found]
    | some ws =>
      cases run : (words n ws).run l with
      | ok u l₁ => exact later l₁ fun X => by rw [lines.eq_def]; simp only [found, run]
      | error e' l₁ =>
        -- this line fails: the lines before it are none of this list
        rw [lines.eq_def] at stopped
        simp only [found, run, Prod.mk.injEq, Option.some.injEq] at stopped
        obtain ⟨rfl, rfl, rfl⟩ := stopped
        refine ⟨Nat.le_refl n, l, ws, ?_, by simpa using found, run⟩
        rw [Nat.sub_self, List.take_zero]
        rfl

end Loader

namespace Machine

section Allocatable

variable {m : Machine} (low : 0 ≤ m.size) (high : m.size ≤ Memory.allocationLimit)
include low high

/-- After a program that loads, every cell outside the cells of its instructions holds zero. -/
theorem load_zeros_outside_slots (L : List String)
    (accepted : (Source.assemble m.size L).stop = none) :
    ∃ m', (load L).run m = .ok true m' ∧
      (Memory.zeros m.size.toNat).DiffersWithin
        ((Source.assemble m.size L).placed.flatMap (Placed.cells m.size.toNat)) m'.ram := by
  obtain ⟨m', run, written⟩ := load_writes_layout m L low high accepted
  refine ⟨m', run, ?_⟩
  have within := Memory.differsWithin_writeAll (Memory.zeros m.size.toNat)
    (Source.assemble m.size L).placed
  rw [Memory.size_zeros] at within
  rw [written]
  exact within

/-- After a program that fails at line `k`, memory holds what the lines before `k` leave when
loaded on their own, but within the slot of line `k` at the load pointer they leave. -/
theorem load_fails_within_slot (L : List String) {k : Nat}
    (stopped : (Source.assemble m.size L).stop = some k) :
    ∃ m' t ws, (load L).run m = .ok false m' ∧ (load (L.take (k - 1))).run m = .ok true t ∧
      L[k - 1]?.bind Source.words? = some ws ∧
      t.ram.DiffersWithin
        (Source.slot m.size (Source.assemble m.size (L.take (k - 1))).ptr (lineTally ws).1)
        m'.ram := by
  obtain ⟨cells, small⟩ := cleared_cells low high
  have follows := Loader.lines_follow 1 L ⟨m.cleared, 0⟩ cells small
  rcases run : Loader.lines 1 L ⟨m.cleared, 0⟩ with ⟨l, failure⟩
  rw [run] at follows
  -- loading stops at line k, as the layout does
  obtain ⟨⟨k', e⟩, rfl, same⟩ : ∃ f, failure = some f ∧ f.1 = k :=
    Option.map_eq_some_iff.mp (follows.stop.trans stopped)
  cases same
  obtain ⟨-, lb, ws, before, found, failed⟩ := Loader.lines_take_of_stop 1 L _ run
  -- the lines before it load on their own, and leave the pointer where their layout ends
  have followsBefore := Loader.lines_follow 1 (L.take (k' - 1)) ⟨m.cleared, 0⟩ cells small
  have recorded := Loader.lines_record_marks 1 (L.take (k' - 1)) ⟨m.cleared, 0⟩ cells small rfl
  rw [before] at followsBefore recorded
  have pointer : lb.ptr = (Source.assemble m.size (L.take (k' - 1))).ptr := (recorded rfl).2
  have sized : lb.machine.size = m.size := followsBefore.size
  have cellsBefore : (lb.machine.ram.size : Int) = lb.machine.size := by
    rw [followsBefore.cells, followsBefore.size]
    exact cells
  -- the failing line writes within its slot
  have confined := (Loader.failsConfined_words k' cellsBefore ws lb
    (Loader.Confined.refl _ lb)).of_error failed
  refine ⟨_, _, ws, run_load low high run, run_load low high before, found, ?_⟩
  rw [← pointer, ← sized]
  exact confined.ram

end Allocatable

/-- Loading writes only where lines go. Each line, loaded from a loader whose memory has as many
cells as the declared size, writes only within its slot, and nothing when its bytes do not fit;
a line that loads moves the load pointer to its entry point or past its bytes, a line that fails
keeps it. So after a program that loads, memory holds zeros outside its instructions' cells, and
after one that fails at line `k` it holds what the lines before `k` leave, but within the slot of
line `k`. -/
theorem load_writes_only_slots :
    (∀ (line : Nat) (ws : List String) (l : Loader),
      (l.machine.ram.size : Int) = l.machine.size → l.machine.size ≤ Memory.wordHalf →
      Yields (Loader.words line ws) l
        (fun _ l' =>
          l.machine.ram.DiffersWithin (Source.slot l.machine.size l.ptr (lineTally ws).1)
            l'.machine.ram ∧
          (∀ v, Source.stmt? l.machine.size ws = some (.entry v) → l'.ptr = v) ∧
          ((∀ v, Source.stmt? l.machine.size ws ≠ some (.entry v)) →
            l'.ptr = l.ptr + (lineTally ws).1))
        (fun _ l' => l'.ptr = l.ptr ∧
          l.machine.ram.DiffersWithin (Source.slot l.machine.size l.ptr (lineTally ws).1)
            l'.machine.ram)) ∧
    (∀ (line : Nat) (ws : List String) (l : Loader),
      (l.machine.ram.size : Int) = l.machine.size → l.machine.size ≤ Memory.wordHalf →
      Source.fits l.machine.size l.ptr (lineTally ws).1 = false →
      Yields (Loader.words line ws) l (fun _ l' => l'.machine.ram = l.machine.ram)
        fun _ l' => l'.machine.ram = l.machine.ram) ∧
    (∀ (m : Machine) (L : List String), 0 ≤ m.size → m.size ≤ Memory.allocationLimit →
      (Source.assemble m.size L).stop = none →
      ∃ m', (load L).run m = .ok true m' ∧
        (Memory.zeros m.size.toNat).DiffersWithin
          ((Source.assemble m.size L).placed.flatMap (Placed.cells m.size.toNat)) m'.ram) ∧
    (∀ (m : Machine) (L : List String) (k : Nat), 0 ≤ m.size → m.size ≤ Memory.allocationLimit →
      (Source.assemble m.size L).stop = some k →
      ∃ m' t ws, (load L).run m = .ok false m' ∧ (load (L.take (k - 1))).run m = .ok true t ∧
        L[k - 1]?.bind Source.words? = some ws ∧
        t.ram.DiffersWithin
          (Source.slot m.size (Source.assemble m.size (L.take (k - 1))).ptr (lineTally ws).1)
          m'.ram) :=
  ⟨fun line ws _ cells small => Loader.words_footprint line cells ws small,
    fun line ws _ cells small unfit => Loader.words_keeps_ram_of_unfit line cells ws small unfit,
    fun _ L low high accepted => load_zeros_outside_slots low high L accepted,
    fun _ L _ low high stopped => load_fails_within_slot low high L stopped⟩

theorem load_writes_only_slots_sample :
    ((freshSixtyFour.ram.size : Nat) : Int) = 64 ∧ (64 : Int) ≤ Memory.wordHalf ∧
      Source.fits 64 63 (lineTally ["WAIT", "300"]).1 = false ∧
      Yields (Loader.words 2 ["WAIT", "300"]) ⟨freshSixtyFour, 63⟩
        (fun _ l' => l'.machine.ram = freshSixtyFour.ram)
        (fun _ l' => l'.machine.ram = freshSixtyFour.ram) ∧
      (0 : Int) ≤ 64 ∧ (64 : Int) ≤ Memory.allocationLimit ∧
      (Source.assemble 64 ["SETALL", "WAIT 300"]).stop = some 2 ∧
      ∃ m' t ws, (load ["SETALL", "WAIT 300"]).run freshSixtyFour = .ok false m' ∧
        (load (["SETALL", "WAIT 300"].take (2 - 1))).run freshSixtyFour = .ok true t ∧
        ["SETALL", "WAIT 300"][2 - 1]?.bind Source.words? = some ws ∧
        t.ram.DiffersWithin
          (Source.slot 64 (Source.assemble 64 (["SETALL", "WAIT 300"].take (2 - 1))).ptr
            (lineTally ws).1) m'.ram := by
  have sized : ((freshSixtyFour.ram.size : Nat) : Int) = 64 := by decide
  have small : (64 : Int) ≤ Memory.wordHalf := by decide
  have unfit : Source.fits 64 63 (lineTally ["WAIT", "300"]).1 = false := by decide +kernel
  have low : (0 : Int) ≤ 64 := by decide
  have high : (64 : Int) ≤ Memory.allocationLimit := by decide
  have stopped : (Source.assemble 64 ["SETALL", "WAIT 300"]).stop = some 2 := by decide +kernel
  exact ⟨sized, small, unfit,
    load_writes_only_slots.2.1 2 ["WAIT", "300"] ⟨freshSixtyFour, 63⟩ sized small unfit,
    low, high, stopped,
    load_writes_only_slots.2.2.2 freshSixtyFour ["SETALL", "WAIT 300"] 2 low high stopped⟩

end Machine

end LedMachine
