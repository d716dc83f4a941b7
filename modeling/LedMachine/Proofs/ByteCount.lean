import LedMachine.Proofs.Reloading
import LedMachine.Window.Panels

/-!
# The byte counter against the assembler

The editor's byte counter reads a program's lines on its own: it skips what the assembler skips,
gives `EP` no bytes, and sizes an instruction by a table of commands of its own and, for a pixel
instruction, by the number of pieces of its operand text. The table lists exactly the instruction
set, each command with the width the assembler gives it (`lineTally_of_mnemonic`), so the two
readings agree. On a program that loads, every line
the counter reads is one the assembler understood, so the counter finds nothing malformed and
counts exactly the bytes of the instructions the layout places: it shows `n/R BYTES USED`, warning
at most that the program is over capacity. Without entry points the instructions lie one after
another from address 0, so `n` is the final load pointer and that warning never comes either.

Showing the program counter brings the byte counter up to date in the same way.
-/

namespace LedMachine

namespace Opcode

theorem width_pairs {op : Opcode} (pixels : op.takesPairs = true) (n : Nat) :
    op.width n = 2 + 2 * n := by
  cases op <;> simp_all [takesPairs, width]

end Opcode

namespace Source

/-- A list that an operation maps without failing: every element passed, and each gave one
result. -/
theorem forall_of_mapM_ok {α β ε : Type} {f : α → Except ε β} {P : α → Prop}
    (passes : ∀ a b, f a = .ok b → P a) {xs : List α} {ys : List β}
    (mapped : xs.mapM f = .ok ys) : (∀ a ∈ xs, P a) ∧ ys.length = xs.length := by
  induction xs generalizing ys with
  | nil =>
    cases mapped
    exact ⟨fun _ no => (by cases no), rfl⟩
  | cons x xs ih =>
    rw [List.mapM_cons] at mapped
    cases first : f x with
    | error e =>
      rw [first] at mapped
      cases mapped
    | ok y =>
      cases later : xs.mapM f with
      | error e =>
        rw [first, later] at mapped
        cases mapped
      | ok ys' =>
        rw [first, later] at mapped
        cases mapped
        obtain ⟨each, len⟩ := ih later
        exact ⟨List.forall_mem_cons.mpr ⟨passes x y first, each⟩, by simp [len]⟩

theorem length_of_readPair {piece : String} {q : Int × Int} (read : readPair piece = some q) :
    (Text.wordsOf piece).length = 2 := by
  unfold readPair at read
  split at read
  · simp [*]
  · cases read

/-- The pairs of a pixel instruction that reads: every piece of its operand text is two words,
and each is one pair. -/
theorem pieces_of_readPairs {operands : List String} {ps : List (Int × Int)}
    (read : readPairs operands = .ok ps) :
    (∀ piece ∈ pairPieces operands, (Text.wordsOf piece).length = 2) ∧
      ps.length = (pairPieces operands).length :=
  forall_of_mapM_ok (fun _ _ parsed => by
    split at parsed
    · exact length_of_readPair (by assumption)
    · cases parsed) read

theorem stmt?_entry_words {size v : Int} {ws : List String}
    (made : stmt? size ws = some (.entry v)) :
    ∃ rest, ws = "EP" :: rest := by
  match ws, made with
  | cmd :: rest, made =>
    by_cases entry : cmd = "EP"
    · exact ⟨rest, by rw [entry]⟩
    · simp only [stmt?, entry, if_false, Option.bind_eq_some_iff,
        Option.map_eq_some_iff] at made
      obtain ⟨_, -, _, -, made⟩ := made
      cases made

end Source

/-! ## The counter's table against the instruction set -/

/-- The counter's table sizes every instruction as the assembler does: `SET` and `CLEAR` are the
pixel instructions, and every other instruction is listed in the set of its width. -/
theorem counted_of_mnemonic {cmd : String} {op : Opcode} (known : Opcode.ofMnemonic? cmd = some op) :
    pairCommands.contains cmd = op.takesPairs ∧
      (op.takesPairs = false → fixedBytes? cmd = some (op.width 0)) := by
  have named : op.mnemonic = cmd := by simpa using List.find?_some known
  subst named
  cases op <;> decide +kernel

/-- The counter's table lists no command that is no instruction. -/
theorem uncounted_of_unknown {cmd : String} (unknown : Opcode.ofMnemonic? cmd = none) :
    pairCommands.contains cmd = false ∧ fixedBytes? cmd = none := by
  have listed : ∀ s ∈ pairCommands ++ fixedCommands.flatMap Prod.fst,
      (Opcode.ofMnemonic? s).isSome := by
    decide +kernel
  have unlisted : cmd ∉ pairCommands ++ fixedCommands.flatMap Prod.fst := fun mem => by
    have named := listed cmd mem
    rw [unknown] at named
    cases named
  refine ⟨?_, ?_⟩
  · cases paired : pairCommands.contains cmd
    · rfl
    · exact absurd (List.mem_append_left _ (List.contains_iff_mem.mp paired)) unlisted
  · cases found : fixedBytes? cmd with
    | none => rfl
    | some n =>
      unfold fixedBytes? at found
      obtain ⟨row, chosen, -⟩ := Option.map_eq_some_iff.mp found
      have picked := List.find?_some chosen
      have inRow : cmd ∈ row.1 := List.contains_iff_mem.mp picked
      exact absurd (List.mem_append_right _
        (List.mem_flatMap.mpr ⟨row, List.mem_of_find?_eq_some chosen, inRow⟩)) unlisted

/-- The counter reads a line of an instruction as the assembler sizes it: a pixel instruction by
the pieces of its operand text that are pairs, any other by its width. -/
theorem lineTally_of_mnemonic {cmd : String} {rest : List String} {op : Opcode} (ep : cmd ≠ "EP")
    (known : Opcode.ofMnemonic? cmd = some op) :
    lineTally (cmd :: rest) =
      if op.takesPairs then
        let pieces := Source.pairPieces rest
        let pairs := pieces.filter fun p => (Text.wordsOf p).length = 2
        if pairs.isEmpty then (0, true) else (op.width pairs.length, pairs.length != pieces.length)
      else (op.width 0, false) := by
  obtain ⟨paired, sized⟩ := counted_of_mnemonic known
  cases pixels : op.takesPairs
  · rw [pixels] at paired
    simp only [lineTally, ep, paired, sized pixels, if_false, Bool.false_eq_true]
  · rw [pixels] at paired
    simp only [lineTally, ep, paired, Opcode.width_pairs pixels, if_false, if_true]

/-- A line of a command that is no instruction is malformed and takes no bytes. -/
theorem lineTally_of_unknown {cmd : String} {rest : List String} (ep : cmd ≠ "EP")
    (unknown : Opcode.ofMnemonic? cmd = none) : lineTally (cmd :: rest) = (0, true) := by
  obtain ⟨paired, unsized⟩ := uncounted_of_unknown unknown
  simp only [lineTally, ep, paired, unsized, if_false, Bool.false_eq_true]

/-- An entry line takes no bytes. -/
theorem lineTally_of_entry {size v : Int} {ws : List String}
    (made : Source.stmt? size ws = some (.entry v)) : lineTally ws = (0, false) := by
  obtain ⟨rest, rfl⟩ := Source.stmt?_entry_words made
  rfl

/-- A line the assembler reads as an instruction takes the bytes of that instruction, and the
counter finds it well formed. -/
theorem lineTally_of_instr {size : Int} {ws : List String} {i : Instr}
    (made : Source.stmt? size ws = some (.instr i)) : lineTally ws = (i.size, false) := by
  match ws, made with
  | cmd :: rest, made =>
    by_cases entry : cmd = "EP"
    · simp only [Source.stmt?, entry, if_true, Option.bind_eq_some_iff] at made
      obtain ⟨v, -, made⟩ := made
      split at made <;> cases made
    · simp only [Source.stmt?, entry, if_false, Option.bind_eq_some_iff,
        Option.map_eq_some_iff] at made
      obtain ⟨op, found, i', parsed, same⟩ := made
      cases same
      rw [lineTally_of_mnemonic entry found]
      cases pixels : op.takesPairs with
      | false =>
        obtain ⟨vs, read, -, rfl⟩ := Source.instr?_fixed_eq_some pixels parsed
        simp [Opcode.width_zero pixels, Source.length_of_numerals? read]
      | true =>
        -- every piece is a pair, so the counter keeps them all and sees as many as the loader
        obtain ⟨ps, read, ⟨nonempty, -, -⟩, rfl⟩ := Source.instr?_pixels_eq_some pixels parsed
        rw [List.tail_cons] at read
        obtain ⟨two, len⟩ := Source.pieces_of_readPairs read
        have kept : (Source.pairPieces rest).filter (fun p => (Text.wordsOf p).length = 2) =
            Source.pairPieces rest :=
          List.filter_eq_self.mpr fun p mem => by simpa using two p mem
        have occupied : (Source.pairPieces rest).isEmpty = false := by
          rw [List.isEmpty_eq_false_iff, ← List.length_pos_iff, ← len]
          exact nonempty
        rw [Source.size_pixels, len]
        simp [kept, occupied, Opcode.width_pairs pixels]

namespace Tally

/-- Counting the words of a line, if it has any. -/
def addWords (t : Tally) : Option (List String) → Tally
  | none => t
  | some ws =>
    let (n, bad) := lineTally ws
    { bytes := t.bytes + n, malformed := t.malformed || bad }

/-- Counting one line of a program text. -/
def addLine (t : Tally) (raw : String) : Tally := t.addWords (Source.words? raw)

section Fold

-- `tally` folds the same step written in place; held folded, the words of a line are not computed
-- while the two steps are compared
attribute [local irreducible] Source.words?

theorem tally_eq (text : String) : tally text = (Source.lines text).foldl addLine {} := rfl

end Fold

variable {t : Tally} {raw : String} {size : Int} {ws : List String}

theorem addLine_blank (blank : Source.words? raw = none ∨ Source.words? raw = some []) :
    t.addLine raw = t := by
  rcases blank with found | found <;> simp [addLine, addWords, found, lineTally]

theorem addLine_entry {v : Int} (found : Source.words? raw = some ws)
    (made : Source.stmt? size ws = some (.entry v)) : t.addLine raw = t := by
  simp [addLine, addWords, found, lineTally_of_entry made]

theorem addLine_instr {i : Instr} (found : Source.words? raw = some ws)
    (made : Source.stmt? size ws = some (.instr i)) :
    t.addLine raw = { t with bytes := t.bytes + i.size } := by
  simp [addLine, addWords, found, lineTally_of_instr made]

/-- A well-formed count in a memory of a size that has a floating-point value: the count against
the size, with the warning that the program does not fit. -/
theorem label_of_wellFormed (clean : t.malformed = false) (low : 0 ≤ size)
    (finite : size < floatLimit) :
    t.label (.number size) =
      (toString t.bytes ++ "/" ++ toString size ++ " BYTES USED" ++
        (if size < t.bytes then " - OVER CAPACITY!" else ""),
        decide (5 * (t.bytes : Int) ≤ 4 * size)) := by
  have counted : ¬floatLimit ≤ size := Int.not_le.mpr finite
  by_cases exceeds : size < t.bytes
  · have crowded : ¬5 * (t.bytes : Int) ≤ 4 * size := by omega
    simp [label, clean, exceeds, crowded, SizeValue.render]
  · simp [label, clean, exceeds, counted, SizeValue.render]

end Tally

/-- The bytes the instructions of a layout take. -/
def Layout.used (lay : Layout) : Nat := lay.placed.foldr (fun pl n => pl.instr.size + n) 0

namespace Source

/-- One line of a layout that stops at no line: it holds nothing, sets an entry point, or places
an instruction that fits. -/
theorem layout_cons_of_stop {size : Int} {n : Nat} {p : Int} {raw : String} {rest : List String}
    (accepted : (layout size n p (raw :: rest)).stop = none) :
    ((words? raw = none ∨ words? raw = some []) ∧
        layout size n p (raw :: rest) = layout size (n + 1) p rest) ∨
      (∃ ws v, words? raw = some ws ∧ stmt? size ws = some (.entry v) ∧
        layout size n p (raw :: rest) =
          { layout size (n + 1) v rest with
            entries := v :: (layout size (n + 1) v rest).entries }) ∨
      (∃ ws i, words? raw = some ws ∧ stmt? size ws = some (.instr i) ∧
        fits size p i.size = true ∧
        layout size n p (raw :: rest) =
          { layout size (n + 1) (p + i.size) rest with
            placed := ⟨n, p, i⟩ :: (layout size (n + 1) (p + i.size) rest).placed }) := by
  -- each case opens the layout once, by its definition, and reads the line as the case says
  cases found : words? raw with
  | none => exact .inl ⟨.inl rfl, by rw [layout.eq_def]; simp only [found]⟩
  | some ws =>
    cases ws with
    | nil => exact .inl ⟨.inr rfl, by rw [layout.eq_def]; simp only [found]⟩
    | cons cmd more =>
      cases made : stmt? size (cmd :: more) with
      | none =>
        rw [layout.eq_def] at accepted
        simp only [found, made, reduceCtorEq] at accepted
      | some st =>
        cases st with
        | entry v =>
          exact .inr (.inl ⟨_, v, rfl, made, by rw [layout.eq_def]; simp only [found, made]⟩)
        | instr i =>
          cases fit : fits size p i.size with
          | false =>
            rw [layout.eq_def] at accepted
            simp only [found, made, fit, Bool.false_eq_true, if_false, reduceCtorEq] at accepted
          | true =>
            exact .inr (.inr ⟨_, i, rfl, made, fit,
              by rw [layout.eq_def]; simp only [found, made, fit, if_true]⟩)


/-- Counting the lines of a layout that stops at no line adds the bytes of its instructions and
finds nothing malformed. -/
theorem foldl_addLine_layout {size : Int} (n : Nat) (p : Int) (L : List String) (t : Tally)
    (accepted : (layout size n p L).stop = none) :
    L.foldl Tally.addLine t = { t with bytes := t.bytes + (layout size n p L).used } := by
  induction L generalizing n p t with
  | nil => rfl
  | cons raw rest ih =>
    rw [List.foldl_cons]
    rcases layout_cons_of_stop accepted with
      ⟨blank, same⟩ | ⟨ws, v, found, made, same⟩ | ⟨ws, i, found, made, -, same⟩
    · rw [same] at accepted ⊢
      rw [Tally.addLine_blank blank]
      exact ih (n + 1) p t accepted
    · rw [same] at accepted ⊢
      rw [Tally.addLine_entry found made]
      exact ih (n + 1) v t accepted
    · rw [same] at accepted ⊢
      rw [Tally.addLine_instr found made, ih (n + 1) (p + i.size) _ accepted]
      simp [Layout.used, Nat.add_assoc]

/-- The load pointer of a layout that stops at no line stays within memory. -/
theorem ptr_layout_le {size : Int} (n : Nat) (p : Int) (L : List String) (low : p ≤ size)
    (accepted : (layout size n p L).stop = none) : (layout size n p L).ptr ≤ size := by
  induction L generalizing n p with
  | nil => exact low
  | cons raw rest ih =>
    rcases layout_cons_of_stop accepted with
      ⟨-, same⟩ | ⟨ws, v, -, made, same⟩ | ⟨ws, i, -, -, fit, same⟩
    · rw [same] at accepted ⊢
      exact ih (n + 1) p low accepted
    · rw [same] at accepted ⊢
      exact ih (n + 1) v (Int.le_of_lt (stmt?_entry_lt made)) accepted
    · rw [same] at accepted ⊢
      exact ih (n + 1) (p + i.size) (fits_eq_true.mp fit).2 accepted

/-- Without entry points, the instructions of a layout that stops at no line lie one after
another: the load pointer ends as far past its start as they take bytes. -/
theorem ptr_layout_unentered {size : Int} (n : Nat) (p : Int) (L : List String)
    (accepted : (layout size n p L).stop = none)
    (unentered : ∀ raw ∈ L, ∀ rest, words? raw ≠ some ("EP" :: rest)) :
    (layout size n p L).ptr = p + (layout size n p L).used := by
  induction L generalizing n p with
  | nil => exact (Int.add_zero p).symm
  | cons raw rest ih =>
    have later : ∀ raw ∈ rest, ∀ more, words? raw ≠ some ("EP" :: more) :=
      fun raw mem => unentered raw (List.mem_cons_of_mem _ mem)
    rcases layout_cons_of_stop accepted with
      ⟨-, same⟩ | ⟨ws, v, found, made, -⟩ | ⟨ws, i, -, -, -, same⟩
    · rw [same] at accepted ⊢
      exact ih (n + 1) p accepted later
    · obtain ⟨more, rfl⟩ := stmt?_entry_words made
      exact absurd found (unentered raw List.mem_cons_self more)
    · rw [same] at accepted ⊢
      have placed := ih (n + 1) (p + i.size) accepted later
      simp only [Layout.used, List.foldr_cons] at placed ⊢
      omega

end Source

namespace Machine

/-- A program that loads is laid out to its end, in a memory of an allocatable size. -/
theorem stop_of_load_accepts {L : List String} {m t : Machine}
    (loaded : (load L).run m = .ok true t) :
    0 ≤ m.size ∧ m.size ≤ Memory.allocationLimit ∧ (Source.assemble m.size L).stop = none := by
  obtain ⟨-, -, -, low, high⟩ := (yields_load L m).of_ok loaded
  obtain ⟨cells, small⟩ := cleared_cells low high
  have follows := Loader.lines_follow 1 L ⟨m.cleared, 0⟩ cells small
  rcases run : Loader.lines 1 L ⟨m.cleared, 0⟩ with ⟨l, failure⟩
  rw [run] at follows
  rw [run_load low high run] at loaded
  cases failure with
  | none =>
    have stop : (none : Option (Nat × LineError)).map Prod.fst = (Source.assemble m.size L).stop :=
      follows.stop
    exact ⟨low, high, stop.symm⟩
  | some f => cases loaded

end Machine

/-- Every allocatable size has a floating-point value. -/
theorem allocationLimit_lt_floatLimit : (Memory.allocationLimit : Int) < floatLimit := by
  decide +kernel

namespace Window

theorem run_showByteCount (w : Window) :
    showByteCount.run w = .ok () { w with
      counterText := ((tally w.editor).label w.sizeValue).1
      counterFits := some ((tally w.editor).label w.sizeValue).2 } :=
  rfl

/-- On a program that loads, the byte counter counts the bytes of the instructions the assembler
places and finds nothing malformed: it reads `n/R BYTES USED`, with at most the warning that the
program is over capacity. Without entry points `n` is the final load pointer and no warning comes.
Showing the program counter updates the counter as showing the count does. -/
theorem byte_counter_agrees_with_layout :
    (∀ (w : Window) (m t : Machine), w.sizeValue = .number m.size →
      (Machine.load (Source.lines w.editor)).run m = .ok true t →
      tally w.editor =
          { bytes := (Source.assemble m.size (Source.lines w.editor)).used, malformed := false } ∧
        showByteCount.run w = .ok () { w with
          counterText := toString (tally w.editor).bytes ++ "/" ++ toString m.size ++
            " BYTES USED" ++ if m.size < (tally w.editor).bytes then " - OVER CAPACITY!" else ""
          counterFits := some (decide (5 * ((tally w.editor).bytes : Int) ≤ 4 * m.size)) } ∧
        ((∀ raw ∈ Source.lines w.editor, ∀ rest, Source.words? raw ≠ some ("EP" :: rest)) →
          ((tally w.editor).bytes : Int) = (Source.assemble m.size (Source.lines w.editor)).ptr ∧
            showByteCount.run w = .ok () { w with
              counterText := toString (tally w.editor).bytes ++ "/" ++ toString m.size ++
                " BYTES USED"
              counterFits := some (decide (5 * ((tally w.editor).bytes : Int) ≤ 4 * m.size)) })) ∧
      ∀ w : Window, ∃ v, showByteCount.run w = .ok () v ∧
        showCounter.run w = .ok () { v with pcText := pcLabel w.machine } := by
  refine ⟨fun w m t sized loaded => ?_, fun w => ⟨_, rfl, rfl⟩⟩
  obtain ⟨low, high, accepted⟩ := Machine.stop_of_load_accepts loaded
  have counted : tally w.editor =
      { bytes := (Source.assemble m.size (Source.lines w.editor)).used, malformed := false } := by
    rw [Tally.tally_eq, Source.assemble, Source.foldl_addLine_layout 1 0 _ {} accepted]
    simp
  have finite : m.size < floatLimit := Int.lt_of_le_of_lt high allocationLimit_lt_floatLimit
  have clean : (tally w.editor).malformed = false := by rw [counted]
  have label := Tally.label_of_wellFormed clean low finite
  have shown := run_showByteCount w
  rw [sized, label] at shown
  refine ⟨counted, shown, fun unentered => ?_⟩
  have ptr :
      ((tally w.editor).bytes : Int) = (Source.assemble m.size (Source.lines w.editor)).ptr := by
    rw [counted, Source.assemble, Source.ptr_layout_unentered 1 0 _ accepted unentered]
    simp
  have fits : ¬m.size < (tally w.editor).bytes := by
    have within := Source.ptr_layout_le 1 0 (Source.lines w.editor) low accepted
    rw [← Source.assemble, ← ptr] at within
    omega
  refine ⟨ptr, ?_⟩
  rw [shown, if_neg fits, String.append_empty]

/-- A window over a sixteen-byte machine whose editor holds a pixel line in lower case, an
indented instruction and a comment. -/
def countedWindow : Window :=
  { machine := { size := 16, ram := Memory.zeros 16, scratch := freshScratch }
    editor := "set 1 2, 3 4\n  SETALL\n# done" }

theorem byte_counter_agrees_with_layout_sample :
    countedWindow.sizeValue = .number countedWindow.machine.size ∧
      (∀ raw ∈ Source.lines countedWindow.editor, ∀ rest,
        Source.words? raw ≠ some ("EP" :: rest)) ∧
      ∃ t, (Machine.load (Source.lines countedWindow.editor)).run countedWindow.machine =
          .ok true t ∧
        tally countedWindow.editor = { bytes := 7, malformed := false } ∧
        (Source.assemble countedWindow.machine.size (Source.lines countedWindow.editor)).ptr = 7 ∧
        showByteCount.run countedWindow =
          .ok () { countedWindow with
            counterText := "7/16 BYTES USED", counterFits := some true } := by
  have split : Source.lines countedWindow.editor = ["set 1 2, 3 4", "  SETALL", "# done"] := by
    simp +decide [countedWindow, Source.lines, String.splitOn, String.splitOnAux]
  have read : ["set 1 2, 3 4", "  SETALL", "# done"].map Source.words? =
      [some ["SET", "1", "2,", "3", "4"], some ["SETALL"], none] := by
    decide +kernel
  have unentered : ∀ raw ∈ Source.lines countedWindow.editor, ∀ rest,
      Source.words? raw ≠ some ("EP" :: rest) := by
    intro raw mem rest found
    rw [split] at mem
    have listed := List.mem_map_of_mem (f := Source.words?) mem
    rw [read, found] at listed
    simp at listed
  have accepts : Yields (Machine.load (Source.lines countedWindow.editor)) countedWindow.machine
      (fun accepted _ => accepted = true) fun _ _ => False := by
    rw [split]
    decide +kernel
  cases run : (Machine.load (Source.lines countedWindow.editor)).run countedWindow.machine with
  | error e t => exact (accepts.of_error run).elim
  | ok accepted t =>
    obtain rfl : accepted = true := accepts.of_ok run
    obtain ⟨counted, -, later⟩ := byte_counter_agrees_with_layout.1 countedWindow _ t rfl run
    obtain ⟨ptr, shown⟩ := later unentered
    have seven :
        (Source.assemble countedWindow.machine.size (Source.lines countedWindow.editor)).used =
          7 := by
      rw [split]
      decide +kernel
    rw [counted, seven] at ptr shown
    refine ⟨rfl, unentered, t, rfl, by rw [counted, seven], ptr.symm, ?_⟩
    rw [shown]
    rfl

end Window

end LedMachine
