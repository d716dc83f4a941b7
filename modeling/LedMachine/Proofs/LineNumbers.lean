import Mathlib.Data.List.Nodup
import Mathlib.Data.List.Pairwise
import LedMachine.Proofs.RoundTrip

/-!
# The line map of a loaded program

Loading records in the line map, for every line it reads that is not blank, the load pointer the
line found and the line's number: an instruction line at its address, and an entry line too, at
the address where the next instruction would have gone before the line moves the load pointer.
A later line read at the same address replaces the earlier one. `Source.marks` lists these pairs
in the order of the lines, and the map of a program that loads sends every address to the line
that the list gives it last (`load_maps_address_to_last_line`).

Two instructions that occupy cells of their own never start at one address, so an instruction's
address keeps its line unless an entry line read later finds the load pointer there. That
happens when two entry lines follow each other, or when the pointer comes back to an address by
an entry line and the instructions after it: after `SETALL`, `EP 0`, `EP 0` the address of
`SETALL`, where the program starts, names the third line (`entry_lines_overwrite_line_map`).
-/

namespace LedMachine

namespace LineMap

/-- The line that entries, put in one after another, last give an address. -/
def lastAt (es : List (Int × Nat)) (a : Int) : Option Nat :=
  ((es.filter fun e => decide (e.1 = a)).getLast?).map Prod.snd

/-- The map with entries put in one after another. -/
def insertAll (m : LineMap) (es : List (Int × Nat)) : LineMap :=
  es.foldl (fun m e => m.insert e.1 e.2) m

theorem lookup_insertEntry_of_ne {addr b : Int} (line : Nat) (es : List (Int × Nat))
    (other : addr ≠ b) : (insertEntry addr line es).lookup b = es.lookup b := by
  have skip : (b == addr) = false := by simpa using Ne.symm other
  induction es with
  | nil => simp [insertEntry, List.lookup_cons, skip]
  | cons e rest ih =>
    obtain ⟨a, l⟩ := e
    simp only [insertEntry]
    split
    · simp [List.lookup_cons, skip]
    · split
      · rename_i same
        subst same
        simp [List.lookup_cons, skip]
      · simp only [List.lookup_cons, ih]

theorem find?_insert_eq_ite (m : LineMap) (a b : Int) (line : Nat) :
    (m.insert a line).find? b = if a = b then some line else m.find? b := by
  split
  · rename_i same
    subst same
    exact find?_insert m a line
  · exact lookup_insertEntry_of_ne line m.entries ‹_›

theorem lastAt_append (es fs : List (Int × Nat)) (a : Int) :
    lastAt (es ++ fs) a = (lastAt fs a).or (lastAt es a) := by
  unfold lastAt
  rw [List.filter_append, List.getLast?_append]
  cases (fs.filter fun e => decide (e.1 = a)).getLast? <;>
    cases (es.filter fun e => decide (e.1 = a)).getLast? <;> rfl

theorem lastAt_cons (e : Int × Nat) (es : List (Int × Nat)) (a : Int) :
    lastAt (e :: es) a = (lastAt es a).or (if e.1 = a then some e.2 else none) := by
  rw [← List.singleton_append, lastAt_append]
  by_cases here : e.1 = a <;> simp [lastAt, here]

theorem mem_of_lastAt {es : List (Int × Nat)} {a : Int} {k : Nat} (last : lastAt es a = some k) :
    (a, k) ∈ es := by
  obtain ⟨e, found, rfl⟩ := Option.map_eq_some_iff.mp last
  have mem := List.mem_filter.mp (List.mem_of_getLast? found)
  obtain ⟨a', k'⟩ := e
  simp only [decide_eq_true_eq] at mem
  obtain ⟨mem, rfl⟩ := mem
  exact mem

/-- Entries in increasing order of their lines give an address the latest of its lines. -/
theorem le_of_lastAt {es : List (Int × Nat)} (sorted : es.Pairwise (fun e f => e.2 < f.2))
    {a : Int} {j : Nat} (mem : (a, j) ∈ es) : ∃ k, lastAt es a = some k ∧ j ≤ k := by
  induction es with
  | nil => cases mem
  | cons e es ih =>
    obtain ⟨before, sorted⟩ := List.pairwise_cons.mp sorted
    rw [lastAt_cons]
    -- a later entry for the address wins, with a larger line
    cases later : lastAt es a with
    | some k =>
      refine ⟨k, rfl, ?_⟩
      rcases List.mem_cons.mp mem with rfl | mem
      · exact Nat.le_of_lt (before (a, k) (mem_of_lastAt later))
      · obtain ⟨k', found, le⟩ := ih sorted mem
        rw [later] at found
        cases found
        exact le
    | none =>
      rcases List.mem_cons.mp mem with rfl | mem
      · exact ⟨j, by simp, Nat.le_refl j⟩
      · obtain ⟨k', found, -⟩ := ih sorted mem
        rw [later] at found
        cases found

theorem find?_insertAll (m : LineMap) (es : List (Int × Nat)) (a : Int) :
    (m.insertAll es).find? a = (lastAt es a).or (m.find? a) := by
  induction es generalizing m with
  | nil => simp [insertAll, lastAt]
  | cons e es ih =>
    have step : m.insertAll (e :: es) = (m.insert e.1 e.2).insertAll es := rfl
    rw [step, ih, find?_insert_eq_ite, lastAt_cons]
    by_cases here : e.1 = a <;> cases lastAt es a <;> simp [here]

end LineMap

namespace Source

/-- The load pointer that each line found and the line's number, in order, for the lines read
before the first line that fails, blank and comment lines apart. An entry line records the load
pointer before it moves it. -/
def marks (size : Int) : Nat → Int → List String → List (Int × Nat)
  | _, _, [] => []
  | n, p, raw :: rest =>
    match words? raw with
    | none | some [] => marks size (n + 1) p rest
    | some ws =>
      match stmt? size ws with
      | some (.entry v) => (p, n) :: marks size (n + 1) v rest
      | some (.instr i) =>
        if fits size p i.size then (p, n) :: marks size (n + 1) (p + i.size) rest else []
      | none => []

/-- What one line adds to the marks and to the instructions of the layout: nothing, for a blank
line; its mark, for an entry line; its mark and its instruction, for an instruction that fits; and
the marks and the layout end at a line that fails. -/
theorem marks_cons (size : Int) (n : Nat) (p : Int) (raw : String) (rest : List String) :
    (marks size n p (raw :: rest) = marks size (n + 1) p rest ∧
        (layout size n p (raw :: rest)).placed = (layout size (n + 1) p rest).placed) ∨
      (∃ ws v, words? raw = some ws ∧ stmt? size ws = some (.entry v) ∧
        marks size n p (raw :: rest) = (p, n) :: marks size (n + 1) v rest ∧
        (layout size n p (raw :: rest)).placed = (layout size (n + 1) v rest).placed) ∨
      (∃ ws i, words? raw = some ws ∧ stmt? size ws = some (.instr i) ∧
        marks size n p (raw :: rest) = (p, n) :: marks size (n + 1) (p + i.size) rest ∧
        (layout size n p (raw :: rest)).placed =
          ⟨n, p, i⟩ :: (layout size (n + 1) (p + i.size) rest).placed) ∨
      (marks size n p (raw :: rest) = [] ∧ (layout size n p (raw :: rest)).placed = []) := by
  -- one step of both definitions in each case, through their definitional equations: their
  -- equations by cases are slow to generate
  cases found : words? raw with
  | none =>
    exact .inl ⟨by rw [marks.eq_def]; simp only [found], by rw [layout.eq_def]; simp only [found]⟩
  | some ws =>
    cases ws with
    | nil =>
      exact .inl ⟨by rw [marks.eq_def]; simp only [found], by rw [layout.eq_def]; simp only [found]⟩
    | cons w ws =>
      cases made : stmt? size (w :: ws) with
      | none =>
        exact .inr (.inr (.inr ⟨by rw [marks.eq_def]; simp only [found, made],
          by rw [layout.eq_def]; simp only [found, made]⟩))
      | some s =>
        cases s with
        | entry v =>
          exact .inr (.inl ⟨_, v, rfl, made, by rw [marks.eq_def]; simp only [found, made],
            by rw [layout.eq_def]; simp only [found, made]⟩)
        | instr i =>
          cases fit : fits size p i.size with
          | true =>
            exact .inr (.inr (.inl ⟨_, i, rfl, made,
              by rw [marks.eq_def]; simp only [found, made, fit, if_true],
              by rw [layout.eq_def]; simp only [found, made, fit, if_true]⟩))
          | false =>
            exact .inr (.inr (.inr
              ⟨by rw [marks.eq_def]; simp only [found, made, fit, Bool.false_eq_true, if_false],
                by rw [layout.eq_def]; simp only [found, made, fit, Bool.false_eq_true, if_false]⟩))

/-- Every mark is that of a line from the `n`-th on: an entry line, or an instruction line whose
instruction the layout places at the marked address. -/
theorem mem_marks {size : Int} {n : Nat} {p : Int} {L : List String} {e : Int × Nat}
    (mem : e ∈ marks size n p L) :
    n ≤ e.2 ∧ ∃ ws, L[e.2 - n]?.bind words? = some ws ∧
      ((∃ v, stmt? size ws = some (.entry v)) ∨
        ∃ i, stmt? size ws = some (.instr i) ∧ ⟨e.2, e.1, i⟩ ∈ (layout size n p L).placed) := by
  induction L generalizing n p with
  | nil => cases mem
  | cons raw rest ih =>
    -- a mark of a later line: its line counts one further into the program
    have later : ∀ q, e ∈ marks size (n + 1) q rest → n ≤ e.2 ∧ ∃ ws,
        (raw :: rest)[e.2 - n]?.bind words? = some ws ∧ ((∃ v, stmt? size ws = some (.entry v)) ∨
          ∃ i, stmt? size ws = some (.instr i) ∧
            ⟨e.2, e.1, i⟩ ∈ (layout size (n + 1) q rest).placed) := by
      intro q mem
      obtain ⟨after, ws, found, made⟩ := ih mem
      refine ⟨by omega, ws, ?_, made⟩
      rw [show e.2 - n = e.2 - (n + 1) + 1 by omega]
      simpa using found
    rcases marks_cons size n p raw rest with
      ⟨same, placed⟩ | ⟨ws, v, found, made, same, placed⟩ | ⟨ws, i, found, made, same, placed⟩ |
        ⟨stopped, -⟩
    · rw [same] at mem
      rw [placed]
      exact later p mem
    · rw [same] at mem
      rw [placed]
      rcases List.mem_cons.mp mem with rfl | mem
      · exact ⟨Nat.le_refl n, ws, by simpa using found, .inl ⟨v, made⟩⟩
      · exact later v mem
    · rw [same] at mem
      rw [placed]
      rcases List.mem_cons.mp mem with rfl | mem
      · exact ⟨Nat.le_refl n, ws, by simpa using found, .inr ⟨i, made, List.mem_cons_self⟩⟩
      · obtain ⟨low, ws', found', stands⟩ := later _ mem
        refine ⟨low, ws', found', ?_⟩
        rcases stands with entry | ⟨i', made', placed'⟩
        · exact .inl entry
        · exact .inr ⟨i', made', List.mem_cons_of_mem _ placed'⟩
    · rw [stopped] at mem
      cases mem

/-- Every instruction of the layout is marked at its address. -/
theorem mem_marks_of_placed {size : Int} {n : Nat} {p : Int} {L : List String} {pl : Placed}
    (mem : pl ∈ (layout size n p L).placed) : (pl.addr, pl.line) ∈ marks size n p L := by
  induction L generalizing n p with
  | nil => cases mem
  | cons raw rest ih =>
    rcases marks_cons size n p raw rest with
      ⟨same, placed⟩ | ⟨ws, v, -, -, same, placed⟩ | ⟨ws, i, -, -, same, placed⟩ | ⟨-, stopped⟩
    · rw [placed] at mem
      rw [same]
      exact ih mem
    · rw [placed] at mem
      rw [same]
      exact List.mem_cons_of_mem _ (ih mem)
    · rw [placed] at mem
      rw [same]
      rcases List.mem_cons.mp mem with rfl | mem
      · exact List.mem_cons_self
      · exact List.mem_cons_of_mem _ (ih mem)
    · rw [stopped] at mem
      cases mem

/-- The marks come in the order of their lines. -/
theorem marks_sorted (size : Int) (n : Nat) (p : Int) (L : List String) :
    (marks size n p L).Pairwise (fun e f => e.2 < f.2) := by
  induction L generalizing n p with
  | nil => exact List.Pairwise.nil
  | cons raw rest ih =>
    -- a line's mark comes before the marks of the lines after it, which count from `n + 1`
    have first : ∀ q, ((p, n) :: marks size (n + 1) q rest).Pairwise (fun e f => e.2 < f.2) :=
      fun q => List.pairwise_cons.mpr ⟨fun f mem => (mem_marks mem).1, ih (n + 1) q⟩
    rcases marks_cons size n p raw rest with
      ⟨same, -⟩ | ⟨ws, v, -, -, same, -⟩ | ⟨ws, i, -, -, same, -⟩ | ⟨stopped, -⟩
    · rw [same]
      exact ih (n + 1) p
    · rw [same]
      exact first v
    · rw [same]
      exact first _
    · rw [stopped]
      exact List.Pairwise.nil

end Source

namespace Loader

theorem lines_place (l : Loader) (line : Nat) (s : Stmt) :
    (l.place line s).machine.lines =
      some ((l.machine.lines.getD LineMap.empty).insert l.ptr line) := by
  cases s <;> rfl

/-- Loading lines that all load leaves in the line map the marks of the lines, put in one after
another, and the load pointer where their layout ends. -/
theorem lines_record_marks (n : Nat) (L : List String) (l : Loader)
    (cells : (l.machine.ram.size : Int) = l.machine.size) (small : l.machine.size ≤ Memory.wordHalf)
    {map : LineMap} (kept : l.machine.lines = some map) (loaded : (lines n L l).2 = none) :
    (lines n L l).1.machine.lines = some (map.insertAll (Source.marks l.machine.size n l.ptr L)) ∧
      (lines n L l).1.ptr = (Source.layout l.machine.size n l.ptr L).ptr := by
  induction L generalizing n l map with
  | nil => exact ⟨kept, rfl⟩
  | cons raw rest ih =>
    rw [lines.eq_def] at loaded ⊢
    rw [Source.marks.eq_def, Source.layout.eq_def]
    dsimp only at loaded ⊢
    cases found : Source.words? raw with
    | none =>
      simp only [found] at loaded ⊢
      exact ih (n + 1) l cells small kept loaded
    | some ws =>
      cases ws with
      | nil =>
        simp only [found, words] at loaded ⊢
        exact ih (n + 1) l cells small kept loaded
      | cons w ws =>
        have loads := yields_words n cells small (List.cons_ne_nil w ws)
        simp only [found] at loaded ⊢
        cases run : (words n (w :: ws)).run l with
        | ok u l' =>
          obtain ⟨s, made, fits, rfl⟩ := loads.of_ok run
          rw [run] at loaded
          have next := ih (n + 1) (l.place n s) (by simpa using cells) (by simpa using small)
            (by rw [lines_place, kept, Option.getD_some]) loaded
          rw [size_place] at next
          -- the line's own mark goes in first, and the pointer moves as the line says
          cases s with
          | entry v =>
            simp only [made]
            exact next
          | instr i =>
            simp only [Stmt.fitsAt] at fits
            simp only [made, fits, if_true]
            exact next
        | error e l' =>
          rw [run] at loaded
          cases loaded

end Loader

namespace Machine

/-- Loading a program that loads leaves in the line map the marks of its lines, put in one after
another into an empty map. -/
theorem load_records_marks (m : Machine) (L : List String) (low : 0 ≤ m.size)
    (high : m.size ≤ Memory.allocationLimit) (accepted : (Source.assemble m.size L).stop = none) :
    ∃ m', (load L).run m = .ok true m' ∧
      m'.lines = some (LineMap.empty.insertAll (Source.marks m.size 1 0 L)) := by
  obtain ⟨cells, small⟩ := cleared_cells low high
  have follows := Loader.lines_follow 1 L ⟨m.cleared, 0⟩ cells small
  rcases run : Loader.lines 1 L ⟨m.cleared, 0⟩ with ⟨l, failure⟩
  have recorded := Loader.lines_record_marks 1 L ⟨m.cleared, 0⟩ cells small rfl
  rw [run] at follows recorded
  have loaded : failure = none := by
    have stop : failure.map Prod.fst = (Source.assemble m.size L).stop := follows.stop
    rw [accepted, Option.map_eq_none_iff] at stop
    exact stop
  subst loaded
  exact ⟨_, run_load low high run, (recorded rfl).1⟩

/-- Two instructions of a layout whose instructions occupy cells of their own start at different
addresses. -/
theorem addr_ne_of_distinct {size : Int} {ps : List Placed}
    (distinct : (ps.flatMap (Placed.cells size.toNat)).Nodup)
    (fit : ∀ q ∈ ps, Source.fits size q.addr q.instr.size = true)
    {pl pl' : Placed} (mem : pl ∈ ps) (mem' : pl' ∈ ps) (other : pl ≠ pl') :
    pl.addr ≠ pl'.addr := by
  intro same
  have apart := (List.nodup_flatMap.mp distinct).2
  have : Std.Symm (Function.onFun List.Disjoint (Placed.cells size.toNat)) :=
    ⟨fun _ _ d => List.disjoint_symm d⟩
  have disjoint : List.Disjoint (pl.cells size.toNat) (pl'.cells size.toNat) :=
    apart.forall mem mem' other
  -- both start with the cell their address names
  obtain ⟨low, high⟩ := Source.fits_eq_true.mp (fit pl mem)
  have named : Memory.position? size.toNat pl.addr = some (pl.addr % (size.toNat : Int)).toNat :=
    Memory.position?_of_within (by omega) (by simp only [Instr.size] at high; omega)
  have first : ∀ q : Placed, q.addr = pl.addr → (pl.addr % (size.toNat : Int)).toNat ∈
      q.cells size.toNat := by
    intro q at_addr
    simp only [Placed.cells, Instr.size, Memory.mem_cellsOf]
    exact ⟨0, by omega, by rw [at_addr]; simpa using named⟩
  exact List.disjoint_left.mp disjoint (first pl rfl) (first pl' same.symm)

/-- The line map of a program that loads sends every address to the last line read with the load
pointer there, entry lines included, and names no other address. So when the instructions
occupy cells of their own, the address of each instruction names the instruction's line, or an
entry line read after it at the same address. -/
theorem load_maps_address_to_last_line (m : Machine) (L : List String) (low : 0 ≤ m.size)
    (high : m.size ≤ Memory.allocationLimit) (accepted : (Source.assemble m.size L).stop = none) :
    ∃ m', (load L).run m = .ok true m' ∧ m'.lines.isSome ∧
      (∀ a, (m'.lines.getD LineMap.empty).find? a = LineMap.lastAt (Source.marks m.size 1 0 L) a) ∧
      (((Source.assemble m.size L).placed.flatMap (Placed.cells m.size.toNat)).Nodup →
        ∀ pl ∈ (Source.assemble m.size L).placed, ∃ k,
          (m'.lines.getD LineMap.empty).find? pl.addr = some k ∧ pl.line ≤ k ∧
            (k = pl.line ∨ ∃ ws v, (pl.addr, k) ∈ Source.marks m.size 1 0 L ∧
              L[k - 1]?.bind Source.words? = some ws ∧ Source.stmt? m.size ws = some (.entry v))) := by
  obtain ⟨m', run, recorded⟩ := load_records_marks m L low high accepted
  have lookup : ∀ a, (m'.lines.getD LineMap.empty).find? a =
      LineMap.lastAt (Source.marks m.size 1 0 L) a := by
    intro a
    rw [recorded, Option.getD_some, LineMap.find?_insertAll]
    cases LineMap.lastAt (Source.marks m.size 1 0 L) a <;> rfl
  refine ⟨m', run, by simp [recorded], lookup, fun distinct pl mem => ?_⟩
  -- the instruction's own mark is at its address; the last mark there is at least as late
  obtain ⟨k, last, later⟩ := LineMap.le_of_lastAt (Source.marks_sorted m.size 1 0 L)
    (Source.mem_marks_of_placed mem)
  refine ⟨k, (lookup pl.addr).trans last, later, ?_⟩
  have marked := LineMap.mem_of_lastAt last
  obtain ⟨-, ws, found, stands⟩ := Source.mem_marks marked
  rcases stands with ⟨v, entry⟩ | ⟨i, -, placed⟩
  · exact .inr ⟨ws, v, marked, found, entry⟩
  · -- an instruction marked there is this one: another would share its first cell
    have placed : (⟨k, pl.addr, i⟩ : Placed) ∈ (Source.assemble m.size L).placed := placed
    by_cases same : (⟨k, pl.addr, i⟩ : Placed) = pl
    · exact .inl (congrArg Placed.line same)
    · have fit : ∀ q ∈ (Source.assemble m.size L).placed,
          Source.fits m.size q.addr q.instr.size = true :=
        fun q mem' => (Source.mem_placed_layout mem').1
      exact (addr_ne_of_distinct distinct fit placed mem same rfl).elim

/-- A new machine of 64 cells, as the window builds. -/
def freshSixtyFour : Machine := { size := 64, ram := Memory.zeros 64, scratch := freshScratch }

theorem load_maps_address_to_last_line_sample :
    (0 : Int) ≤ 64 ∧ (64 : Int) ≤ Memory.allocationLimit ∧
      (Source.assemble 64 ["EP 2", "SETALL", "EP 0", "WAIT 3", "EP 2"]).stop = none ∧
      ∃ m', (load ["EP 2", "SETALL", "EP 0", "WAIT 3", "EP 2"]).run freshSixtyFour = .ok true m' ∧
        m'.lines.isSome ∧
        (∀ a, (m'.lines.getD LineMap.empty).find? a =
          LineMap.lastAt (Source.marks 64 1 0 ["EP 2", "SETALL", "EP 0", "WAIT 3", "EP 2"]) a) ∧
        (((Source.assemble 64 ["EP 2", "SETALL", "EP 0", "WAIT 3", "EP 2"]).placed.flatMap
            (Placed.cells 64)).Nodup →
          ∀ pl ∈ (Source.assemble 64 ["EP 2", "SETALL", "EP 0", "WAIT 3", "EP 2"]).placed, ∃ k,
            (m'.lines.getD LineMap.empty).find? pl.addr = some k ∧ pl.line ≤ k ∧
              (k = pl.line ∨ ∃ ws v,
                (pl.addr, k) ∈ Source.marks 64 1 0 ["EP 2", "SETALL", "EP 0", "WAIT 3", "EP 2"] ∧
                ["EP 2", "SETALL", "EP 0", "WAIT 3", "EP 2"][k - 1]?.bind Source.words? = some ws ∧
                Source.stmt? 64 ws = some (.entry v))) :=
  ⟨by decide, by decide, by decide +kernel,
    load_maps_address_to_last_line freshSixtyFour _ (by decide) (by decide) (by decide +kernel)⟩

/-- The line map does not send every instruction's address to its line: after `SETALL`, `EP 0`,
`EP 0` on a machine of 64 cells the program loads, its one instruction occupies a cell of its own
at address 0, and yet address 0 names the third line. -/
theorem entry_lines_overwrite_line_map :
    (Source.assemble 64 ["SETALL", "EP 0", "EP 0"]).stop = none ∧
      ((Source.assemble 64 ["SETALL", "EP 0", "EP 0"]).placed.flatMap (Placed.cells 64)).Nodup ∧
      (Source.assemble 64 ["SETALL", "EP 0", "EP 0"]).placed = [⟨1, 0, ⟨.setAll, []⟩⟩] ∧
      Yields (load ["SETALL", "EP 0", "EP 0"]) freshSixtyFour
        (fun loaded t => loaded = true ∧ t.pc = 0 ∧ (t.lines.getD LineMap.empty).find? 0 = some 3)
        fun _ _ => False := by
  decide +kernel

end Machine

end LedMachine
