import LedMachine.Proofs.Loading

/-!
# What loading accepts

Loading a program on a machine whose memory can be allocated never ends in a fault. It accepts
the program exactly when the program's layout stops at no line, and otherwise leaves an alarm
naming the first line that fails, lines counted from 1 with blank and comment lines included.

Loading first clears the alarm and resets the machine; `Machine.cleared` is the machine it then
finds, and `run_load` says what loading returns in terms of the lines loaded from there.
-/

namespace LedMachine

namespace Memory

/-- A size from zero to the allocation limit is allocated as that many zero cells. -/
theorem alloc_of_within {n : Int} (low : 0 ≤ n) (high : n ≤ allocationLimit) :
    alloc n = .ok (zeros n.toNat) := by
  have below : (allocationLimit : Int) < wordHalf := by decide
  have word : fitsWord n = true := by
    simp only [fitsWord, decide_eq_true_eq]
    omega
  simp only [alloc, word, Bool.not_true, Bool.false_eq_true, if_false]
  rw [if_neg (by omega), if_neg (by omega)]

end Memory

namespace Machine

/-- The machine after the reset that starts loading: the counter at the entry point, no wait, a
fresh memory of zeros, a dark grid, stopped, no alarm and an empty line map. -/
def cleared (m : Machine) : Machine :=
  { m with
    pc := m.entry
    delay := 0
    ram := Memory.zeros m.size.toNat
    grid := Grid.dark
    running := false
    alarm := none
    lines := some LineMap.empty }

@[simp]
theorem cleared_alarm (m : Machine) (a : Option Alarm) :
    ({ m with alarm := a } : Machine).cleared = m.cleared := rfl

/-- A reset of a machine whose memory can be allocated leaves it cleared. -/
theorem yields_reset_bind {α : Type} {ok : α → Machine → Prop} {err : Fault → Machine → Prop}
    (m : Machine) (low : 0 ≤ m.size) (high : m.size ≤ Memory.allocationLimit)
    (f : Unit → MachineM α) :
    Yields (reset >>= f) m ok err ↔ Yields (f ()) m.cleared ok err := by
  unfold reset
  simp only [bind_assoc, yields_modify_bind, yields_get_bind, yields_liftFault_bind,
    Memory.alloc_of_within low high, yields_set_bind, reduceCtorEq, false_imp_iff, implies_true,
    Except.ok.injEq, forall_eq', true_and]
  exact Iff.rfl

section Allocatable

variable {m : Machine} (low : 0 ≤ m.size) (high : m.size ≤ Memory.allocationLimit)
include low high

theorem run_load {L : List String} {l : Loader} {failure : Option (Nat × LineError)}
    (run : Loader.lines 1 L ⟨m.cleared, 0⟩ = (l, failure)) :
    (load L).run m =
      match failure with
      | some (line, e) => .ok false { l.machine with alarm := some (.badLine line e) }
      | none => .ok true { l.machine with pc := l.machine.entry } := by
  -- loading has a single outcome either way; it is read off one bind at a time
  cases failure <;>
  · apply Yields.run_eq
    unfold load
    rw [yields_modify_bind, yields_reset_bind { m with alarm := none } low high, yields_get_bind,
      cleared_alarm, run]
    exact ⟨rfl, rfl⟩

/-- The loader loading starts from: its cells are counted by the declared size, which fits a
word. -/
theorem cleared_cells :
    ((m.cleared.ram.size : Nat) : Int) = m.cleared.size ∧ m.cleared.size ≤ Memory.wordHalf := by
  have below : (Memory.allocationLimit : Int) < Memory.wordHalf := by decide
  simp only [cleared, Memory.size_zeros]
  omega

/-- Loading never fails, accepts a program exactly when its layout stops at no line, and
otherwise leaves the alarm "Error on line n: ..." for the line `n` where the layout stops. -/
theorem load_accepts_layout (L : List String) :
    ∃ accepted m', (load L).run m = .ok accepted m' ∧
      (accepted = true ↔ (Source.assemble m.size L).stop = none) ∧
      ∀ n, (Source.assemble m.size L).stop = some n →
        ∃ e, m'.alarm = some (.badLine n e) ∧
          m'.alarm.map Alarm.message = some ("Error on line " ++ toString n ++ ": " ++ e.message) := by
  obtain ⟨cells, small⟩ := cleared_cells low high
  have follows := Loader.lines_follow 1 L ⟨m.cleared, 0⟩ cells small
  rcases run : Loader.lines 1 L ⟨m.cleared, 0⟩ with ⟨l, failure⟩
  rw [run] at follows
  rw [run_load low high run]
  -- the layout from the cleared machine is the program's layout: the size is the same
  have stop : failure.map Prod.fst = (Source.assemble m.size L).stop := follows.stop
  cases failure with
  | none =>
    refine ⟨true, _, rfl, ⟨fun _ => stop.symm, fun _ => rfl⟩, fun n stopped => ?_⟩
    rw [stopped] at stop
    cases stop
  | some f =>
    obtain ⟨line, e⟩ := f
    refine ⟨false, _, rfl, ⟨(fun no => by cases no), fun accepted => ?_⟩, fun n stopped => ?_⟩
    · rw [accepted] at stop
      cases stop
    · rw [stopped] at stop
      cases stop
      exact ⟨e, rfl, rfl⟩

end Allocatable

theorem load_accepts_layout_sample :
    (0 : Int) ≤ 16 ∧ (16 : Int) ≤ Memory.allocationLimit ∧
      ∃ accepted m', (load ["EP 2", "STORE 3 300"]).run
          { size := 16, ram := Memory.zeros 16, scratch := freshScratch } = .ok accepted m' ∧
        (accepted = true ↔ (Source.assemble 16 ["EP 2", "STORE 3 300"]).stop = none) ∧
        ∀ n, (Source.assemble 16 ["EP 2", "STORE 3 300"]).stop = some n →
          ∃ e, m'.alarm = some (.badLine n e) ∧
            m'.alarm.map Alarm.message =
              some ("Error on line " ++ toString n ++ ": " ++ e.message) :=
  ⟨by decide, by decide, load_accepts_layout (by decide) (by decide) _⟩

end Machine

end LedMachine
