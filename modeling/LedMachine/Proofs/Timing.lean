import LedMachine.Proofs.Effects
import LedMachine.Proofs.Reloading
import LedMachine.Window.Panels

/-!
# The timing of waits

A wait is started by the instruction WAIT n, which sets both the steps still to wait and the
length of the wait to the byte n. Each later step then counts it down by one and does nothing
else, and the step that ends it clears its length. Loading and resetting end a wait and keep its
length.

`Machine.Timed` is the invariant of the two counts: the steps still to wait lie from zero to the
length of the wait, and the length is a byte. It holds of every session that a new machine goes
through when it loads, steps, runs and is reset (`Session.timed_of_runs`), so that the progress
of a wait under way, as the counter label shows it, lies from 1 to the length of the wait. And a
WAIT n stalls the machine for exactly n steps, after which it goes on past the instruction
(`Machine.stepTimes_wait`).
-/

namespace LedMachine

namespace Machine

/-- The steps still to wait lie from zero to the length of the wait, which is a byte. -/
structure Timed (m : Machine) : Prop where
  started : 0 ≤ m.delay
  within : m.delay ≤ m.activeDelay
  byte : m.activeDelay ≤ 255

/-- The invariant reads the two counts only. -/
theorem Timed.of_counts {m t : Machine} (timed : m.Timed) (delay : t.delay = m.delay)
    (active : t.activeDelay = m.activeDelay) : t.Timed :=
  ⟨delay ▸ timed.started, delay ▸ active ▸ timed.within, active ▸ timed.byte⟩

/-- Keeping the timing invariant: no part of an instruction but WAIT touches the two counts, and
WAIT sets both to a byte. -/
def timing : Track where
  rel m t := m.Timed → t.Timed
  refl _ := id
  trans first second := second ∘ first
  ram _ _ timed := timed.of_counts rfl rfl
  grid _ _ timed := timed.of_counts rfl rfl
  pc _ _ timed := timed.of_counts rfl rfl
  halt _ _ timed := timed.of_counts rfl rfl
  wait _ n byte _ := ⟨Int.natCast_nonneg n, Int.le_refl _, by dsimp only; omega⟩

/-- Counting a wait down keeps the invariant: the step that ends the wait clears its length. -/
theorem Timed.countDown {m : Machine} (timed : m.Timed) (waiting : 0 < m.delay) :
    Timed { m with delay := m.delay - 1,
                   activeDelay := if m.delay - 1 = 0 then 0 else m.activeDelay } := by
  obtain ⟨_, within, byte⟩ := timed
  by_cases finished : m.delay - 1 = 0
  · rw [if_pos finished]
    exact ⟨by dsimp only; omega, by dsimp only; omega, by dsimp only; omega⟩
  · rw [if_neg finished]
    exact ⟨by dsimp only; omega, by dsimp only; omega, byte⟩

theorem step_timed {m : Machine} (timed : m.Timed) :
    Yields step m (fun _ => Timed) (fun _ => Timed) :=
  (@step_tracks timing (by intro m waiting timed; exact timed.countDown waiting) m).mono
    (fun _ _ kept => kept.1.elim fun _ keeps => (keeps timed).of_counts rfl rfl)
    (fun _ _ keeps => keeps timed)

/-- A new machine waits for nothing. -/
theorem Timed.ended {m t : Machine} (timed : m.Timed) (ended : t.delay = 0)
    (kept : t.activeDelay = m.activeDelay) : t.Timed :=
  ⟨by omega, by have := timed.within; have := timed.started; omega, kept ▸ timed.byte⟩

theorem load_timed (L : List String) {m : Machine} (timed : m.Timed) :
    Yields (load L) m (fun _ => Timed) (fun _ => Timed) :=
  (yields_load L m).mono (fun _ _ kept => timed.ended kept.2.1 kept.2.2.1)
    (fun _ _ kept => timed.ended kept.2.1 kept.2.2)

theorem reset_timed {m : Machine} (timed : m.Timed) :
    Yields reset m (fun _ => Timed) (fun _ => Timed) := by
  refine (yields_reset m).mono (fun _ t cleared => ?_) (fun _ t failed => ?_)
  · rw [cleared.1]
    exact timed.ended rfl rfl
  · rw [failed]
    exact timed.ended rfl rfl

/-! ## A wait lasts its length -/

/-- `k` steps one after another; tells for each whether it asked for a save. -/
def stepTimes : Nat → MachineM (List Bool)
  | 0 => pure []
  | k + 1 => do
    let told ← stepTimes k
    let saved ← step
    pure (told ++ [saved])

section Rules

variable {ok : List Bool → Machine → Prop} {err : Fault → Machine → Prop} {m : Machine}

theorem yields_stepTimes_succ (k : Nat) :
    Yields (stepTimes (k + 1)) m ok err ↔
      Yields (stepTimes k) m
        (fun told t => Yields step t (fun saved u => ok (told ++ [saved]) u) err)
        err := by
  simp only [stepTimes, yields_bind, yields_pure]

end Rules

section Steps

-- Runs are taken apart by the rules of an outcome only, as in a step's own lemmas.
attribute [local irreducible] Yields

variable {ok : Bool → Machine → Prop} {err : Fault → Machine → Prop} {m : Machine}

/-- A step at the instruction WAIT n starts a wait of n steps and moves past the instruction. -/
theorem yields_step_wait {n : Nat} (idle : m.delay ≤ 0) (inside : m.pc + 1 < m.size)
    (opcode : m.ram.get m.pc = .ok Opcode.wait.code) (operand : m.ram.get (m.pc + 1) = .ok n) :
    Yields step m ok err ↔ ok false { m with pc := m.pc + 2, delay := n, activeDelay := n } := by
  unfold step
  rw [yields_get_bind, if_neg (by omega), if_neg (by omega), yields_cell_bind_of opcode,
    if_neg (by decide), show Opcode.ofCode? Opcode.wait.code = some .wait from rfl]
  dsimp only
  rw [if_neg (by simp only [Opcode.arity]; omega)]
  unfold execute
  rw [yields_get_bind]
  dsimp only
  rw [yields_cell_bind_of (by simpa using operand), yields_modify_bind, yields_advance_bind,
    yields_pure]
  exact Iff.rfl

end Steps

/-- After the instruction WAIT n, the machine stalls for exactly n steps: each counts the wait
down and changes nothing else, and the last also clears the length of the wait. Then the machine
stands past the instruction with no wait, so that the next step carries out what follows. No
step of these asks for a save. -/
theorem stepTimes_wait {m : Machine} {n : Nat} (idle : m.delay ≤ 0) (inside : m.pc + 1 < m.size)
    (opcode : m.ram.get m.pc = .ok Opcode.wait.code) (operand : m.ram.get (m.pc + 1) = .ok n) :
    ∀ k ≤ n, (stepTimes (k + 1)).run m = .ok (List.replicate (k + 1) false)
      { m with pc := m.pc + 2, delay := ((n - k : Nat) : Int),
               activeDelay := if k = n then 0 else n } := by
  intro k
  induction k with
  | zero =>
    intro _
    apply Yields.run_eq
    rw [yields_stepTimes_succ, stepTimes, yields_pure, yields_step_wait idle inside opcode operand]
    -- the wait just started has its whole length left
    refine ⟨rfl, ?_⟩
    by_cases none : 0 = n
    · subst none
      rfl
    · rw [if_neg none]
      rfl
  | succ k ih =>
    intro within
    apply Yields.run_eq
    rw [yields_stepTimes_succ]
    apply Yields.of_run_ok (ih (by omega))
    rw [yields_step_waiting (by dsimp only; omega)]
    refine ⟨List.replicate_succ'.symm, ?_⟩
    -- one step less to wait, and the length cleared when none is left
    have left : ((n - k : Nat) : Int) - 1 = ((n - (k + 1) : Nat) : Int) := by omega
    have cleared : (if ((n - k : Nat) : Int) - 1 = 0 then 0 else if k = n then 0 else (n : Int)) =
        if k + 1 = n then 0 else (n : Int) := by
      by_cases last : k + 1 = n
      · rw [if_pos (by omega), if_pos last]
      · rw [if_neg (by omega), if_neg (by omega), if_neg last]
    rw [cleared, left]

end Machine

namespace Request

/-- Whether a request operates the machine: loads a program into it, steps, runs or resets it. -/
def operates : Request → Bool
  | .load _ | .step | .run _ | .reset => true
  | _ => false

end Request

namespace Session

/-- A property of machines that loading, stepping, starting and resetting keep holds through
every run of requests that operate the machine from sessions whose machines have it. -/
theorem Runs.operated {first : Session → Prop} {P : Machine → Prop} {s : Session}
    (initially : ∀ s, first s → P s.machine)
    (loading : ∀ L m, P m → Yields (Machine.load L) m (fun _ => P) (fun _ => P))
    (stepping : ∀ m, P m → Yields Machine.step m (fun _ => P) (fun _ => P))
    (starting : ∀ m, P m → P { m with running := true })
    (resetting : ∀ m, P m → Yields Machine.reset m (fun _ => P) (fun _ => P))
    (reached : s.Runs first Request.operates) : P s.machine := by
  induction reached with
  | start began => exact initially _ began
  | @next s r _ admitted kept =>
    apply perform_keeps
    cases r with
    | load L =>
      rw [handle, yields_onMachine_bind]
      exact (loading L _ kept).mono (fun _ _ loaded => loaded) (fun _ _ loaded => loaded)
    | step =>
      rw [handle, yields_bind]
      exact Yields.mono (yields_step stepping kept) (fun _ _ stepped => stepped)
        (fun _ _ stepped => stepped)
    | run limit =>
      rw [handle, yields_bind]
      exact Yields.mono (yields_run stepping starting limit kept) (fun _ _ ran => ran)
        (fun _ _ ran => ran)
    | reset =>
      rw [handle, yields_onMachine_bind]
      exact (resetting _ kept).mono (fun _ _ cleared => cleared) (fun _ _ cleared => cleared)
    | _ => cases admitted

theorem start_timed {n : Int} {s : Session} (started : Session.start n = .ok s) :
    s.machine.Timed := by
  unfold Session.start Machine.create at started
  cases allocated : Memory.alloc n with
  | error f =>
    rw [allocated] at started
    cases started
  | ok ram =>
    rw [allocated] at started
    cases started
    exact ⟨Int.le_refl 0, Int.le_refl 0, by dsimp only; omega⟩

/-- Through every run of loads, steps, runs and resets of a new machine, the steps still to wait
lie from zero to the length of the wait, which is a byte. -/
theorem timed_of_runs {n : Int} {s : Session}
    (reached : s.Runs (fun s => Session.start n = .ok s) Request.operates) : s.machine.Timed :=
  reached.operated (fun _ started => start_timed started) (fun L _ => Machine.load_timed L)
    (fun _ => Machine.step_timed) (fun _ timed => timed.of_counts rfl rfl)
    (fun _ => Machine.reset_timed)

/-- During a wait the counter label shows how far the wait has come. -/
theorem pcLabel_waiting {m : Machine} (waiting : 0 < m.delay) :
    Window.pcLabel m = "PC: " ++ toString m.pc ++
      (" | WAIT: " ++ toString (m.activeDelay - m.delay + 1) ++ "/" ++ toString m.activeDelay) := by
  rw [Window.pcLabel, if_pos waiting]

/-- Waits keep time. Through every run of loads, steps, runs and resets of a new machine, the
steps still to wait lie from zero to the length of the wait, which is a byte, so that during a
wait the counter label shows a progress from 1 to that length. And the instruction WAIT n stalls
the machine for exactly n steps, each of which only counts the wait down, the last also clearing
its length; after them the machine stands past the instruction with no wait. -/
theorem waits_are_bounded_and_exact :
    (∀ (n : Int) (s : Session), s.Runs (fun s => start n = .ok s) Request.operates →
      0 ≤ s.machine.delay ∧ s.machine.delay ≤ s.machine.activeDelay ∧
        s.machine.activeDelay ≤ 255 ∧
        (0 < s.machine.delay → ∃ k : Int, 1 ≤ k ∧ k ≤ s.machine.activeDelay ∧
          Window.pcLabel s.machine = "PC: " ++ toString s.machine.pc ++
            (" | WAIT: " ++ toString k ++ "/" ++ toString s.machine.activeDelay))) ∧
    (∀ (m : Machine) (n : Nat), m.delay ≤ 0 → m.pc + 1 < m.size →
      m.ram.get m.pc = .ok Opcode.wait.code → m.ram.get (m.pc + 1) = .ok n →
      ∀ k ≤ n, (Machine.stepTimes (k + 1)).run m = .ok (List.replicate (k + 1) false)
        { m with pc := m.pc + 2, delay := ((n - k : Nat) : Int),
                 activeDelay := if k = n then 0 else n }) := by
  refine ⟨fun n s reached => ?_, fun m n idle inside opcode operand =>
    Machine.stepTimes_wait idle inside opcode operand⟩
  obtain ⟨started, within, byte⟩ := timed_of_runs reached
  -- the progress shown is the number of steps waited so far, counting the one under way
  exact ⟨started, within, byte, fun waiting => ⟨_, by omega, by omega, pcLabel_waiting waiting⟩⟩

/-- A machine of four cells whose counter stands at WAIT 2. -/
def startsWaitTwo : Machine :=
  { size := 4, ram := Memory.ofBytes [Opcode.wait.code, 2, 0, 0], scratch := freshScratch }

theorem waits_are_bounded_and_exact_sample :
    (∃ s : Session, s.Runs (fun s => start 4 = .ok s) Request.operates ∧ s.machine.delay = 3 ∧
      0 ≤ s.machine.delay ∧ s.machine.delay ≤ s.machine.activeDelay ∧
        s.machine.activeDelay ≤ 255 ∧
        (0 < s.machine.delay → ∃ k : Int, 1 ≤ k ∧ k ≤ s.machine.activeDelay ∧
          Window.pcLabel s.machine = "PC: " ++ toString s.machine.pc ++
            (" | WAIT: " ++ toString k ++ "/" ++ toString s.machine.activeDelay))) ∧
    (startsWaitTwo.delay ≤ 0 ∧ startsWaitTwo.pc + 1 < startsWaitTwo.size ∧
      startsWaitTwo.ram.get startsWaitTwo.pc = .ok Opcode.wait.code ∧
      startsWaitTwo.ram.get (startsWaitTwo.pc + 1) = .ok 2 ∧
      (Machine.stepTimes (2 + 1)).run startsWaitTwo = .ok (List.replicate (2 + 1) false)
        { startsWaitTwo with pc := startsWaitTwo.pc + 2, delay := ((2 - 2 : Nat) : Int),
                             activeDelay := if 2 = 2 then 0 else 2 }) := by
  -- a new machine of four cells that has loaded WAIT 3 and made one step
  have reached := @Runs.next (fun s => start 4 = .ok s) Request.operates _ .step
    (@Runs.next _ Request.operates _ (.load ["WAIT 3"]) (Runs.start rfl) rfl) rfl
  have idle : startsWaitTwo.delay ≤ 0 := by decide
  have inside : startsWaitTwo.pc + 1 < startsWaitTwo.size := by decide
  have opcode : startsWaitTwo.ram.get startsWaitTwo.pc = .ok Opcode.wait.code := rfl
  have operand : startsWaitTwo.ram.get (startsWaitTwo.pc + 1) = .ok 2 := rfl
  exact ⟨⟨_, reached, by decide +kernel, waits_are_bounded_and_exact.1 4 _ reached⟩,
    idle, inside, opcode, operand,
    waits_are_bounded_and_exact.2 startsWaitTwo 2 idle inside opcode operand 2 (Nat.le_refl 2)⟩

end Session

end LedMachine
