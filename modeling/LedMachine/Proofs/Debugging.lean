import Mathlib.Logic.Function.Iterate
import LedMachine.Proofs.Timer

/-!
# Stepping by hand and breakpoints

A step by hand from the window loads the editor's program first when the machine is stopped, and
goes no further if the program does not load; then it steps the machine once, shows the counter,
the current line and the memory, and stops the machine if its counter is one of the breakpoints.
The breakpoints are line numbers and the counter is an address: the test compares the two as
numbers.

So a step by hand that returns leaves the machine as `Machine.stepByHand` says, the step of
`Machine.advanceByHand` and then the test of `Machine.stopAt`; one that faults, in the step or in
a panel, leaves it after the step, untested (`yields_stepByHand`). A machine stopped at a
breakpoint is loaded again by the next step by hand. While no step halts the machine and no
counter it reaches is one of the breakpoints, steps by hand from a stopped window step the loaded
program as the machine alone would (`hand_steps_follow_steps`). A counter that is the number of a
line with a breakpoint stops the machine wherever that line was loaded, and the step by hand after
the stop runs the program from its entry point again (`breakpoint_stop_restarts_program`).
-/

namespace LedMachine

namespace Machine

/-- A step by hand up to its breakpoint test: a stopped machine loads `code` first, and stays as
loading left it if the program does not load; then the machine steps once. -/
def advanceByHand (code : List String) (m : Machine) : Machine :=
  let m₁ := if m.running then m else startedBy code m
  if m₁.running then leftBy step m₁ else m₁

/-- The breakpoint test: the machine stops if its counter, as a number, is one of `stops`. -/
def stopAt (stops : List Int) (m : Machine) : Machine :=
  { m with running := m.running && !stops.contains m.pc }

/-- A step by hand on the machine alone: the step, then the breakpoint test. -/
def stepByHand (stops : List Int) (code : List String) (m : Machine) : Machine :=
  stopAt stops (advanceByHand code m)

theorem advanceByHand_of_running {code : List String} {m : Machine} (running : m.running = true) :
    advanceByHand code m = leftBy step m := by
  simp [advanceByHand, running]

/-- A machine whose counter is none of the breakpoints passes the test unchanged. -/
theorem stopAt_of_not_mem {stops : List Int} {m : Machine} (out : m.pc ∉ stops) :
    stopAt stops m = m := by
  have missing : stops.contains m.pc = false := by simpa using out
  simp only [stopAt, missing, Bool.not_false, Bool.and_true]

/-- A stopped machine stays as it is. -/
theorem stopAt_of_stopped {stops : List Int} {m : Machine} (stopped : m.running = false) :
    stopAt stops m = m := by
  simp only [stopAt, stopped, Bool.false_and]
  exact with_running_self stopped

/-- A machine whose counter is one of the breakpoints stops. -/
theorem stopAt_of_mem {stops : List Int} {m : Machine} (hit : m.pc ∈ stops) :
    stopAt stops m = { m with running := false } := by
  have found : stops.contains m.pc = true := by simpa using hit
  simp only [stopAt, found, Bool.not_true, Bool.and_false]

theorem RunsClear.advanceByHand {m : Machine} (clear : m.RunsClear) (code : List String) :
    (advanceByHand code m).RunsClear := by
  have loaded : (if m.running then m else Machine.startedBy code m).RunsClear := by
    split
    · exact clear
    · exact RunsClear.startedBy code m
  have stepped : ∀ m₁ : Machine, m₁.RunsClear →
      (if m₁.running then leftBy Machine.step m₁ else m₁).RunsClear := by
    intro m₁ clear₁
    split
    · exact RunsClear.step clear₁
    · exact clear₁
  exact stepped _ loaded

theorem RunsClear.stopAt {m : Machine} (clear : m.RunsClear) (stops : List Int) :
    (stopAt stops m).RunsClear := by
  intro running
  simp only [Machine.stopAt, Bool.and_eq_true] at running
  exact clear running.1

/-- Loading that faults keeps the running flag: only the reset before the lines can fault, and it
faults before it stops the machine. -/
theorem yields_load_running (L : List String) (m : Machine) :
    Yields (load L) m (fun _ _ => True) (fun _ t => t.running = m.running) := by
  unfold load
  rw [yields_modify_bind, yields_bind]
  refine (yields_reset _).mono (fun _ _ _ => ?_) (fun _ t failed => by subst failed; rfl)
  rw [yields_get_bind]
  rcases Loader.lines 1 L _ with ⟨l, failure⟩
  cases failure <;> trivial

end Machine

namespace Window

/-- What a step by hand reads of the window besides the machine: the program text and the
breakpoints. -/
def listing (w : Window) : String × List Int := (w.editor, w.breakpoints)

/-- Every outcome of `x` keeps the program text and the breakpoints. -/
def KeepsListing {α : Type} (x : WindowM α) : Prop :=
  ∀ w, Yields x w (fun _ v => v.listing = w.listing) (fun _ v => v.listing = w.listing)

/-! ## Operations that keep the listing -/

section KeepsListing

variable {α β : Type}

theorem KeepsListing.bind {x : WindowM α} {f : α → WindowM β} (first : KeepsListing x)
    (rest : ∀ a, KeepsListing (f a)) : KeepsListing (x >>= f) := by
  intro w
  rw [yields_bind]
  refine (first w).mono (fun a v kept => ?_) (fun _ _ kept => kept)
  exact (rest a v).mono (fun _ u after => after.trans kept) (fun _ u after => after.trans kept)

theorem keepsListing_pure (a : α) : KeepsListing (pure a : WindowM α) :=
  fun _ => rfl

theorem keepsListing_throw (e : Fault) : KeepsListing (throw e : WindowM α) :=
  fun _ => rfl

theorem keepsListing_modify {g : Window → Window} (keeps : ∀ w, (g w).listing = w.listing) :
    KeepsListing (modify g : WindowM PUnit) :=
  fun w => keeps w

theorem KeepsListing.ite {c : Prop} [Decidable c] {x y : WindowM α} (yes : KeepsListing x)
    (no : KeepsListing y) : KeepsListing (if c then x else y) := by
  by_cases hc : c
  · simpa only [if_pos hc] using yes
  · simpa only [if_neg hc] using no

theorem keepsListing_get_bind {f : Window → WindowM α}
    (rest : ∀ w, Yields (f w) w (fun _ v => v.listing = w.listing)
      (fun _ v => v.listing = w.listing)) :
    KeepsListing (get >>= f) :=
  fun w => (yields_get_bind f).mpr (rest w)

theorem keepsListing_onMachine (op : MachineM α) : KeepsListing (onMachine op) := by
  intro w
  rw [yields_onMachine]
  unfold Yields
  split <;> rfl

theorem keepsListing_saveScratch : KeepsListing saveScratch := by
  refine keepsListing_get_bind fun w => ?_
  split
  · exact rfl
  · exact rfl

theorem keepsListing_step : KeepsListing step := by
  refine keepsListing_get_bind fun w => ?_
  split
  · exact (KeepsListing.ite ((keepsListing_onMachine _).bind fun _ => keepsListing_pure _)
      (keepsListing_throw _)) w
  · exact ((keepsListing_onMachine _).bind fun _ =>
      KeepsListing.ite keepsListing_saveScratch (keepsListing_pure _)) w

theorem keepsListing_showCounter : KeepsListing showCounter :=
  (keepsListing_modify fun _ => rfl).bind fun _ => keepsListing_modify fun _ => rfl

theorem keepsListing_markCurrentLine : KeepsListing markCurrentLine :=
  keepsListing_get_bind fun w => KeepsListing.ite (keepsListing_throw _) (keepsListing_pure _) w

theorem keepsListing_showMemory : KeepsListing showMemory := by
  refine keepsListing_get_bind fun w => ?_
  split
  · exact rfl
  · split
    · exact rfl
    · rw [yields_set_bind]
      unfold showBars
      rw [yields_get_bind]
      split
      · exact rfl
      · rw [yields_set_bind]
        split <;> exact rfl

theorem keepsListing_stop : KeepsListing stop := by
  unfold stop
  refine KeepsListing.bind (keepsListing_modify fun _ => rfl) fun _ =>
    keepsListing_get_bind fun w => ?_
  split
  · exact rfl
  · exact rfl

theorem keepsListing_loadProgram : KeepsListing loadProgram := by
  refine keepsListing_get_bind fun w => ?_
  split
  · -- the alarm is cleared and the counter sent back before the fault
    exact rfl
  · exact keepsListing_onMachine _ w

end KeepsListing

/-! ## One step by hand -/

/-- A step by hand from its step on: the step, the panels, and the stop at a breakpoint. -/
def stepAndTest : WindowM Unit := do
  step
  showCounter
  markCurrentLine
  showMemory
  let w ← get
  if w.breakpoints.contains w.machine.pc then stop

section StepByHand

variable {w : Window} {ok : Unit → Window → Prop} {err : Fault → Window → Prop}

theorem keepsListing_stepAndTest : KeepsListing stepAndTest :=
  keepsListing_step.bind fun _ => keepsListing_showCounter.bind fun _ =>
    keepsListing_markCurrentLine.bind fun _ => keepsListing_showMemory.bind fun _ =>
      keepsListing_get_bind fun v => KeepsListing.ite keepsListing_stop (keepsListing_pure _) v

theorem keepsListing_stepByHand : KeepsListing stepByHand := by
  unfold stepByHand
  refine keepsListing_get_bind fun v => ?_
  dsimp only
  split
  · refine (KeepsListing.bind keepsListing_loadProgram fun loaded => ?_) v
    split
    · exact keepsListing_pure _
    · exact KeepsListing.bind (keepsListing_modify fun _ => rfl) fun _ => keepsListing_stepAndTest
  · exact keepsListing_stepAndTest v

/-- A step by hand on a running machine is its step and test. -/
theorem yields_stepByHand_of_running (running : w.machine.running = true) :
    Yields stepByHand w ok err ↔ Yields stepAndTest w ok err := by
  unfold stepByHand
  rw [yields_get_bind]
  simp only [running, Bool.not_true, Bool.false_eq_true, if_false]
  exact Iff.rfl

/-- A step by hand on a stopped machine loads the program; if it loads, the machine is set
running, stepped and tested; if not, the step by hand ends there. -/
theorem yields_stepByHand_of_stopped (numeric : w.badSize = none)
    (stopped : w.machine.running = false) :
    Yields stepByHand w ok err ↔
      Yields (Machine.load (Source.lines w.editor)) w.machine
        (fun (loaded : Bool) m => if loaded then Yields stepAndTest
            { w with machine := { m with running := true } } ok err
          else ok () { w with machine := m })
        (fun e m => err e { w with machine := m }) := by
  unfold stepByHand loadProgram
  rw [yields_get_bind]
  simp only [stopped, Bool.not_false, if_true]
  rw [yields_bind, yields_get_bind]
  split
  · rename_i named
    rw [numeric] at named
    cases named
  · rw [yields_onMachine]
    refine yields_congr fun loaded m => ?_
    cases loaded
    · exact Iff.rfl
    · exact Iff.rfl

/-- The breakpoint test of a step by hand: the machine stops if its counter is a breakpoint. -/
theorem yields_breakpointTest :
    Yields (get >>= fun v : Window =>
        if v.breakpoints.contains v.machine.pc = true then stop else pure PUnit.unit) w
      (fun _ v => v.machine = Machine.stopAt w.breakpoints w.machine ∧ v.badSize = w.badSize)
      (fun _ _ => False) := by
  rw [yields_get_bind]
  by_cases hit : w.machine.pc ∈ w.breakpoints
  · rw [if_pos (by simpa using hit)]
    unfold stop
    rw [yields_modify_bind, yields_get_bind]
    -- the alarm, if any, is shown; the machine only stops
    split <;> exact ⟨(Machine.stopAt_of_mem hit).symm, rfl⟩
  · rw [if_neg (by simpa using hit), yields_pure]
    exact ⟨(Machine.stopAt_of_not_mem hit).symm, rfl⟩

/-- An operation beside the machine that keeps the listing, followed by the rest: from a window
with machine `m`, memory size `b` and listing `l`, the rest runs from one with the same, and a
fault leaves the same machine and memory size. -/
theorem yields_bind_beside {α : Type} {x : WindowM α} {f : α → WindowM Unit} {m : Machine}
    {b : Option BadSize} {l : String × List Int} (aside : Aside x) (keeps : KeepsListing x)
    (clear : m.RunsClear)
    (rest : ∀ a v, v.machine = m → v.badSize = b → v.listing = l → Yields (f a) v ok err)
    (failed : ∀ e v, v.machine = m → v.badSize = b → err e v)
    (machine : w.machine = m) (sized : w.badSize = b) (listed : w.listing = l) :
    Yields (x >>= f) w ok err := by
  rw [yields_bind]
  exact ((aside w (machine ▸ clear)).and (keeps w)).mono
    (fun a v kept => rest a v (kept.1.1.trans machine) (kept.1.2.trans sized) (kept.2.trans listed))
    (fun e v kept => failed e v (kept.1.1.trans machine) (kept.1.2.trans sized))

/-- The step and test of a step by hand: if it returns, the machine has stepped and been tested;
if it faults, it has stepped, or not even that, and has not been tested. -/
theorem yields_stepAndTest (numeric : w.badSize = none) (clear : w.machine.RunsClear) :
    Yields stepAndTest w
      (fun _ v => v.machine = Machine.stopAt w.breakpoints (Machine.leftBy Machine.step w.machine) ∧
        v.badSize = w.badSize)
      (fun _ v => v.machine = Machine.leftBy Machine.step w.machine ∧ v.badSize = w.badSize) := by
  unfold stepAndTest
  rw [yields_bind]
  refine ((yields_step numeric clear).and (keepsListing_step w)).mono (fun _ v stepped => ?_)
    (fun _ _ stepped => stepped.1)
  obtain ⟨⟨left, sized⟩, listed⟩ := stepped
  -- the panels change neither the machine nor the listing; a fault in them ends the step by hand
  -- before the test
  have panelFault : ∀ (e : Fault) (u : Window), u.machine = Machine.leftBy Machine.step w.machine →
      u.badSize = w.badSize →
      u.machine = Machine.leftBy Machine.step w.machine ∧ u.badSize = w.badSize :=
    fun _ _ same sized' => ⟨same, sized'⟩
  refine yields_bind_beside aside_showCounter keepsListing_showCounter clear.step
    (fun _ u same₁ sized₁ listed₁ => ?_) panelFault left sized listed
  refine yields_bind_beside aside_markCurrentLine keepsListing_markCurrentLine clear.step
    (fun _ t same₂ sized₂ listed₂ => ?_) panelFault same₁ sized₁ listed₁
  refine yields_bind_beside aside_showMemory keepsListing_showMemory clear.step
    (fun _ s same₃ sized₃ listed₃ => ?_) panelFault same₂ sized₂ listed₂
  refine yields_breakpointTest.mono (fun _ r after => ?_) fun _ _ no => no.elim
  have tested : s.breakpoints = w.breakpoints := congrArg Prod.snd listed₃
  rw [after.1, same₃, tested]
  exact ⟨rfl, after.2.trans sized₃⟩

/-- One step by hand, on a window whose memory size is a number and whose machine runs clear of
alarms. If it returns, the machine has made the step by hand of `Machine.stepByHand`, breakpoint
test included; if it faults, it has made the step but not the test. -/
theorem yields_stepByHand (numeric : w.badSize = none) (clear : w.machine.RunsClear) :
    Yields stepByHand w
      (fun _ v => v.machine = Machine.stepByHand w.breakpoints (Source.lines w.editor) w.machine ∧
        v.badSize = w.badSize)
      (fun _ v => v.machine = Machine.advanceByHand (Source.lines w.editor) w.machine ∧
        v.badSize = w.badSize) := by
  cases running : w.machine.running
  · -- a stopped machine loads the program first
    rw [yields_stepByHand_of_stopped numeric running]
    have stops := Machine.yields_load_stops (Source.lines w.editor) w.machine
    cases run : (Machine.load (Source.lines w.editor)).run w.machine with
    | ok loaded t =>
      refine Yields.of_run_ok run ?_
      cases loaded
      · -- the program does not load, and the step by hand ends with the machine loading left
        have advanced : Machine.advanceByHand (Source.lines w.editor) w.machine = t := by
          simp [Machine.advanceByHand, running, Machine.startedBy, run, (stops.of_ok run).1]
        refine ⟨?_, rfl⟩
        rw [Machine.stepByHand, advanced, Machine.stopAt_of_stopped (stops.of_ok run).1]
      · -- the program loads: the machine is set running, stepped and tested
        have clear' : ({ t with running := true } : Machine).RunsClear :=
          fun _ => (stops.of_ok run).2 rfl
        have advanced : Machine.advanceByHand (Source.lines w.editor) w.machine =
            Machine.leftBy Machine.step { t with running := true } := by
          simp [Machine.advanceByHand, running, Machine.startedBy, run]
        refine (yields_stepAndTest (w := { w with machine := { t with running := true } })
          numeric clear').mono (fun _ v after => ?_) (fun _ v after => ?_)
        · rw [Machine.stepByHand, advanced]
          exact after
        · rw [advanced]
          exact after
    | error e t =>
      -- loading faulted before it touched the running flag
      refine Yields.of_run_error run ⟨?_, rfl⟩
      have kept : t.running = false :=
        ((Machine.yields_load_running (Source.lines w.editor) w.machine).of_error run).trans running
      simp [Machine.advanceByHand, running, Machine.startedBy, run, kept]
  · -- a running machine steps
    rw [yields_stepByHand_of_running running]
    refine (yields_stepAndTest numeric clear).mono (fun _ v after => ?_) (fun _ v after => ?_)
    · rw [Machine.stepByHand, Machine.advanceByHand_of_running running]
      exact after
    · rw [Machine.advanceByHand_of_running running]
      exact after

/-- A step by hand carried out as an action keeps what the step by hand keeps, fault or not, of a
property that the text it prints and the dialogs it shows do not touch. -/
theorem perform_stepByHand_of {P : Window → Prop}
    (printless : ∀ v, P v → P { v with printed := "", dialogs := [] })
    (kept : Yields stepByHand { w with printed := "", dialogs := [] } (fun _ => P) fun _ => P) :
    P (w.perform (.stepByHand 1)).1 := by
  refine perform_of_act printless ?_
  unfold act
  rw [yields_bind, repeatCounting, yields_bind]
  exact kept.mono (fun _ _ holds => holds) fun _ _ holds => holds

/-- One step by hand as an action: it keeps the memory size and the listing, and leaves the
machine after the step, tested for a breakpoint if the step by hand returned. -/
theorem perform_stepByHand (numeric : w.badSize = none) (clear : w.machine.RunsClear) :
    ((w.perform (.stepByHand 1)).1.machine =
        Machine.stepByHand w.breakpoints (Source.lines w.editor) w.machine ∨
      (w.perform (.stepByHand 1)).1.machine =
        Machine.advanceByHand (Source.lines w.editor) w.machine) ∧
      (w.perform (.stepByHand 1)).1.badSize = w.badSize ∧
      (w.perform (.stepByHand 1)).1.listing = w.listing :=
  perform_stepByHand_of (P := fun v =>
      (v.machine = Machine.stepByHand w.breakpoints (Source.lines w.editor) w.machine ∨
        v.machine = Machine.advanceByHand (Source.lines w.editor) w.machine) ∧
        v.badSize = w.badSize ∧ v.listing = w.listing)
    (fun _ kept => kept)
    (((yields_stepByHand (w := { w with printed := "", dialogs := [] }) numeric clear).and
      (keepsListing_stepByHand _)).mono (fun _ _ after => ⟨.inl after.1.1, after.1.2, after.2⟩)
      fun _ _ after => ⟨.inr after.1.1, after.1.2, after.2⟩)

/-- A step by hand whose step reaches a counter that is none of the breakpoints leaves the machine
after its step, whether or not it returned. -/
theorem perform_stepByHand_of_missed (numeric : w.badSize = none) (clear : w.machine.RunsClear)
    (missed : (Machine.advanceByHand (Source.lines w.editor) w.machine).pc ∉ w.breakpoints) :
    (w.perform (.stepByHand 1)).1.machine =
      Machine.advanceByHand (Source.lines w.editor) w.machine := by
  rcases (perform_stepByHand numeric clear).1 with tested | untested
  · rw [tested, Machine.stepByHand, Machine.stopAt_of_not_mem missed]
  · exact untested

/-- A step by hand that returns, as an action, leaves the machine tested for a breakpoint. -/
theorem perform_stepByHand_of_returns (numeric : w.badSize = none) (clear : w.machine.RunsClear)
    (returns : Yields stepByHand { w with printed := "", dialogs := [] } (fun _ _ => True)
      fun _ _ => False) :
    (w.perform (.stepByHand 1)).1.machine =
      Machine.stepByHand w.breakpoints (Source.lines w.editor) w.machine :=
  perform_stepByHand_of (P := fun v =>
      v.machine = Machine.stepByHand w.breakpoints (Source.lines w.editor) w.machine)
    (fun _ kept => kept)
    (((yields_stepByHand (w := { w with printed := "", dialogs := [] }) numeric clear).and
      returns).mono (fun _ _ after => after.1.1) fun _ _ after => after.2.elim)

end StepByHand

end Window

/-- Steps by hand from a running window, while each step leaves the machine running at a counter
that is none of the breakpoints, step the machine as it steps alone. By induction on the number of
steps by hand, each one a step of the machine whether or not it returned. -/
theorem Window.actAll_handSteps :
    ∀ (n : Nat) (w : Window), w.badSize = none → w.machine.RunsClear →
    w.machine.running = true →
    (∀ j < n, ((Machine.leftBy Machine.step)^[j + 1] w.machine).running = true ∧
      ((Machine.leftBy Machine.step)^[j + 1] w.machine).pc ∉ w.breakpoints) →
    (Window.actAll w (List.replicate n (.stepByHand 1))).machine =
      (Machine.leftBy Machine.step)^[n] w.machine
  | 0, _, _, _, _, _ => rfl
  | n + 1, w, numeric, clear, running, free => by
    obtain ⟨-, sized, listed⟩ := Window.perform_stepByHand numeric clear
    obtain ⟨stillRunning, missed⟩ := free 0 (Nat.succ_pos n)
    -- the step by hand is a step, and its breakpoint test, if made, does not stop the machine
    have stepped :
        (w.perform (.stepByHand 1)).1.machine = Machine.leftBy Machine.step w.machine := by
      rw [Window.perform_stepByHand_of_missed numeric clear
        (by rw [Machine.advanceByHand_of_running running]; exact missed),
        Machine.advanceByHand_of_running running]
    have breakpoints : (w.perform (.stepByHand 1)).1.breakpoints = w.breakpoints :=
      congrArg Prod.snd listed
    rw [List.replicate_succ, Window.actAll_cons, Window.actAll_handSteps n _
      (sized.trans numeric) (stepped ▸ clear.step) (stepped ▸ stillRunning) ?_, stepped]
    · rfl
    · intro j below
      rw [stepped, breakpoints]
      exact free (j + 1) (by omega)

/-- Steps by hand. One that returns leaves the machine tested for a breakpoint after its step:
it stops if its counter, as a number, is one of the breakpoints, which are line numbers. One that
faults leaves the machine after its step, untested. The step loads the editor's program first
into a stopped machine, and goes no further if it does not load. So from a stopped window whose
program loads, while no step halts the machine and no counter it reaches is one of the
breakpoints, `k + 1` steps by hand leave the machine as loading the program and then `k + 1`
steps of the machine. -/
theorem hand_steps_follow_steps (w : Window) (numeric : w.badSize = none) :
    (w.machine.RunsClear →
      Yields Window.stepByHand w
        (fun _ v => v.machine = Machine.stopAt w.breakpoints
          (Machine.advanceByHand (Source.lines w.editor) w.machine))
        (fun _ v => v.machine = Machine.advanceByHand (Source.lines w.editor) w.machine)) ∧
    (∀ k : Nat, w.machine.running = false →
      0 ≤ w.machine.size → w.machine.size ≤ Memory.allocationLimit →
      (Source.assemble w.machine.size (Source.lines w.editor)).stop = none →
      (∀ j ≤ k, ((Machine.leftBy Machine.step)^[j + 1]
          (Machine.startedBy (Source.lines w.editor) w.machine)).running = true ∧
        ((Machine.leftBy Machine.step)^[j + 1]
          (Machine.startedBy (Source.lines w.editor) w.machine)).pc ∉ w.breakpoints) →
      (Window.actAll w (List.replicate (k + 1) (.stepByHand 1))).machine =
        (Machine.leftBy Machine.step)^[k + 1]
          (Machine.startedBy (Source.lines w.editor) w.machine)) := by
  refine ⟨fun clear => (Window.yields_stepByHand numeric clear).mono
    (fun _ _ after => after.1) (fun _ _ after => after.1), ?_⟩
  intro k stopped low high accepted free
  -- the program loads, so the first step by hand loads it, sets the machine running and steps
  obtain ⟨loaded, m', run, iff, -⟩ := Machine.load_accepts_layout low high (Source.lines w.editor)
  have started : (Machine.startedBy (Source.lines w.editor) w.machine).running = true := by
    obtain rfl : loaded = true := iff.mpr accepted
    simp [Machine.startedBy, run]
  have clear : w.machine.RunsClear := fun running => absurd (stopped ▸ running) Bool.false_ne_true
  have advanced : Machine.advanceByHand (Source.lines w.editor) w.machine =
      Machine.leftBy Machine.step (Machine.startedBy (Source.lines w.editor) w.machine) := by
    simp [Machine.advanceByHand, stopped, started]
  obtain ⟨-, sized, listed⟩ := Window.perform_stepByHand numeric clear
  obtain ⟨stillRunning, missed⟩ := free 0 (Nat.zero_le k)
  have stepped : (w.perform (.stepByHand 1)).1.machine =
      Machine.leftBy Machine.step (Machine.startedBy (Source.lines w.editor) w.machine) := by
    rw [Window.perform_stepByHand_of_missed numeric clear (by rw [advanced]; exact missed),
      advanced]
  have breakpoints : (w.perform (.stepByHand 1)).1.breakpoints = w.breakpoints :=
    congrArg Prod.snd listed
  -- each later step by hand steps the running machine
  rw [List.replicate_succ, Window.actAll_cons, Window.actAll_handSteps k _
    (sized.trans numeric) (stepped ▸ (Machine.RunsClear.startedBy _ _).step)
    (stepped ▸ stillRunning) ?_, stepped]
  · rfl
  · intro j below
    rw [stepped, breakpoints]
    exact free (j + 1) (by omega)

/-- A window with SETALL and SETNONE in the editor. -/
def setAllWindow : Window := { Window.initial with editor := "SETALL\nSETNONE" }

theorem hand_steps_follow_steps_sample :
    ({ setAllWindow with breakpoints := [3] } : Window).badSize = none ∧
      ({ setAllWindow with breakpoints := [3] } : Window).machine.running = false ∧
      (Source.assemble 64 (Source.lines setAllWindow.editor)).stop = none ∧
      (Window.actAll { setAllWindow with breakpoints := [3] }
          (List.replicate 2 (.stepByHand 1))).machine =
        (Machine.leftBy Machine.step)^[2]
          (Machine.startedBy (Source.lines setAllWindow.editor) setAllWindow.machine) := by
  have lines : Source.lines setAllWindow.editor = ["SETALL", "SETNONE"] := by
    simp +decide [setAllWindow, Source.lines, String.splitOn, String.splitOnAux]
  have accepted : (Source.assemble 64 (Source.lines setAllWindow.editor)).stop = none := by
    rw [lines]
    decide +kernel
  have free : ∀ j ≤ 1, ((Machine.leftBy Machine.step)^[j + 1]
        (Machine.startedBy (Source.lines setAllWindow.editor) setAllWindow.machine)).running =
          true ∧
      ((Machine.leftBy Machine.step)^[j + 1]
        (Machine.startedBy (Source.lines setAllWindow.editor) setAllWindow.machine)).pc ∉
          ([3] : List Int) := by
    rw [lines]
    decide +kernel
  exact ⟨rfl, rfl, accepted,
    (hand_steps_follow_steps { setAllWindow with breakpoints := [3] } rfl).2 1 rfl
      (by decide) (by decide) accepted free⟩

/-- A window whose program jumps to its second line, which has a breakpoint. -/
def jumpWindow : Window := { Window.initial with editor := "JUMP 2\nSETALL", breakpoints := [2] }

/-- Steps by hand do not follow the steps of the loaded program past a breakpoint, and the test
does not look up which line was loaded where. After JUMP 2 and SETALL, with a breakpoint on line 2,
which is loaded at address 2, the first step by hand jumps there and stops; the second loads the
program again and jumps again, to 2, where two steps of the loaded program reach 3. After SETALL
and SETNONE, with the breakpoint that toggling sets on line 1, the first step by hand stops at
address 1, which holds line 2. -/
theorem breakpoint_stop_restarts_program :
    ⟨2, 2, ⟨.setAll, []⟩⟩ ∈ (Source.assemble 64 (Source.lines jumpWindow.editor)).placed ∧
      (Window.actAll jumpWindow [.stepByHand 1]).machine.running = false ∧
      (Window.actAll jumpWindow [.stepByHand 1, .stepByHand 1]).machine.pc = 2 ∧
      ((Machine.leftBy Machine.step)^[2]
        (Machine.startedBy (Source.lines jumpWindow.editor) jumpWindow.machine)).pc = 3 ∧
      (Window.actAll setAllWindow [.toggleBreakpoint]).breakpoints = [1] ∧
      ⟨2, 1, ⟨.setNone, []⟩⟩ ∈ (Source.assemble 64 (Source.lines setAllWindow.editor)).placed ∧
      (Window.actAll { setAllWindow with breakpoints := [1] } [.stepByHand 1]).machine.pc = 1 ∧
      (Window.actAll { setAllWindow with breakpoints := [1] }
        [.stepByHand 1]).machine.running = false := by
  have jumpLines : Source.lines jumpWindow.editor = ["JUMP 2", "SETALL"] := by
    simp +decide [jumpWindow, Source.lines, String.splitOn, String.splitOnAux]
  have setLines : Source.lines setAllWindow.editor = ["SETALL", "SETNONE"] := by
    simp +decide [setAllWindow, Source.lines, String.splitOn, String.splitOnAux]
  have jumpClear : jumpWindow.machine.RunsClear := fun running => absurd running (by decide)
  have setClear : ({ setAllWindow with breakpoints := [1] } : Window).machine.RunsClear :=
    fun running => absurd running (by decide)
  -- the first steps by hand return: the programs load, and their panels show
  have jumpReturns : Yields Window.stepByHand { jumpWindow with printed := "", dialogs := [] }
      (fun _ _ => True) fun _ _ => False := by
    rw [Window.yields_stepByHand_of_stopped rfl rfl]
    dsimp only
    rw [jumpLines]
    decide +kernel
  have setReturns : Yields Window.stepByHand
      { setAllWindow with breakpoints := [1], printed := "", dialogs := [] }
      (fun _ _ => True) fun _ _ => False := by
    rw [Window.yields_stepByHand_of_stopped rfl rfl]
    dsimp only
    rw [setLines]
    decide +kernel
  have jumped := Window.perform_stepByHand_of_returns rfl jumpClear jumpReturns
  have setStepped := Window.perform_stepByHand_of_returns
    (w := { setAllWindow with breakpoints := [1] }) rfl setClear setReturns
  -- the second step by hand from the stopped machine loads and steps, tested or not
  obtain ⟨-, sized, listed⟩ := Window.perform_stepByHand rfl jumpClear
  have again := (Window.perform_stepByHand (w := (jumpWindow.perform (.stepByHand 1)).1)
    sized (jumped ▸ ((jumpClear.advanceByHand _).stopAt _))).1
  have editor : (jumpWindow.perform (.stepByHand 1)).1.editor = jumpWindow.editor :=
    congrArg Prod.fst listed
  have reloaded : (Window.actAll jumpWindow [.stepByHand 1, .stepByHand 1]).machine.pc =
      (Machine.advanceByHand (Source.lines jumpWindow.editor)
        (Machine.stepByHand [2] (Source.lines jumpWindow.editor) jumpWindow.machine)).pc := by
    show ((jumpWindow.perform (.stepByHand 1)).1.perform (.stepByHand 1)).1.machine.pc = _
    rcases again with tested | untested
    · rw [tested, Machine.stepByHand, editor, jumped]
      rfl
    · rw [untested, editor, jumped]
      rfl
  refine ⟨?_, ?_, ?_, ?_, by decide +kernel, ?_, ?_, ?_⟩
  · rw [jumpLines]
    decide +kernel
  · show (jumpWindow.perform (.stepByHand 1)).1.machine.running = false
    rw [jumped, jumpLines]
    decide +kernel
  · rw [reloaded, jumpLines]
    decide +kernel
  · rw [jumpLines]
    decide +kernel
  · rw [setLines]
    decide +kernel
  · show (({ setAllWindow with breakpoints := [1] } : Window).perform
      (.stepByHand 1)).1.machine.pc = 1
    rw [setStepped]
    dsimp only
    rw [setLines]
    decide +kernel
  · show (({ setAllWindow with breakpoints := [1] } : Window).perform
      (.stepByHand 1)).1.machine.running = false
    rw [setStepped]
    dsimp only
    rw [setLines]
    decide +kernel

end LedMachine
