import LedMachine.Proofs.Alarms
import LedMachine.Scenario

/-!
# The window's timer and the run loop

Starting the machine from the window loads the editor's program and, if it loaded, sets the
machine running; each tick of the timer then steps a running machine once. Around the step a tick
shows the counter, the current line and the memory, and stops the machine if it has an alarm.
None of that touches the machine, and the stop finds the machine stopped already: a running
machine has no alarm (`Machine.RunsClear`), and a step raises one only by halting. So a start and
`n` ticks leave the machine as loading and then up to `n` steps while the machine runs
(`ticks_follow_steps`), each step from where the last one left the machine, whether it returned or
faulted.

A program that does not load leaves the machine stopped, and the ticks change nothing. Loading
that faults because the memory size cannot be allocated keeps the running flag, so a machine that
ran before goes on stepping after the failed start (`failed_start_keeps_stepping`).
-/

namespace LedMachine

namespace Machine

/-- The machine a run leaves, whether it returns or faults. -/
def leftBy {α : Type} (x : MachineM α) (m : Machine) : Machine :=
  match x.run m with
  | .ok _ t => t
  | .error _ t => t

/-- Up to `n` steps while the machine runs, each from the machine the last one left. -/
def stepWhileRunning : Nat → Machine → Machine
  | 0, m => m
  | n + 1, m => if m.running then stepWhileRunning n (leftBy step m) else m

/-- Loading a program, and setting the machine running if it loaded. -/
def startedBy (code : List String) (m : Machine) : Machine :=
  match (load code).run m with
  | .ok true t => { t with running := true }
  | .ok false t => t
  | .error _ t => t

/-- A running machine has no alarm. -/
def RunsClear (m : Machine) : Prop := m.running = true → m.alarm = none

theorem yields_leftBy {α : Type} (x : MachineM α) (m : Machine) :
    Yields x m (fun _ t => t = leftBy x m) (fun _ t => t = leftBy x m) := by
  unfold Yields leftBy
  cases EStateM.run x m <;> rfl

theorem stepWhileRunning_stopped {m : Machine} (stopped : m.running = false) :
    ∀ n, stepWhileRunning n m = m
  | 0 => rfl
  | n + 1 => by rw [stepWhileRunning, if_neg (by simp [stopped])]

theorem with_running_self {m : Machine} {b : Bool} (same : m.running = b) :
    { m with running := b } = m := by
  subst same
  rfl

theorem alarm_of_alarmed {m : Machine} (alarmed : m.alarmed = true) : m.alarm ≠ none := by
  unfold Machine.alarmed at alarmed
  split at alarmed
  · rename_i a found
    rw [found]
    exact Option.some_ne_none a
  · cases alarmed

/-- A step leaves a machine that runs clear of alarms running clear: it keeps the alarm and the
running flag, or stops the machine. -/
theorem RunsClear.step {m : Machine} (clear : m.RunsClear) : (leftBy step m).RunsClear := by
  intro running
  have settled := step_settles m
  unfold Yields at settled
  unfold leftBy at running ⊢
  split at settled <;> rename_i t run <;> rw [run] at running ⊢ <;> dsimp only at running ⊢
  · rcases settled with quiet | rfl | ⟨-, a, raised⟩
    · rw [quiet.1]
      exact clear (quiet.2 ▸ running)
    · cases running
    · rw [raised.running] at running
      cases running
  · rw [settled.1]
    exact clear (settled.2 ▸ running)

/-- Loading stops the machine, and clears the alarm of a program that loads; loading that faults
has cleared the alarm before. -/
theorem yields_load_stops (L : List String) (m : Machine) :
    Yields (load L) m (fun loaded t => t.running = false ∧ (loaded = true → t.alarm = none))
      (fun _ t => t.alarm = none) := by
  unfold load
  rw [yields_modify_bind, yields_bind]
  refine (yields_reset _).mono (fun _ t cleared => ?_) (fun _ t failed => by subst failed; rfl)
  obtain ⟨rfl, -, -⟩ := cleared
  rw [yields_get_bind]
  rcases run : Loader.lines 1 L ⟨{ m with alarm := none }.cleared, 0⟩ with ⟨l, failure⟩
  -- the lines leave the running flag and the alarm as the reset left them
  have kept := Loader.adopt_lines 1 L ⟨{ m with alarm := none }.cleared, 0⟩
  rw [run] at kept
  dsimp only at kept
  rw [run]
  dsimp only
  rw [← kept]
  cases failure with
  | none => exact ⟨rfl, fun _ => rfl⟩
  | some f => exact ⟨rfl, fun no => by cases no⟩

theorem RunsClear.startedBy (L : List String) (m : Machine) : (startedBy L m).RunsClear := by
  intro running
  have stops := yields_load_stops L m
  unfold Yields at stops
  unfold Machine.startedBy at running ⊢
  split at stops <;> rename_i loaded t run <;> rw [run] at running ⊢
  · cases loaded
    · rw [stops.1] at running
      cases running
    · exact stops.2 rfl
  · exact stops

end Machine

namespace Window

variable {α β : Type}

/-- From a window whose machine runs clear of alarms, every outcome of `x`, a return or a fault,
leaves the machine and the memory size as they were. -/
def Aside (x : WindowM α) : Prop :=
  ∀ w, w.machine.RunsClear → Yields x w (fun _ v => v.machine = w.machine ∧ v.badSize = w.badSize)
    (fun _ v => v.machine = w.machine ∧ v.badSize = w.badSize)

/-! ## Operations beside the machine -/

section Aside

theorem Aside.bind {x : WindowM α} {f : α → WindowM β} (first : Aside x)
    (rest : ∀ a, Aside (f a)) : Aside (x >>= f) := by
  intro w clear
  rw [yields_bind]
  refine (first w clear).mono (fun a v kept => ?_) (fun _ _ kept => kept)
  refine (rest a v (kept.1 ▸ clear)).mono (fun _ u after => ?_) (fun _ u after => ?_) <;>
    exact ⟨after.1.trans kept.1, after.2.trans kept.2⟩

theorem aside_pure (a : α) : Aside (pure a : WindowM α) :=
  fun _ _ => ⟨rfl, rfl⟩

theorem aside_throw (e : Fault) : Aside (throw e : WindowM α) :=
  fun _ _ => ⟨rfl, rfl⟩

theorem aside_modify {g : Window → Window}
    (keeps : ∀ w, (g w).machine = w.machine ∧ (g w).badSize = w.badSize) :
    Aside (modify g : WindowM PUnit) :=
  fun w _ => keeps w

theorem Aside.ite {c : Prop} [Decidable c] {x y : WindowM α} (yes : Aside x) (no : Aside y) :
    Aside (if c then x else y) := by
  by_cases hc : c
  · simpa only [if_pos hc] using yes
  · simpa only [if_neg hc] using no

theorem aside_get_bind {f : Window → WindowM α} (rest : ∀ w, w.machine.RunsClear →
    Yields (f w) w (fun _ v => v.machine = w.machine ∧ v.badSize = w.badSize)
      (fun _ v => v.machine = w.machine ∧ v.badSize = w.badSize)) :
    Aside (get >>= f) :=
  fun w clear => (yields_get_bind f).mpr (rest w clear)

theorem aside_showByteCount : Aside showByteCount :=
  aside_modify fun _ => ⟨rfl, rfl⟩

theorem aside_showCounter : Aside showCounter :=
  (aside_modify fun _ => ⟨rfl, rfl⟩).bind fun _ => aside_showByteCount

theorem aside_markCurrentLine : Aside markCurrentLine :=
  aside_get_bind fun w clear => (aside_throw _).ite (aside_pure _) w clear

theorem aside_showBars : Aside showBars := by
  refine aside_get_bind fun w _ => ?_
  split
  · exact ⟨rfl, rfl⟩
  · rw [yields_set_bind]
    split
    · exact ⟨rfl, rfl⟩
    · exact ⟨rfl, rfl⟩

theorem aside_showMemory : Aside showMemory := by
  refine aside_get_bind fun w clear => ?_
  split
  · exact ⟨rfl, rfl⟩
  · split
    · exact ⟨rfl, rfl⟩
    · rw [yields_set_bind]
      exact aside_showBars _ clear

theorem aside_saveScratch : Aside saveScratch := by
  refine aside_get_bind fun w _ => ?_
  split
  · exact ⟨rfl, rfl⟩
  · exact ⟨rfl, rfl⟩

/-- Stopping a machine that runs clear of alarms when it has one changes nothing of it: it has
stopped already. -/
theorem aside_stopIfAlarmed :
    Aside (get >>= fun w : Window =>
      if w.machine.alarmed = true then set { w with errorText := alarmText w.machine } >>= fun _ =>
        stop
      else pure PUnit.unit) := by
  refine aside_get_bind fun w clear => ?_
  split
  · rename_i alarmed
    have stopped : w.machine.running = false := by
      cases running : w.machine.running
      · rfl
      · exact absurd (clear running) (Machine.alarm_of_alarmed alarmed)
    rw [yields_set_bind]
    unfold stop
    rw [yields_modify_bind, yields_get_bind]
    split <;> exact ⟨Machine.with_running_self stopped, rfl⟩
  · exact ⟨rfl, rfl⟩

end Aside

/-! ## Starting and ticking -/

section Ticks

variable {w : Window}

theorem yields_onMachine {ok : α → Window → Prop} {err : Fault → Window → Prop}
    (op : MachineM α) :
    Yields (onMachine op) w ok err ↔
      Yields op w.machine (fun a m => ok a { w with machine := m })
        (fun e m => err e { w with machine := m }) := by
  unfold Yields onMachine
  simp only [EStateM.run]
  cases op w.machine <;> exact Iff.rfl

/-- With a memory size that is a number, a step of the window is a step of its machine. -/
theorem yields_step (numeric : w.badSize = none) (clear : w.machine.RunsClear) :
    Yields step w
      (fun _ v => v.machine = Machine.leftBy Machine.step w.machine ∧ v.badSize = w.badSize)
      (fun _ v => v.machine = Machine.leftBy Machine.step w.machine ∧ v.badSize = w.badSize) := by
  unfold step
  rw [yields_get_bind, numeric]
  dsimp only
  rw [yields_bind, yields_onMachine]
  refine (Machine.yields_leftBy Machine.step w.machine).mono (fun saved t left => ?_)
    (fun _ _ left => ⟨left, numeric⟩)
  have stepped : t.RunsClear := by
    rw [left]
    exact clear.step
  split
  · refine (aside_saveScratch _ stepped).mono (fun _ v kept => ?_) (fun _ v kept => ?_) <;>
      exact ⟨kept.1.trans left, kept.2.trans numeric⟩
  · rw [yields_pure]
    exact ⟨left, numeric⟩

/-- A tick steps a running machine once and leaves a stopped one alone. -/
theorem yields_tick (numeric : w.badSize = none) (clear : w.machine.RunsClear) :
    Yields tick w
      (fun _ v => v.machine = (if w.machine.running then Machine.leftBy Machine.step w.machine
          else w.machine) ∧ v.badSize = w.badSize)
      (fun _ v => v.machine = (if w.machine.running then Machine.leftBy Machine.step w.machine
          else w.machine) ∧ v.badSize = w.badSize) := by
  unfold tick
  rw [yields_get_bind]
  by_cases running : w.machine.running = true
  · rw [if_pos running, if_pos running, yields_bind]
    refine (yields_step numeric clear).mono (fun _ v stepped => ?_) (fun _ _ stepped => stepped)
    have stays : v.machine.RunsClear := by
      rw [stepped.1]
      exact clear.step
    -- what follows the step only shows the machine, and stops it when it has stopped already
    refine ((aside_showCounter.bind fun _ => aside_markCurrentLine.bind fun _ =>
      aside_get_bind fun u clear' =>
        (Aside.ite (c := u.machine.pc % 30 = 0) (aside_showMemory.bind fun _ => aside_stopIfAlarmed)
          aside_stopIfAlarmed) u clear') v stays).mono (fun _ u kept => ?_) (fun _ u kept => ?_) <;>
      exact ⟨kept.1.trans stepped.1, kept.2.trans stepped.2⟩
  · rw [if_neg running, if_neg running, yields_pure]
    exact ⟨rfl, rfl⟩

/-- With a memory size that is a number, starting leaves the machine as loading the editor's
program and setting the machine running if it loaded. -/
theorem yields_start (numeric : w.badSize = none) :
    Yields start w
      (fun _ v => v.machine = Machine.startedBy (Source.lines w.editor) w.machine ∧
        v.badSize = w.badSize)
      (fun _ v => v.machine = Machine.startedBy (Source.lines w.editor) w.machine ∧
        v.badSize = w.badSize) := by
  unfold start loadProgram
  rw [yields_bind, yields_get_bind, numeric]
  dsimp only
  rw [yields_onMachine]
  have stops := Machine.yields_load_stops (Source.lines w.editor) w.machine
  cases run : (Machine.load (Source.lines w.editor)).run w.machine with
  | ok loaded t =>
    refine Yields.of_run_ok run ?_
    have stopped := stops.of_ok run
    cases loaded
    · rw [if_neg Bool.false_ne_true, yields_modify]
      exact ⟨by rw [Machine.startedBy, run], numeric⟩
    · have started : Machine.startedBy (Source.lines w.editor) w.machine =
          { t with running := true } := by
        rw [Machine.startedBy, run]
      have clear : ({ t with running := true } : Machine).RunsClear := fun _ => stopped.2 rfl
      rw [if_pos rfl, yields_modify_bind]
      refine ((aside_showMemory.bind fun _ => aside_showCounter) _ clear).mono
        (fun _ v kept => ?_) (fun _ v kept => ?_) <;>
        exact ⟨kept.1.trans started.symm, kept.2.trans numeric⟩
  | error e t =>
    exact Yields.of_run_error run ⟨by rw [Machine.startedBy, run], numeric⟩

/-- An action carried out keeps a property of windows that what it prints and the dialogs it
shows do not touch, if the action keeps the property, fault or not. -/
theorem perform_of_act {a : Action} {P : Window → Prop}
    (printless : ∀ v, P v → P { v with printed := "", dialogs := [] })
    (kept : Yields (act a) { w with printed := "", dialogs := [] } (fun _ => P) (fun _ => P)) :
    P (w.perform a).1 := by
  unfold perform
  unfold Yields at kept
  split <;> rename_i run <;> rw [run] at kept <;> exact printless _ kept

theorem perform_start (numeric : w.badSize = none) :
    (w.perform .start).1.machine = Machine.startedBy (Source.lines w.editor) w.machine ∧
      (w.perform .start).1.badSize = w.badSize := by
  refine perform_of_act (P := fun v => v.machine =
    Machine.startedBy (Source.lines w.editor) w.machine ∧ v.badSize = w.badSize)
    (fun _ kept => kept) ?_
  unfold act
  rw [yields_bind]
  exact (yields_start (w := { w with printed := "", dialogs := [] }) numeric).mono
    (fun _ _ kept => kept) (fun _ _ kept => kept)

theorem runsClear_perform_start (numeric : w.badSize = none) :
    (w.perform .start).1.machine.RunsClear := by
  rw [(perform_start numeric).1]
  exact Machine.RunsClear.startedBy _ _

theorem perform_tick (numeric : w.badSize = none) (clear : w.machine.RunsClear) :
    (w.perform (.tick 1)).1.machine =
        (if w.machine.running then Machine.leftBy Machine.step w.machine else w.machine) ∧
      (w.perform (.tick 1)).1.badSize = w.badSize := by
  refine perform_of_act (P := fun v => v.machine =
    (if w.machine.running then Machine.leftBy Machine.step w.machine else w.machine) ∧
      v.badSize = w.badSize) (fun _ kept => kept) ?_
  unfold act
  rw [yields_bind, repeatCounting, yields_bind]
  exact (yields_tick (w := { w with printed := "", dialogs := [] }) numeric clear).mono
    (fun _ _ kept => kept) (fun _ _ kept => kept)

end Ticks

end Window

/-- Ticks from a window with a numeric memory size and a machine running clear of alarms step the
machine while it runs. By induction on the number of ticks, each one a step or nothing. -/
theorem Window.actAll_ticks :
    ∀ (n : Nat) (w : Window), w.badSize = none → w.machine.RunsClear →
    (Window.actAll w (List.replicate n (.tick 1))).machine = Machine.stepWhileRunning n w.machine
  | 0, _, _, _ => rfl
  | n + 1, w, numeric, clear => by
    obtain ⟨ticked, sized⟩ := Window.perform_tick numeric clear
    have next : (w.perform (.tick 1)).1.machine.RunsClear := by
      rw [ticked]
      split
      · exact clear.step
      · exact clear
    rw [List.replicate_succ, Window.actAll_cons,
      Window.actAll_ticks n _ (sized.trans numeric) next, ticked]
    by_cases running : w.machine.running = true
    · rw [if_pos running, Machine.stepWhileRunning, if_pos running]
    · rw [if_neg running, Machine.stepWhileRunning, if_neg running,
        Machine.stepWhileRunning_stopped (by simpa using running)]

/-- Starting the machine from a window whose memory size is a number, and then `n` ticks of the
timer, leave the machine as loading the editor's program, setting the machine running if it
loaded, and stepping it while it runs, at most `n` times, each step from where the last left it. -/
theorem ticks_follow_steps (w : Window) (numeric : w.badSize = none) (n : Nat) :
    (Window.actAll w (.start :: List.replicate n (.tick 1))).machine =
      Machine.stepWhileRunning n (Machine.startedBy (Source.lines w.editor) w.machine) := by
  obtain ⟨started, sized⟩ := Window.perform_start numeric
  rw [Window.actAll_cons, Window.actAll_ticks n _ (sized.trans numeric)
    (Window.runsClear_perform_start numeric), started]

theorem ticks_follow_steps_sample :
    ({ Window.initial with editor := "SETALL" } : Window).badSize = none ∧
      (Window.actAll { Window.initial with editor := "SETALL" }
          (.start :: List.replicate 2 (.tick 1))).machine =
        Machine.stepWhileRunning 2 (Machine.startedBy (Source.lines "SETALL")
          ({ Window.initial with editor := "SETALL" } : Window).machine) :=
  ⟨rfl, ticks_follow_steps _ rfl 2⟩

/-- A window whose memory size was set to -5 while its machine ran, with SETALL in the editor. -/
def unallocatableWindow : Window :=
  { Window.initial with
    machine := { Window.initial.machine with size := -5, running := true }
    editor := "SETALL" }

/-- Starting fails when the memory size cannot be allocated, and leaves the alarm cleared; but the
machine still runs, and the next tick steps it, which raises an alarm. -/
theorem failed_start_keeps_stepping :
    (unallocatableWindow.perform .start).2.fault = some .negativeSize ∧
      (Window.actAll unallocatableWindow [.start]).machine.alarm = none ∧
      (Window.actAll unallocatableWindow [.start, .tick 1]).machine.alarm =
        some .counterOutOfRange := by
  obtain ⟨started, sized⟩ := Window.perform_start (w := unallocatableWindow) rfl
  obtain ⟨ticked, -⟩ := Window.perform_tick sized (Window.runsClear_perform_start rfl)
  refine ⟨by decide, ?_, ?_⟩
  · show (unallocatableWindow.perform .start).1.machine.alarm = none
    rw [started]
    decide
  · show ((unallocatableWindow.perform .start).1.perform (.tick 1)).1.machine.alarm = _
    rw [ticked, started]
    decide

end LedMachine
