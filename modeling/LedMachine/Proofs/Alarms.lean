import LedMachine.Proofs.Reference

/-!
# What a step that raises the alarm leaves behind

Every instruction but setting and clearing pixels makes all its checks before its first write,
so when one of them raises the alarm, the machine it stops is the machine it started from. Setting
and clearing check pair by pair and paint each pair as it passes: when a later pair fails, the
pixels of the pairs before it stay painted. `Raised` is the outcome of a raised alarm with that
one exception, and `step_alarm_changes_only_pixels` says that every step that raises the alarm
has it, from any machine: the counter, the wait, the memory and the scratchpad are as they were,
and no save is asked for. `alarm_keeps_earlier_pixels` is a step that raises the alarm and leaves
a pixel lit.

The outcomes of an instruction are sorted by `Settles`: quiet ones keep the alarm and the running
flag, and the others are raised alarms. Reads leave the machine as it was (`keeps_same_cell`), so
an instruction settles when each of its checks either passes to quiet operations or halts.

A quiet step keeps an alarm the machine showed before, so on a machine that shows one the outcome
alone does not tell whether the step raised an alarm. The step never reads the alarm
(`alarmBlind_step`): from a machine with an earlier alarm it does what it does from the machine
without it, and the earlier alarm stands unless the step raises its own. So the alarm a step
raises is the alarm it ends with from the machine without one (`Raises`), and what a raised alarm
leaves behind carries over from machines without an alarm to every machine.
-/

namespace LedMachine

namespace Machine

/-- Every outcome of `x` keeps the alarm and the running flag, but a return that raises the alarm
having changed nothing else and asks for no save. -/
def Settles (x : MachineM Bool) : Prop :=
  ∀ m, Yields x m (fun saved t => Quiet m t ∨ saved = false ∧ ∃ a, Raised m a t)
    (fun _ t => Quiet m t)

/-! ## Reads -/

section Reads

variable {α : Type}

theorem keeps_same_liftFault (r : Except Fault α) : Keeps (fun m t => t = m) (liftFault r) := by
  intro m
  cases r with
  | error e => exact (rfl : m = m)
  | ok a => exact (rfl : m = m)

theorem keeps_same_cell (i : Int) : Keeps (fun m t => t = m) (cell i) := by
  intro m
  simpa only [cell, bind_assoc, yields_get_bind] using keeps_same_liftFault (m.ram.get i) m

end Reads

/-! ## Instructions that settle -/

section Settling

variable {α : Type}

theorem Settles.of_quiet {x : MachineM Bool} (quietly : Keeps quiet.rel x) : Settles x :=
  fun m => (quietly m).mono (fun _ _ kept => .inl kept) (fun _ _ kept => kept)

/-- A read and then an instruction that settles settle. -/
theorem Settles.read {x : MachineM α} {f : α → MachineM Bool} (read : Keeps (fun m t => t = m) x)
    (rest : ∀ a, Settles (f a)) : Settles (x >>= f) := by
  intro m
  rw [yields_bind]
  refine (read m).mono (fun a t same => ?_) (fun _ t same => same ▸ quiet.refl t)
  subst same
  exact rest a t

/-- A check that either passes to quiet operations or halts settles. -/
theorem Settles.check {c : Prop} [Decidable c] {x : MachineM Bool} (quietly : Keeps quiet.rel x)
    (a : Alarm) : Settles (if c then x else halt a >>= fun _ => pure false) := by
  by_cases passed : c
  · rw [if_pos passed]
    exact Settles.of_quiet quietly
  · rw [if_neg passed]
    intro m
    rw [yields_halt_bind, yields_pure]
    exact .inr ⟨rfl, a, raised_halt m a⟩

end Settling

section Operands

-- The operands of a step are bytes read as integers. Runs are taken apart here by the rules of
-- an outcome only: opened by unfolding, a run on a read byte would be evaluated in full.
attribute [local irreducible] Yields

/-- Every instruction with fixed operands makes all its checks before its first write. One case
per opcode: its reads, then its check. -/
theorem execute_fixed_settles {op : Opcode} (fixed : op.takesPairs = false) (pc : Int) :
    Settles (execute op pc) := by
  intro m
  unfold execute
  rw [yields_get_bind]
  cases op <;> dsimp only
  case set | clear => cases fixed
  case wait =>
    refine Settles.read (keeps_same_cell _) (fun n => Settles.of_quiet ?_) m
    exact (keeps_modify fun _ => ⟨rfl, rfl⟩).bind fun _ => (quiet_advance 2).bind fun _ =>
      keeps_pure false
  case loop => exact Settles.of_quiet ((quiet_jumpTo _).bind fun _ => keeps_pure false) m
  case setAll | setNone =>
    exact Settles.of_quiet ((keeps_modify fun _ => ⟨rfl, rfl⟩).bind fun _ =>
      (quiet_advance 1).bind fun _ => keeps_pure false) m
  case store =>
    exact (Settles.read (keeps_same_cell _) fun _ => Settles.read (keeps_same_cell _) fun _ =>
      Settles.check ((keeps_store _ _).bind fun _ => (quiet_advance 3).bind fun _ =>
        keeps_pure false) _) m
  case load =>
    exact (Settles.read (keeps_same_cell _) fun _ =>
      Settles.check ((keeps_cell _).bind fun _ => (keeps_paint _ _ _).bind fun _ =>
        (quiet_advance 2).bind fun _ => keeps_pure false) _) m
  case jump =>
    exact (Settles.read (keeps_same_cell _) fun _ =>
      Settles.check ((quiet_jumpTo _).bind fun _ => keeps_pure false) _) m
  case jumpIf =>
    exact (Settles.read (keeps_same_cell _) fun _ => Settles.read (keeps_same_cell _) fun _ =>
      Settles.check ((keeps_cell _).bind fun _ =>
        Keeps.ite (fun _ => (quiet_jumpTo _).bind fun _ => keeps_pure false)
          (fun _ => (quiet_advance 3).bind fun _ => keeps_pure false)) _) m
  case scratchStore =>
    exact (Settles.read (keeps_same_cell _) fun _ => Settles.read (keeps_same_cell _) fun _ =>
      Settles.check ((keeps_storeScratch _ _).bind fun _ => (quiet_advance 3).bind fun _ =>
        keeps_pure true) _) m
  case scratchLoad =>
    exact (Settles.read (keeps_same_cell _) fun _ => Settles.read (keeps_same_cell _) fun _ =>
      Settles.check ((keeps_scratchCell _).bind fun _ => (keeps_storeValue _ _).bind fun _ =>
        (quiet_advance 3).bind fun _ => keeps_pure false) _) m
  case scratchAdd =>
    exact (Settles.read (keeps_same_cell _) fun _ => Settles.read (keeps_same_cell _) fun _ =>
      Settles.read (keeps_same_cell _) fun _ =>
      Settles.check ((keeps_scratchCell _).bind fun _ => (keeps_scratchCell _).bind fun _ =>
        (keeps_liftFault _).bind fun _ => (keeps_liftFault _).bind fun _ =>
        (keeps_storeScratch _ _).bind fun _ => (quiet_advance 4).bind fun _ =>
        keeps_pure true) _) m
  case scratchCopy =>
    exact (Settles.read (keeps_same_cell _) fun _ => Settles.read (keeps_same_cell _) fun _ =>
      Settles.check ((keeps_cell _).bind fun _ => (keeps_storeScratch _ _).bind fun _ =>
        (quiet_advance 3).bind fun _ => keeps_pure true) _) m
  case scratchJumpIf =>
    exact (Settles.read (keeps_same_cell _) fun _ => Settles.read (keeps_same_cell _) fun _ =>
      Settles.check ((keeps_scratchCell _).bind fun _ => (keeps_liftFault _).bind fun _ =>
        Keeps.ite (fun _ => (quiet_jumpTo _).bind fun _ => keeps_pure false)
          (fun _ => (quiet_advance 3).bind fun _ => keeps_pure false)) _) m
  case add | bitAnd | bitOr | bitXor | sub =>
    exact (Settles.read (keeps_same_cell _) fun _ => Settles.read (keeps_same_cell _) fun _ =>
      Settles.read (keeps_same_cell _) fun _ =>
      Settles.check ((keeps_cell _).bind fun _ => (keeps_cell _).bind fun _ =>
        (keeps_store _ _).bind fun _ => (quiet_advance 4).bind fun _ => keeps_pure false) _) m
  case bitNot | shiftLeft | shiftRight =>
    exact (Settles.read (keeps_same_cell _) fun _ => Settles.read (keeps_same_cell _) fun _ =>
      Settles.check ((keeps_cell _).bind fun _ => (keeps_store _ _).bind fun _ =>
        (quiet_advance 3).bind fun _ => keeps_pure false) _) m

/-- Setting or clearing pixels paints pair by pair: a bad pair raises the alarm with the pairs
before it painted. -/
theorem execute_pairs_settles {m : Machine} {op : Opcode} (pairs : op.takesPairs = true)
    (read : m.ram.get m.pc = .ok op.code) :
    Yields (execute op m.pc) m (fun saved t => Quiet m t ∨ saved = false ∧ ∃ a, Raised m a t)
      (fun _ t => Quiet m t) := by
  unfold execute
  rw [yields_get_bind]
  cases op <;> dsimp only <;> cases pairs
  all_goals
    rw [yields_cell_bind]
    refine ⟨fun _ _ => quiet.refl m, fun count _ => ?_⟩
    rw [yields_bind]
    refine (yields_paintPairs_painted _ _ count (m.pc + 2) m).mono (fun r t painted => ?_)
      (fun _ _ kept => kept)
    obtain ⟨coords, held, allOn, rfl⟩ := painted
    cases r with
    | ok next =>
      rw [yields_jumpTo_bind, yields_pure]
      exact .inl ⟨rfl, rfl⟩
    | error a =>
      rw [yields_halt_bind, yields_pure]
      exact .inr ⟨rfl, a, .inr ⟨_, coords, rfl, read, held, allOn, rfl⟩⟩

end Operands

/-- Every step keeps the alarm and the running flag, stops at a blank cell, or raises the alarm
with nothing changed but the pixels of the pairs before a bad one; a step that faults keeps the
alarm and the running flag. -/
theorem step_settles (m : Machine) :
    Yields step m (fun saved t => Quiet m t ∨ t = { m with running := false } ∨
      saved = false ∧ ∃ a, Raised m a t) (fun _ t => Quiet m t) := by
  unfold step
  rw [yields_get_bind]
  by_cases waiting : 0 < m.delay
  · rw [if_pos waiting, yields_set_bind, yields_pure]
    exact .inl ⟨rfl, rfl⟩
  rw [if_neg waiting]
  by_cases beyond : m.size ≤ m.pc
  · rw [if_pos beyond, yields_halt_bind, yields_pure]
    exact .inr (.inr ⟨rfl, _, raised_halt m _⟩)
  rw [if_neg beyond, yields_cell_bind]
  refine ⟨fun _ _ => quiet.refl m, fun code read => ?_⟩
  by_cases blank : code = 0
  · rw [if_pos blank, yields_set_bind, yields_pure]
    exact .inr (.inl rfl)
  rw [if_neg blank]
  cases known : Opcode.ofCode? code with
  | none =>
    dsimp only
    rw [yields_halt_bind, yields_pure]
    exact .inr (.inr ⟨rfl, _, raised_halt m _⟩)
  | some op =>
    dsimp only
    obtain rfl := Opcode.code_of_ofCode? known
    by_cases short : m.size ≤ m.pc + op.arity
    · rw [if_pos short, yields_halt_bind, yields_pure]
      exact .inr (.inr ⟨rfl, _, raised_halt m _⟩)
    rw [if_neg short]
    have settles : Yields (execute op m.pc) m
        (fun saved t => Quiet m t ∨ saved = false ∧ ∃ a, Raised m a t) (fun _ t => Quiet m t) := by
      cases pairs : op.takesPairs
      · exact execute_fixed_settles pairs m.pc m
      · exact execute_pairs_settles pairs read
    exact settles.mono (fun _ _ settled => settled.elim .inl (fun raised => .inr (.inr raised)))
      (fun _ _ kept => kept)

/-- A step from a machine with no alarm that raises one asks for no save and changes nothing but
the alarm, the running flag and the pixels of the coordinate pairs before a bad one. -/
theorem step_alarm_of_clear {m : Machine} (clear : m.alarm = none) :
    Yields step m (fun saved t => ∀ a, t.alarm = some a → saved = false ∧ Raised m a t)
      (fun _ _ => True) := by
  refine (step_settles m).mono (fun saved t settled a raised => ?_) (fun _ _ _ => trivial)
  rcases settled with quiet | stopped | ⟨unsaved, b, raisedB⟩
  · -- a quiet step keeps the alarm, and there was none
    rw [quiet.1, clear] at raised
    cases raised
  · rw [stopped, clear] at raised
    cases raised
  · obtain rfl : b = a := Option.some.inj (raisedB.alarm.symm.trans raised)
    exact ⟨unsaved, raisedB⟩

/-! ## The step never reads the alarm -/

/-- The machine `m` with the alarm `a` standing, unless `m` shows an alarm of its own. -/
def underAlarm (a : Option Alarm) (m : Machine) : Machine :=
  { m with alarm := m.alarm.or a }

/-- An operation that never reads the alarm: from a machine with an earlier alarm standing it does
what it does from the machine without it, and the earlier alarm still stands after it unless the
operation raised one of its own. -/
def AlarmBlind {α : Type} (x : MachineM α) : Prop :=
  ∀ (a : Option Alarm) (m : Machine) (ok : α → Machine → Prop) (err : Fault → Machine → Prop),
    Yields x (m.underAlarm a) ok err ↔
      Yields x m (fun b t => ok b (t.underAlarm a)) (fun e t => err e (t.underAlarm a))

section Blind

variable {α β : Type}

theorem AlarmBlind.pure (v : α) : AlarmBlind (pure v : MachineM α) :=
  fun _ _ _ _ => Iff.rfl

theorem AlarmBlind.bind {x : MachineM α} {f : α → MachineM β} (first : AlarmBlind x)
    (rest : ∀ v, AlarmBlind (f v)) : AlarmBlind (x >>= f) := by
  intro a m ok err
  rw [yields_bind, yields_bind, first]
  exact yields_congr fun v t => rest v a t ok err

theorem AlarmBlind.ite {c : Prop} [Decidable c] {x y : MachineM α} (yes : AlarmBlind x)
    (no : AlarmBlind y) : AlarmBlind (if c then x else y) := by
  by_cases holds : c
  · rw [if_pos holds]
    exact yes
  · rw [if_neg holds]
    exact no

theorem AlarmBlind.liftFault (r : Except Fault α) : AlarmBlind (liftFault r) := by
  intro a m ok err
  cases r <;> exact Iff.rfl

/-- A change of the machine that an earlier alarm does not disturb. -/
theorem AlarmBlind.modify {g : Machine → Machine}
    (commutes : ∀ a t, g (t.underAlarm a) = (g t).underAlarm a) :
    AlarmBlind (modify g : MachineM PUnit) := by
  intro a m ok err
  rw [yields_modify, yields_modify, commutes]

/-- A read of the machine whose use of it leaves the alarm aside. -/
theorem AlarmBlind.get_bind {f : Machine → MachineM β} (reads : ∀ a t, f (t.underAlarm a) = f t)
    (rest : ∀ t, AlarmBlind (f t)) : AlarmBlind (get >>= f) := by
  intro a m ok err
  rw [yields_get_bind, yields_get_bind, reads]
  exact rest m a m ok err

theorem alarmBlind_cell (i : Int) : AlarmBlind (cell i) := by
  unfold cell
  exact AlarmBlind.get_bind (fun _ _ => rfl) fun _ => AlarmBlind.liftFault _

theorem alarmBlind_scratchCell (i : Int) : AlarmBlind (scratchCell i) := by
  unfold scratchCell
  exact AlarmBlind.get_bind (fun _ _ => rfl) fun _ => AlarmBlind.liftFault _

theorem alarmBlind_store (i v : Int) : AlarmBlind (store i v) := by
  intro a m ok err
  rw [← bind_pure (store i v), yields_store_bind, yields_store_bind]
  exact Iff.rfl

theorem alarmBlind_storeScratch (i : Int) (v : Value) : AlarmBlind (storeScratch i v) := by
  intro a m ok err
  rw [← bind_pure (storeScratch i v), yields_storeScratch_bind, yields_storeScratch_bind]
  exact Iff.rfl

theorem alarmBlind_storeValue (i : Int) (v : Value) : AlarmBlind (storeValue i v) :=
  (AlarmBlind.liftFault _).bind fun b => alarmBlind_store i b

theorem alarmBlind_halt (a : Alarm) : AlarmBlind (halt a) :=
  AlarmBlind.modify fun _ _ => rfl

theorem alarmBlind_advance (n : Nat) : AlarmBlind (advance n) :=
  AlarmBlind.modify fun _ _ => rfl

theorem alarmBlind_jumpTo (a : Int) : AlarmBlind (jumpTo a) :=
  AlarmBlind.modify fun _ _ => rfl

theorem alarmBlind_paint (x y : Int) (lit : Bool) : AlarmBlind (paint x y lit) :=
  AlarmBlind.modify fun _ _ => rfl

/-- The end of an instruction that fails: it halts with its alarm. -/
theorem alarmBlind_halting (a : Alarm) (b : Bool) : AlarmBlind (halt a >>= fun _ => pure b) :=
  (alarmBlind_halt a).bind fun _ => AlarmBlind.pure b

/-- The end of an instruction that goes on: it moves the counter past itself. -/
theorem alarmBlind_advancing (n : Nat) (b : Bool) : AlarmBlind (advance n >>= fun _ => pure b) :=
  (alarmBlind_advance n).bind fun _ => AlarmBlind.pure b

/-- The end of an instruction that jumps. -/
theorem alarmBlind_jumping (a : Int) : AlarmBlind (jumpTo a >>= fun _ => pure false) :=
  (alarmBlind_jumpTo a).bind fun _ => AlarmBlind.pure false

/-- Painting pairs reads and paints, pair by pair. -/
theorem alarmBlind_paintPairs (op : Opcode) (lit : Bool) :
    ∀ (count : Nat) (addr : Int), AlarmBlind (paintPairs op lit count addr)
  | 0, _ => AlarmBlind.pure _
  | count + 1, addr => by
    unfold paintPairs
    exact AlarmBlind.get_bind (fun _ _ => rfl) fun _ => AlarmBlind.ite (AlarmBlind.pure _)
      ((alarmBlind_cell _).bind fun _ => (alarmBlind_cell _).bind fun _ =>
        AlarmBlind.ite ((alarmBlind_paint _ _ _).bind fun _ =>
          alarmBlind_paintPairs op lit count (addr + 2)) (AlarmBlind.pure _))

/-- No instruction reads the alarm: each is made of reads, writes, moves of the counter and halts,
bound and branched, and uses the machine it reads only for its size and its entry point. -/
theorem alarmBlind_execute (op : Opcode) (pc : Int) : AlarmBlind (execute op pc) := by
  unfold execute
  cases op <;> refine AlarmBlind.get_bind (fun _ _ => rfl) fun m => ?_ <;> dsimp only
  case set | clear =>
    refine (alarmBlind_cell _).bind fun count =>
      (alarmBlind_paintPairs _ _ count _).bind fun r => ?_
    cases r with
    | ok next => exact alarmBlind_jumping _
    | error a => exact alarmBlind_halting a false
  case wait =>
    exact (alarmBlind_cell _).bind fun _ => (AlarmBlind.modify fun _ _ => rfl).bind fun _ =>
      alarmBlind_advancing _ _
  case loop => exact alarmBlind_jumping _
  case setAll | setNone =>
    exact (AlarmBlind.modify fun _ _ => rfl).bind fun _ => alarmBlind_advancing _ _
  case store =>
    exact (alarmBlind_cell _).bind fun _ => (alarmBlind_cell _).bind fun _ =>
      AlarmBlind.ite ((alarmBlind_store _ _).bind fun _ => alarmBlind_advancing _ _)
        (alarmBlind_halting _ _)
  case load =>
    exact (alarmBlind_cell _).bind fun _ =>
      AlarmBlind.ite ((alarmBlind_cell _).bind fun _ => (alarmBlind_paint _ _ _).bind fun _ =>
        alarmBlind_advancing _ _) (alarmBlind_halting _ _)
  case jump =>
    exact (alarmBlind_cell _).bind fun _ =>
      AlarmBlind.ite (alarmBlind_jumping _) (alarmBlind_halting _ _)
  case jumpIf =>
    exact (alarmBlind_cell _).bind fun _ => (alarmBlind_cell _).bind fun _ =>
      AlarmBlind.ite ((alarmBlind_cell _).bind fun _ =>
          AlarmBlind.ite (alarmBlind_jumping _) (alarmBlind_advancing _ _))
        (alarmBlind_halting _ _)
  case scratchStore =>
    exact (alarmBlind_cell _).bind fun _ => (alarmBlind_cell _).bind fun _ =>
      AlarmBlind.ite ((alarmBlind_storeScratch _ _).bind fun _ => alarmBlind_advancing _ _)
        (alarmBlind_halting _ _)
  case scratchLoad =>
    exact (alarmBlind_cell _).bind fun _ => (alarmBlind_cell _).bind fun _ =>
      AlarmBlind.ite ((alarmBlind_scratchCell _).bind fun _ => (alarmBlind_storeValue _ _).bind
        fun _ => alarmBlind_advancing _ _) (alarmBlind_halting _ _)
  case scratchAdd =>
    exact (alarmBlind_cell _).bind fun _ => (alarmBlind_cell _).bind fun _ =>
      (alarmBlind_cell _).bind fun _ =>
      AlarmBlind.ite ((alarmBlind_scratchCell _).bind fun _ => (alarmBlind_scratchCell _).bind
          fun _ => (AlarmBlind.liftFault _).bind fun _ => (AlarmBlind.liftFault _).bind fun _ =>
          (alarmBlind_storeScratch _ _).bind fun _ => alarmBlind_advancing _ _)
        (alarmBlind_halting _ _)
  case scratchCopy =>
    exact (alarmBlind_cell _).bind fun _ => (alarmBlind_cell _).bind fun _ =>
      AlarmBlind.ite ((alarmBlind_cell _).bind fun _ => (alarmBlind_storeScratch _ _).bind fun _ =>
        alarmBlind_advancing _ _) (alarmBlind_halting _ _)
  case scratchJumpIf =>
    exact (alarmBlind_cell _).bind fun _ => (alarmBlind_cell _).bind fun _ =>
      AlarmBlind.ite ((alarmBlind_scratchCell _).bind fun _ =>
          (AlarmBlind.liftFault _).bind fun _ =>
          AlarmBlind.ite (alarmBlind_jumping _) (alarmBlind_advancing _ _))
        (alarmBlind_halting _ _)
  case add | bitAnd | bitOr | bitXor | sub =>
    exact (alarmBlind_cell _).bind fun _ => (alarmBlind_cell _).bind fun _ =>
      (alarmBlind_cell _).bind fun _ =>
      AlarmBlind.ite ((alarmBlind_cell _).bind fun _ => (alarmBlind_cell _).bind fun _ =>
        (alarmBlind_store _ _).bind fun _ => alarmBlind_advancing _ _) (alarmBlind_halting _ _)
  case bitNot | shiftLeft | shiftRight =>
    exact (alarmBlind_cell _).bind fun _ => (alarmBlind_cell _).bind fun _ =>
      AlarmBlind.ite ((alarmBlind_cell _).bind fun _ => (alarmBlind_store _ _).bind fun _ =>
        alarmBlind_advancing _ _) (alarmBlind_halting _ _)

/-- A step never reads the alarm. Its branches read the wait, the size, the counter and the memory,
which an alarm leaves alone, and where it sets the machine it read, it sets it with the alarm the
machine showed. -/
theorem alarmBlind_step : AlarmBlind step := by
  intro a m ok err
  unfold step
  rw [yields_get_bind, yields_get_bind]
  by_cases waiting : 0 < m.delay
  · rw [if_pos (show 0 < (m.underAlarm a).delay from waiting), if_pos waiting, yields_set_bind,
      yields_set_bind, yields_pure, yields_pure]
    exact Iff.rfl
  rw [if_neg (show ¬0 < (m.underAlarm a).delay from waiting), if_neg waiting]
  by_cases beyond : m.size ≤ m.pc
  · rw [if_pos (show (m.underAlarm a).size ≤ (m.underAlarm a).pc from beyond), if_pos beyond]
    exact alarmBlind_halting _ false a m ok err
  rw [if_neg (show ¬(m.underAlarm a).size ≤ (m.underAlarm a).pc from beyond), if_neg beyond,
    yields_cell_bind, yields_cell_bind]
  refine and_congr Iff.rfl (forall_congr' fun code => imp_congr_right fun _ => ?_)
  by_cases blank : code = 0
  · rw [if_pos blank, if_pos blank, yields_set_bind, yields_set_bind, yields_pure, yields_pure]
    exact Iff.rfl
  rw [if_neg blank, if_neg blank]
  cases Opcode.ofCode? code with
  | none => exact alarmBlind_halting _ false a m ok err
  | some op =>
    dsimp only
    by_cases short : m.size ≤ m.pc + op.arity
    · rw [if_pos (show (m.underAlarm a).size ≤ (m.underAlarm a).pc + op.arity from short),
        if_pos short]
      exact alarmBlind_halting _ false a m ok err
    rw [if_neg (show ¬(m.underAlarm a).size ≤ (m.underAlarm a).pc + op.arity from short),
      if_neg short]
    exact alarmBlind_execute op m.pc a m ok err

end Blind

/-- The step raises the alarm `a` from `m`: started without the alarm `m` shows, it ends showing
`a`. As the step never reads the alarm (`alarmBlind_step`), that is the alarm the step from `m`
itself raises. -/
def Raises (m : Machine) (a : Alarm) : Prop :=
  Yields step { m with alarm := none } (fun _ t => t.alarm = some a) (fun _ _ => False)

theorem underAlarm_cleared (m : Machine) :
    ({ m with alarm := none } : Machine).underAlarm m.alarm = m :=
  rfl

/-- An alarm a machine shows stands over any earlier one. -/
theorem underAlarm_of_alarm {t : Machine} {b : Alarm} (a : Option Alarm) (shows : t.alarm = some b) :
    t.underAlarm a = t := by
  cases t
  cases shows
  rfl

/-- A step that raises an alarm, from any machine, whatever alarm it showed before, asks for no save
and changes nothing but the alarm, the running flag and the pixels of the coordinate pairs before
a bad one. -/
theorem step_alarm_changes_only_pixels (m : Machine) :
    Yields step m (fun saved t => ∀ a, m.Raises a → saved = false ∧ Raised m a t)
      (fun _ _ => True) := by
  -- the step from `m` is the step from `m` without its alarm, with that alarm put back
  rw [← underAlarm_cleared m, alarmBlind_step]
  have clear := step_alarm_of_clear (m := { m with alarm := none }) rfl
  cases run : step.run { m with alarm := none } with
  | ok saved t =>
    apply Yields.of_run_ok run
    intro a raises
    have raisedHere : t.alarm = some a := raises.of_ok run
    obtain ⟨unsaved, raised⟩ := clear.of_ok run a raisedHere
    -- the alarm raised stands, and the machine raised on is `m` but for the alarm it overwrites
    rw [underAlarm_of_alarm m.alarm raisedHere]
    exact ⟨unsaved, raised⟩
  | error e t => exact Yields.of_run_error run trivial

/-- A machine of eight cells with SET 0 0, 9 9 at its counter: two pixels, the second off the
grid. -/
def pairsMachine : Machine :=
  { size := 8, ram := (Memory.zeros 8).write 0 [Opcode.set.code, 2, 0, 0, 9, 9],
    scratch := freshScratch }

/-- The machine already shows the alarm of a counter out of range, and its step raises another. -/
theorem step_alarm_changes_only_pixels_sample :
    ({ pairsMachine with alarm := some .counterOutOfRange } : Machine).Raises
        (.badCoordinates .set 9 9) ∧
      Yields step { pairsMachine with alarm := some .counterOutOfRange }
        (fun saved t => ∀ a, Raises { pairsMachine with alarm := some .counterOutOfRange } a →
          saved = false ∧ Raised { pairsMachine with alarm := some .counterOutOfRange } a t)
        (fun _ _ => True) :=
  ⟨by unfold Raises; decide, step_alarm_changes_only_pixels _⟩

/-- Setting two pixels of which the second lies off the grid raises the alarm and leaves the first
lit: the alarm is not all a failed step leaves. -/
theorem alarm_keeps_earlier_pixels :
    Yields step pairsMachine (fun _ t => t.alarm ≠ none ∧ t.grid ≠ pairsMachine.grid)
      (fun _ _ => False) := by
  decide

end Machine

end LedMachine
