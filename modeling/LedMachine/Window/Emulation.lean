import LedMachine.Assembler.Load
import LedMachine.Window.Panels

/-!
# Running the machine from the window

Starting loads the editor's program and sets the machine running; a timer tick steps a running
machine once and stops it on an alarm; stepping by hand loads the program first when the machine
does not run, and stops at a breakpoint. Changing the memory size builds a new machine, which
reads the scratchpad back, and resets it.

With a memory size that is no number, the machine cannot compare its counter against it, and
neither resetting nor loading can make a memory of it.
-/

namespace LedMachine

namespace Window

/-- One step of the machine, saving the scratchpad if the step changed it. -/
def step : WindowM Unit := do
  let w ← get
  match w.badSize with
  | some b => if 0 < w.machine.delay then discard (onMachine Machine.step) else throw (.incomparable ">=" b.type)
  | none => if ← onMachine Machine.step then saveScratch

/-- Sends the counter to the entry point and ends the wait, as a reset begins. -/
def rewind : WindowM Unit :=
  modify fun w => { w with machine.pc := w.machine.entry, machine.delay := 0 }

/-- Resets the machine. -/
def resetMachine : WindowM Unit := do
  match (← get).badSize with
  | some b => rewind; throw b.allocFault
  | none => onMachine Machine.reset

/-- Loads the editor's program into the machine; tells whether it loaded. -/
def loadProgram : WindowM Bool := do
  let w ← get
  match w.badSize with
  | some b =>
    modify fun w => { w with machine.alarm := none }
    rewind
    throw b.allocFault
  | none => onMachine (Machine.load (Source.lines w.editor))

/-- The alarm's message, or the empty text. -/
def alarmText (m : Machine) : String :=
  match m.alarm with
  | some a => a.message
  | none => ""

/-- Stops the machine and shows its alarm, if it has one. -/
def stop : WindowM Unit := do
  modify fun w => { w with machine.running := false, status := "Stopped" }
  let w ← get
  if w.machine.alarmed then set { w with errorText := alarmText w.machine }

/-- Loads the program and, if it loaded, starts the machine. -/
def start : WindowM Unit := do
  if ← loadProgram then
    modify fun w => { w with errorText := "", machine.running := true, status := "Running..." }
    showMemory
    showCounter
  else
    modify fun w => { w with errorText := alarmText w.machine, status := "Error loading program" }

/-- Stops and resets the machine and shows it anew. -/
def reset : WindowM Unit := do
  stop
  resetMachine
  modify fun w => { w with errorText := "" }
  showMemory
  showCounter
  setStatus "Reset completed"

/-- One timer tick: a running machine steps once, and stops on an alarm. -/
def tick : WindowM Unit := do
  if (← get).machine.running then
    step
    showCounter
    markCurrentLine
    if (← get).machine.pc % 30 = 0 then showMemory
    let w ← get
    if w.machine.alarmed then
      set { w with errorText := alarmText w.machine }
      stop

/-- One step by hand: loads the program first unless the machine runs, and stops at a
breakpoint. -/
def stepByHand : WindowM Unit := do
  if !(← get).machine.running then
    if !(← loadProgram) then return
    modify fun w => { w with machine.running := true }
  step
  showCounter
  markCurrentLine
  showMemory
  let w ← get
  if w.breakpoints.contains w.machine.pc then stop

/-- Builds a new machine with a memory of the size a text reads as, keeping the grid, and
resets it. -/
def changeSize (text : String) : WindowM Unit := do
  let n ← match readInt text with
    | .ok n => pure n
    | .error e => throw (.badNumeral e)
  match Machine.create n (← get).machine.grid with
  | .error f => throw f
  | .ok m =>
    modify fun w => { w with machine := m, badSize := none }
    restoreScratch
  reset
  modify fun w => { w with memoryTitle := "RAM (" ++ toString n ++ " bytes)" }
  showByteCount

/-- Toggles the breakpoint on the cursor's line, which is the first line. -/
def toggleBreakpoint : WindowM Unit :=
  modify fun w =>
    if w.breakpoints.contains 1 then { w with breakpoints := w.breakpoints.erase 1 }
    else { w with breakpoints := (1 :: w.breakpoints).mergeSort (· ≤ ·) }

end Window

end LedMachine
