import LedMachine.Editor.Highlight
import LedMachine.Session
import LedMachine.Window.Emulation
import LedMachine.Window.FileMenu

/-!
# Actions on the window

Every action is one thing a user, a timer or a test does to the window. Carrying one out gives
the window after it and a reply: the counters after each of several steps, the verdict of a
question, the highlighted stretches, the dialogs shown, the text printed, and the fault that
ended the action, if one did. A fault keeps the changes made before it.
-/

namespace LedMachine

/-- Something done to the window. -/
inductive Action where
  /-- Replace the editor's text. -/
  | setText (s : String)
  /-- Load the program and start the machine. -/
  | start
  /-- Stop the machine. -/
  | stop
  /-- Stop and reset the machine. -/
  | reset
  /-- Bring the byte counter up to date. -/
  | showByteCount
  /-- Show the program counter (and the byte counter). -/
  | showCounter
  /-- Show the memory and the scratchpad. -/
  | showMemory
  /-- Mark the source line of the program counter. -/
  | markCurrentLine
  /-- Toggle the breakpoint on the cursor's line. -/
  | toggleBreakpoint
  /-- Mark the cursor's line. -/
  | markCursorLine
  /-- Show the help. -/
  | showHelp
  /-- Show what the program is. -/
  | showAbout
  /-- Save, choosing this name if asked. -/
  | save (chosen : String)
  /-- Timer ticks, this many. -/
  | tick (n : Nat)
  /-- Steps by hand, this many. -/
  | stepByHand (n : Nat)
  /-- Start a new program, answering the question to save with `answer`. -/
  | newFile (answer : Answer) (chosen : String)
  /-- Open the file `opened`, answering the question to save with `answer`. -/
  | openFile (answer : Answer) (chosen opened : String)
  /-- Save under the chosen name. -/
  | saveAs (chosen : String)
  /-- Read a file into the editor. -/
  | loadFile (path : String)
  /-- Ask whether to save. -/
  | askToSave (answer : Answer) (chosen : String)
  /-- Close the window. -/
  | close (answer : Answer) (chosen : String)
  /-- Change the memory size to what a text reads as. -/
  | changeSize (text : String)
  /-- Highlight a text. -/
  | highlight (text : String)
  /-- Store a value in a memory cell. -/
  | poke (addr value : Int)
  /-- Start or stop the machine directly. -/
  | setRunning (b : Bool)
  /-- Write a register directly. -/
  | setRegister (r : Register) (v : Int)
  /-- Set the memory size directly, keeping the memory. -/
  | setSize (v : SizeValue)
  /-- Set the alarm directly. -/
  | setAlarm (text : Option String)
  /-- Set the breakpoints. -/
  | setBreakpoints (lines : List Int)
  /-- Set the file being edited. -/
  | setCurrentFile (path : Option String)
  /-- Put a text file in the working directory, making its directories. -/
  | writeFile (path text : String)
  deriving Repr

/-- What a question or the closing of the window answered. -/
inductive Verdict where
  /-- The answer to whether to go on: yes, no, or none given. -/
  | goOn (b : Option Bool)
  /-- Whether the window closes. -/
  | closes (b : Bool)
  deriving DecidableEq, Repr

/-- What an action reports besides the window after it. -/
structure WindowReply where
  /-- The program counter after each step, for stepping actions. -/
  counters : Option (List Int) := none
  /-- The verdict, for questions. -/
  verdict : Option Verdict := none
  /-- The highlighted stretches, for highlighting. -/
  spans : Option (List Span) := none
  /-- The dialogs shown. -/
  dialogs : List (String × String) := []
  /-- The text printed. -/
  printed : String := ""
  /-- The fault that ended the action, if any. -/
  fault : Option Fault := none

namespace Window

/-- The title of the dialog that says what the program is. -/
def aboutTitle : String := "About Forgematrix"

/-- The text of the dialog that says what the program is: its name, its version and what it
emulates. The credits and the copyright line that follow it are left out. -/
def aboutText : String :=
  "Forgematrix Emulator\nVersion 1.0\n" ++
  "A simple but powerful emulator for a custom 2-bit processor architecture."

/-- Repeats an operation `n` times, gathering the program counter after each. -/
def repeatCounting (op : WindowM Unit) : Nat → WindowM (List Int)
  | 0 => pure []
  | n + 1 => do
    op
    let pc := (← get).machine.pc
    return pc :: (← repeatCounting op n)

/-- Sets the memory size directly: a number becomes the machine's declared size. -/
def setSize (v : SizeValue) : WindowM Unit :=
  modify fun w =>
    match v with
    | .number n => { w with machine.size := n, badSize := none }
    | .text s => { w with badSize := some (.text s) }
    | .nothing => { w with badSize := some .nothing }

/-- Carries out an action. -/
def act : Action → WindowM WindowReply
  | .setText s => do modify (fun w => { w with editor := s }); pure {}
  | .start => do start; pure {}
  | .stop => do stop; pure {}
  | .reset => do reset; pure {}
  | .showByteCount => do showByteCount; pure {}
  | .showCounter => do showCounter; pure {}
  | .showMemory => do showMemory; pure {}
  | .markCurrentLine => do markCurrentLine; pure {}
  | .toggleBreakpoint => do toggleBreakpoint; pure {}
  | .markCursorLine => pure {}
  | .showHelp => do modify (fun w => { w with helpShown := true }); pure {}
  | .showAbout => do dialog aboutTitle aboutText; pure {}
  | .save chosen => do save chosen; pure {}
  | .tick n => do pure { counters := some (← repeatCounting tick n) }
  | .stepByHand n => do pure { counters := some (← repeatCounting stepByHand n) }
  | .newFile answer chosen => do newFile answer chosen; pure {}
  | .openFile answer chosen opened => do openFile answer chosen opened; pure {}
  | .saveAs chosen => do saveAs chosen; pure {}
  | .loadFile path => do loadFile path; pure {}
  | .askToSave answer chosen => do pure { verdict := some (.goOn (← askToSave answer chosen)) }
  | .close answer chosen => do pure { verdict := some (.closes (← close answer chosen)) }
  | .changeSize text => do changeSize text; pure {}
  | .highlight text => pure { spans := some (Highlight.spans text) }
  | .poke addr value => do onMachine (Machine.store addr value); pure {}
  | .setRunning b => do modify (fun w => { w with machine.running := b }); pure {}
  | .setRegister r v => do modify (fun w => { w with machine := w.machine.setRegister r v }); pure {}
  | .setSize v => do setSize v; pure {}
  | .setAlarm text => do modify (fun w => { w with machine.alarm := text.map Alarm.note }); pure {}
  | .setBreakpoints lines => do
    modify fun w => { w with breakpoints := (lines.eraseDups).mergeSort (· ≤ ·) }
    pure {}
  | .setCurrentFile path => do modify (fun w => { w with currentFile := path }); pure {}
  | .writeFile path text => do
    let w ← get
    let (files, failure) := w.files.writeMaking path text
    set { w with files }
    if let some e := failure then throw e.fault
    pure {}

/-- Carries out an action on a window: the window after it, and the reply. -/
def perform (w : Window) (a : Action) : Window × WindowReply :=
  match (act a).run { w with printed := "", dialogs := [] } with
  | .ok reply w' =>
    ({ w' with printed := "", dialogs := [] },
     { reply with printed := w'.printed, dialogs := w'.dialogs })
  | .error f w' =>
    ({ w' with printed := "", dialogs := [] },
     { fault := some f, printed := w'.printed, dialogs := w'.dialogs })

/-- Carries out actions in turn, keeping the window each leaves. -/
def actAll (w : Window) (as : List Action) : Window :=
  as.foldl (fun w a => (w.perform a).1) w

theorem actAll_cons (w : Window) (a : Action) (as : List Action) :
    w.actAll (a :: as) = (w.perform a).1.actAll as :=
  rfl

end Window

end LedMachine
