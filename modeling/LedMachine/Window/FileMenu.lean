import LedMachine.Window.Basic

/-!
# The file menu

Saving writes the editor's text to the file being edited, or asks for a name; a name without the
`.2b` or `.txt` ending gets `.2b`. Opening reads a file into the editor, with each carriage
return, alone or before a line feed, read as a line feed. Before the editor's text is replaced or
the window closed, a window whose editor holds text asks whether to save, discard or cancel;
saving from that question never counts as going on. Failures to read or write show an error
dialog.
-/

namespace LedMachine

/-- The answer to the question whether to save changes. -/
inductive Answer where
  | save
  | discard
  | cancel
  deriving DecidableEq, Repr

namespace Text

/-- A text with every carriage return, alone or before a line feed, made a line feed. -/
def unifyNewlines : List Char → List Char
  | [] => []
  | '\r' :: '\n' :: rest => '\n' :: unifyNewlines rest
  | '\r' :: rest => '\n' :: unifyNewlines rest
  | c :: rest => c :: unifyNewlines rest

end Text

namespace Window

/-- The last name on a path. -/
def baseName (path : String) : String := ((path.splitOn "/").getLast?).getD path

/-- A file name with the `.2b` ending added unless it ends in `.2b` or `.txt`. -/
def withEnding (name : String) : String :=
  if name.endsWith ".2b" || name.endsWith ".txt" then name else name ++ ".2b"

/-- The message for a file that holds a saved scratchpad rather than text. -/
def undecodable : String := "'utf-8' codec can't decode byte 0x80 in position 0: invalid start byte"

/-- Makes a path the file being edited. -/
def adopt (path : String) : WindowM Unit :=
  modify fun w => { w with currentFile := some path, title := "2-bit Processor - " ++ baseName path }

/-- Writes the editor's text to a path. -/
def saveTo (path : String) : WindowM Unit := do
  let w ← get
  match w.files.write path (.text w.editor) with
  | .ok files =>
    set { w with files }
    adopt path
    setStatus ("Saved to " ++ path)
  | .error e => dialog "Error" ("Error saving file: " ++ e.message)

/-- Saves under the name the save dialog gives, if it gives one. -/
def saveAs (chosen : String) : WindowM Unit := do
  if !chosen.isEmpty then saveTo (withEnding chosen)

/-- Saves to the file being edited, or under a chosen name when there is none. -/
def save (chosen : String) : WindowM Unit := do
  match (← get).currentFile with
  | some path => if path.isEmpty then saveAs chosen else saveTo path
  | none => saveAs chosen

/-- Reads a file into the editor. -/
def loadFile (path : String) : WindowM Unit := do
  match (← get).files.read path with
  | .ok (.text s) =>
    modify fun w => { w with editor := String.ofList (Text.unifyNewlines s.toList) }
    adopt path
    setStatus ("Loaded " ++ path)
  | .ok (.snapshot _) => dialog "Error" ("Error loading file: " ++ undecodable)
  | .error e => dialog "Error" ("Error loading file: " ++ e.message)

/-- Asks whether to save before the text is replaced: goes on (`some true`) when the editor is
empty or the answer is to discard, stops (`some false`) on cancel, and after saving gives no
verdict (`none`), which counts as stopping. -/
def askToSave (answer : Answer) (chosen : String) : WindowM (Option Bool) := do
  if (← get).editor.isEmpty then return some true
  match answer with
  | .save => save chosen; return none
  | .cancel => return some false
  | .discard => return some true

/-- Starts a new, empty program. -/
def newFile (answer : Answer) (chosen : String) : WindowM Unit := do
  if (← askToSave answer chosen) == some true then
    modify fun w => { w with editor := "", currentFile := none,
                             title := "2-bit Processor - Untitled", status := "New file created" }

/-- Opens the file the open dialog gives, if it gives one. -/
def openFile (answer : Answer) (chosen opened : String) : WindowM Unit := do
  if (← askToSave answer chosen) == some true then
    if !opened.isEmpty then loadFile opened

/-- Whether the window may close. -/
def close (answer : Answer) (chosen : String) : WindowM Bool := do
  return (← askToSave answer chosen) == some true

end Window

end LedMachine
