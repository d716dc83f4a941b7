import LedMachine.Assembler.Load
import LedMachine.Assembler.Source
import LedMachine.Editor.Counter
import LedMachine.Editor.Highlight
import LedMachine.Fault
import LedMachine.Grid
import LedMachine.Machine.Alarm
import LedMachine.Machine.Basic
import LedMachine.Machine.LineMap
import LedMachine.Machine.Step
import LedMachine.Memory
import LedMachine.Numeral
import LedMachine.Object.Access
import LedMachine.Object.Call
import LedMachine.Object.Codec
import LedMachine.Object.Compare
import LedMachine.Object.Float
import LedMachine.Object.Numbers
import LedMachine.Object.Render
import LedMachine.Object.Value
import LedMachine.Opcode
import LedMachine.Proofs.Layout
import LedMachine.Proofs.Outcome
import LedMachine.Scenario
import LedMachine.Session
import LedMachine.Snapshot.Escapes
import LedMachine.Snapshot.Load
import LedMachine.Snapshot.Names
import LedMachine.Snapshot.Reader
import LedMachine.Snapshot.Update
import LedMachine.Storage.FileStore
import LedMachine.Storage.Scratchpad
import LedMachine.Text.Blank
import LedMachine.Text.DecimalDigit
import LedMachine.Text.Hex
import LedMachine.Text.Printable
import LedMachine.Text.Quoted
import LedMachine.Text.Ranges
import LedMachine.Text.Upper
import LedMachine.Text.Utf8
import LedMachine.Text.WordChar
import LedMachine.Window.Action
import LedMachine.Window.Basic
import LedMachine.Window.Emulation
import LedMachine.Window.FileMenu
import LedMachine.Window.Panels
import LedMachine.Proofs.Loading
import LedMachine.Proofs.Acceptance
import LedMachine.Proofs.RoundTrip
import LedMachine.Proofs.Frame
import LedMachine.Proofs.Guards
import LedMachine.Proofs.Counter
import LedMachine.Proofs.Reloading
import LedMachine.Proofs.Effects
import LedMachine.Proofs.Timing
import LedMachine.Proofs.Persistence
import LedMachine.Proofs.ByteCount
import LedMachine.Proofs.Reference
import LedMachine.Proofs.Alarms
import LedMachine.Proofs.Timer
import LedMachine.Proofs.LineNumbers
import LedMachine.Proofs.Footprint
import LedMachine.Proofs.Debugging
