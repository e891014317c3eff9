import TerminalSession.Text.Utf8
import TerminalSession.Text.Width
import TerminalSession.Text.Blank
import TerminalSession.Text.Quoted
import TerminalSession.Grid.Screen
import TerminalSession.Terminal.Printing
import TerminalSession.Terminal.Switching
import TerminalSession.Terminal.Resizing
import TerminalSession.Terminal.Window
import TerminalSession.Emulator
import TerminalSession.Engine.Fault
import TerminalSession.Input.Encoding
import TerminalSession.FramePacer
import TerminalSession.Engine.Builtin
import TerminalSession.Session.Basic
import TerminalSession.Display.View
import TerminalSession.Display.Console
import TerminalSession.Startup
import TerminalSession.Main
import TerminalSession.Proofs.Terminal.Preservation
import TerminalSession.Proofs.Access.Grid
import TerminalSession.Proofs.Access.Terminal
import TerminalSession.Proofs.Access.Emulator
import TerminalSession.Proofs.Grid.Placing
import TerminalSession.Proofs.Grid.Following
import TerminalSession.Proofs.Terminal.Following
import TerminalSession.Proofs.Session.Following
import TerminalSession.Proofs.Session.Chunking
import TerminalSession.Proofs.Terminal.WindowBlind
import TerminalSession.Proofs.Session.Display
import TerminalSession.Proofs.Session.Scrolling
import TerminalSession.Proofs.Emulator.Columns
import TerminalSession.Proofs.Session.Delivery
import TerminalSession.Proofs.Session.Sizes
import TerminalSession.Proofs.Session.Jamming
import TerminalSession.Proofs.Terminal.Excursion
import TerminalSession.Proofs.Terminal.Title
import TerminalSession.Proofs.Grid.Remembering
import TerminalSession.Proofs.Terminal.Remembering
import TerminalSession.Proofs.Terminal.Chronicle
import TerminalSession.Proofs.Terminal.ResizingAway
import TerminalSession.Proofs.Emulator.FrozenWindow
import TerminalSession.Proofs.Emulator.ShiftedWindow
import TerminalSession.Proofs.Control.Scanner
import TerminalSession.Proofs.Grid.Stacking
import TerminalSession.Proofs.Grid.Typing
import TerminalSession.Proofs.Grid.Rejoining
import TerminalSession.Proofs.Terminal.Typing
import TerminalSession.Proofs.Emulator.Typing
import TerminalSession.Proofs.Terminal.Rejoining
import TerminalSession.Proofs.Control.Retaining
import TerminalSession.Proofs.Emulator.Framing
import TerminalSession.Proofs.Emulator.Recovery
import TerminalSession.Proofs.Engine.Resetting
import TerminalSession.Proofs.Emulator.Strings
import TerminalSession.Proofs.Terminal.Characters
import TerminalSession.Proofs.Display.Console
import TerminalSession.Proofs.Display.Drawing
import TerminalSession.Proofs.Emulator.Controls
import TerminalSession.Proofs.Words.Emulator
import TerminalSession.Proofs.Emulator.Interrupting
import TerminalSession.Proofs.Emulator.Parameters
import TerminalSession.Proofs.Terminal.Regions
import TerminalSession.Proofs.Terminal.Erasing
import TerminalSession.Proofs.Terminal.Pairing
import TerminalSession.Proofs.Grid.Reflowing
import TerminalSession.Proofs.Emulator.Reflowing
import TerminalSession.Proofs.Emulator.Titles
import TerminalSession.Proofs.Emulator.Reporting
import TerminalSession.Proofs.Control.Rendition
import TerminalSession.Proofs.Emulator.Selecting
import TerminalSession.Proofs.Display.Pacing
import TerminalSession.Proofs.Input.Composing
import TerminalSession.Proofs.Emulator.Viewing
import TerminalSession.Proofs.Display.Filling
