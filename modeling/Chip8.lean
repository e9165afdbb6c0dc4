import Chip8.Assembly.Cursor
import Chip8.Assembly.Cursor.Lemmas
import Chip8.Assembly.Draft
import Chip8.Assembly.Draft.Request
import Chip8.Assembly.Error
import Chip8.Assembly.Numeral
import Chip8.Assembly.Program
import Chip8.Assembly.Reader
import Chip8.Assembly.Reader.Lemmas
import Chip8.Assembly.Source
import Chip8.Assembly.Statement
import Chip8.Clock
import Chip8.Command.Assemble
import Chip8.Command.FileTree
import Chip8.Command.Line
import Chip8.Command.Run
import Chip8.Display
import Chip8.Fault
import Chip8.Hardware
import Chip8.Instruction
import Chip8.Keyboard
import Chip8.Keyboard.HostName
import Chip8.Keyboard.KeyCode
import Chip8.Keypad
import Chip8.Machine
import Chip8.Machine.Notices
import Chip8.Machine.Progress
import Chip8.Main
import Chip8.Memory
import Chip8.Notice
import Chip8.Numeric.Bits
import Chip8.Numeric.Decimal
import Chip8.Numeric.WholePart
import Chip8.Random.MersenneTwister
import Chip8.Registers
import Chip8.Screen
import Chip8.Session
import Chip8.Settings
import Chip8.Settings.Conversion
import Chip8.Settings.Error
import Chip8.Settings.Keymap
import Chip8.Sound.Beeper
import Chip8.Sound.Tone
import Chip8.Stack
import Chip8.Text.Blank
import Chip8.Text.ByteSize
import Chip8.Text.DecimalDigit
import Chip8.Text.Encoding
import Chip8.Text.Hexadecimal
import Chip8.Text.Integer
import Chip8.Text.Quoted
import Chip8.Text.VisibleCharacter
import Chip8.Text.WordCharacter
import Chip8.Timers
import Chip8.Toml.Document
import Chip8.Toml.Error
import Chip8.Toml.Nested
import Chip8.Toml.Scalar
import Chip8.Toml.Value
import Chip8.Proofs.Lookup
import Chip8.Proofs.Display
import Chip8.Proofs.Display.Landing
import Chip8.Proofs.Display.Inversion
import Chip8.Proofs.Display.Screen
import Chip8.Proofs.Registers
import Chip8.Proofs.Keypad
import Chip8.Proofs.Machine.WellFormed
import Chip8.Proofs.Machine.HostCalls
import Chip8.Proofs.Machine.Course
import Chip8.Proofs.Machine.Footprint
import Chip8.Proofs.Machine.FlagArithmetic
import Chip8.Proofs.Machine.RegisterBlocks
import Chip8.Proofs.Machine.Frame
import Chip8.Proofs.Machine.Sprites
import Chip8.Proofs.Machine.Subroutines
import Chip8.Proofs.Machine.Loading
import Chip8.Proofs.Machine.Timing
import Chip8.Proofs.Numeric.Binary64
import Chip8.Proofs.Clock
import Chip8.Proofs.Machine.SingleStep
import Chip8.Proofs.Machine.KeyWait
import Chip8.Proofs.Assembly.Literals
import Chip8.Proofs.Assembly.Names
import Chip8.Proofs.Assembly.Proper
import Chip8.Proofs.Assembly.Encoding
import Chip8.Proofs.Assembly.Listing
import Chip8.Proofs.Assembly.Drafting
import Chip8.Proofs.Assembly.Linking
import Chip8.Proofs.Assembly.Evaluation
import Chip8.Proofs.Assembly.Layout
import Chip8.Proofs.Assembly.Rejection
import Chip8.Proofs.Assembly.Namespaces
import Chip8.Proofs.Assembly.Spelling
import Chip8.Proofs.Assembly.Spreading
import Chip8.Proofs.Assembly.Tokens
import Chip8.Proofs.Assembly.Operands
import Chip8.Proofs.Assembly.Forms
import Chip8.Proofs.Assembly.Printing
import Chip8.Proofs.Machine.Delivery
import Chip8.Proofs.Machine.Congruence
import Chip8.Proofs.Assembly.Decoding
import Chip8.Proofs.Assembly.Agreement
import Chip8.Proofs.Assembly.LabelAddress
import Chip8.Proofs.Machine.HostRoutines
import Chip8.Proofs.Assembly.Lookahead
import Chip8.Proofs.Assembly.Continuation
import Chip8.Proofs.Assembly.Joining
import Chip8.Proofs.Assembly.Segments
import Chip8.Proofs.Session.Turns
import Chip8.Proofs.Session.Pausing
import Chip8.Proofs.Session.Sounding
import Chip8.Proofs.Toml.Distinct
import Chip8.Proofs.Toml.Equality
import Chip8.Proofs.Settings.Named
import Chip8.Proofs.Settings.Keymaps
import Chip8.Proofs.Command.Requests
import Chip8.Proofs.Command.Precedence
import Chip8.Proofs.Session.Keys
import Chip8.Proofs.Command.FileTree
import Chip8.Proofs.Command.Assembling
import Chip8.Proofs.Assembly.DraftRequests
import Chip8.Proofs.Stack.BoundedList
import Chip8.Proofs.Memory.Folding
import Chip8.Proofs.Assembly.Numerals
