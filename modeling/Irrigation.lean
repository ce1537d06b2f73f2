import Irrigation.Address
import Irrigation.Arguments.Basic
import Irrigation.Arguments.Help
import Irrigation.Arguments.Message
import Irrigation.Arguments.Reader
import Irrigation.Bus.Client
import Irrigation.Bus.Error
import Irrigation.Bus.Exchange
import Irrigation.Bus.SerialLine
import Irrigation.Command
import Irrigation.DevicePath
import Irrigation.Dispatch
import Irrigation.Ending
import Irrigation.Environment
import Irrigation.ExitStatus
import Irrigation.Invocation
import Irrigation.Journal.Basic
import Irrigation.Journal.Record
import Irrigation.Main
import Irrigation.Operation
import Irrigation.Proofs.Arguments
import Irrigation.Proofs.Arguments.Flags
import Irrigation.Proofs.Bus.Call
import Irrigation.Proofs.Bus.Chunking
import Irrigation.Proofs.Bus.Decoding
import Irrigation.Proofs.Bus.LineLemmas
import Irrigation.Proofs.Bus.Moments
import Irrigation.Proofs.Bus.Reply
import Irrigation.Proofs.Bus.Session
import Irrigation.Proofs.Bus.Wire
import Irrigation.Proofs.Course
import Irrigation.Proofs.Dispatch
import Irrigation.Proofs.ExceptLemmas
import Irrigation.Proofs.Parameters
import Irrigation.Proofs.Paths.Expansion
import Irrigation.Proofs.Paths.Parts
import Irrigation.Proofs.Requirements
import Irrigation.Proofs.Run
import Irrigation.Proofs.Settings.File
import Irrigation.Proofs.Settings.Layers
import Irrigation.Proofs.Settings.Opened
import Irrigation.Proofs.Settings.Shown
import Irrigation.Proofs.Settings.Written
import Irrigation.Proofs.Stages
import Irrigation.Proofs.Text.Digits
import Irrigation.Proofs.Text.Letters
import Irrigation.Proofs.Timers.Backup
import Irrigation.Proofs.Timers.Bytes
import Irrigation.Proofs.Timers.Canonical
import Irrigation.Proofs.Timers.Grammar
import Irrigation.Proofs.Timers.Invariant
import Irrigation.Proofs.Timers.Refusal
import Irrigation.Proofs.Timers.Scan
import Irrigation.Proofs.Timers.Spelling
import Irrigation.Proofs.Toml.Escapes
import Irrigation.Proofs.Toml.Lines
import Irrigation.Proofs.Toml.Texts
import Irrigation.Proofs.Validation
import Irrigation.Proofs.Verbosity
import Irrigation.Proofs.ZoneStates
import Irrigation.Settings.Basic
import Irrigation.Settings.Load
import Irrigation.Settings.VariableName
import Irrigation.Terminal.Controls
import Irrigation.Terminal.Printout
import Irrigation.Terminal.Style
import Irrigation.Text.Alphanumeric
import Irrigation.Text.Blank
import Irrigation.Text.CodePoints
import Irrigation.Text.Duration
import Irrigation.Text.Hidden
import Irrigation.Text.Number
import Irrigation.Text.Quoted
import Irrigation.Timers.Basic
import Irrigation.Timers.Token
import Irrigation.Toml.Reader
import Irrigation.Toml.Value
import Irrigation.Toml.Writer
