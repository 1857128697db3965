import WasmBridge.Command.Arguments
import WasmBridge.Command.Execution
import WasmBridge.Command.Help
import WasmBridge.Command.Inspect
import WasmBridge.Command.Outcome
import WasmBridge.Command.Run
import WasmBridge.Command.Version
import WasmBridge.Config.Basic
import WasmBridge.Config.Environment
import WasmBridge.Context.Basic
import WasmBridge.Context.Description
import WasmBridge.Context.Instance
import WasmBridge.Context.Linking
import WasmBridge.Context.Reentry
import WasmBridge.Context.Router
import WasmBridge.Context.Startup
import WasmBridge.Decimal.Binary
import WasmBridge.Decimal.Numeral
import WasmBridge.Decimal.Shortest
import WasmBridge.Decimal.Written
import WasmBridge.Fault
import WasmBridge.Fields
import WasmBridge.Guest.Code
import WasmBridge.Guest.Trap
import WasmBridge.Handle.Basic
import WasmBridge.Handle.Table
import WasmBridge.Host.Builder
import WasmBridge.Json.Basic
import WasmBridge.Json.Number
import WasmBridge.Json.Parser
import WasmBridge.Json.Printer
import WasmBridge.Library.Objects
import WasmBridge.Library.Program
import WasmBridge.Library.Registry
import WasmBridge.Library.Samples
import WasmBridge.Log.Directive
import WasmBridge.Log.Event
import WasmBridge.Log.Filter
import WasmBridge.Log.Line
import WasmBridge.Log.Settings
import WasmBridge.Memory.Bridge
import WasmBridge.Memory.Linear
import WasmBridge.Memory.Plan
import WasmBridge.Memory.Range
import WasmBridge.Session
import WasmBridge.Text.Alphanumeric
import WasmBridge.Text.Blank
import WasmBridge.Text.CharSet
import WasmBridge.Text.Hexadecimal
import WasmBridge.Text.Lowercase
import WasmBridge.Text.Outline
import WasmBridge.Text.Pattern.Basic
import WasmBridge.Text.Pattern.Brackets
import WasmBridge.Text.Pattern.Escape
import WasmBridge.Text.Pattern.Flag
import WasmBridge.Text.Pattern.Machine
import WasmBridge.Text.Pattern.Nested
import WasmBridge.Text.Pattern.Reader
import WasmBridge.Text.Printable
import WasmBridge.Text.Quoted
import WasmBridge.Text.Utf8
import WasmBridge.Thread
import WasmBridge.Value.Basic
import WasmBridge.Value.Json
import WasmBridge.Value.Samples
import WasmBridge.Value.Text
import WasmBridge.Wasm.Abi
import WasmBridge.Wasm.Compiler
import WasmBridge.Wasm.Description
import WasmBridge.Wasm.File
import WasmBridge.Wasm.Module
import WasmBridge.Wasm.Path
import WasmBridge.Wasm.Report
import WasmBridge.Wasm.Source
import WasmBridge.Wasm.Type
import WasmBridge.Wasm.Validity
import WasmBridge.Wire.Envelope
import WasmBridge.Wire.Launch
import WasmBridge.Wire.Words
import WasmBridge.Worker.Pool
import WasmBridge.Worker.Run
import WasmBridge.Main
import WasmBridge.Proofs.Lists
import WasmBridge.Proofs.Handle.Pack
import WasmBridge.Proofs.Handle.Operations
import WasmBridge.Proofs.Handle.Run
import WasmBridge.Proofs.Handle.Resolution
import WasmBridge.Proofs.Handle.Reuse
import WasmBridge.Proofs.Handle.Contents
import WasmBridge.Proofs.Handle.Vacancies
import WasmBridge.Proofs.Memory.Bytes
import WasmBridge.Proofs.Memory.Accesses
import WasmBridge.Proofs.Text.Utf8
import WasmBridge.Proofs.Decimal.Finite
import WasmBridge.Proofs.Value.Order
import WasmBridge.Proofs.Value.Unfolding
import WasmBridge.Proofs.Value.Records
import WasmBridge.Proofs.Value.NormalForm
import WasmBridge.Proofs.Value.Documents
import WasmBridge.Proofs.Wire.Words
import WasmBridge.Proofs.Wire.Records
import WasmBridge.Proofs.Wire.Lengths
import WasmBridge.Proofs.Context.Ends
import WasmBridge.Proofs.Context.Requests
import WasmBridge.Proofs.Context.Failure
import WasmBridge.Proofs.Context.Interference
import WasmBridge.Proofs.Context.AtOnce
import WasmBridge.Proofs.Context.Storage
import WasmBridge.Proofs.Context.Evolution
import WasmBridge.Proofs.Context.Room
import WasmBridge.Proofs.Context.Confinement
import WasmBridge.Proofs.Context.Serving
import WasmBridge.Proofs.Context.Composition
import WasmBridge.Proofs.Context.Receipts
import WasmBridge.Proofs.Context.Histories
import WasmBridge.Proofs.Context.Containment
import WasmBridge.Proofs.Context.Programs
import WasmBridge.Proofs.Context.Delivery
import WasmBridge.Proofs.Context.Registration
import WasmBridge.Proofs.Context.Separation
import WasmBridge.Proofs.Context.Instances
import WasmBridge.Proofs.Context.Handover
import WasmBridge.Proofs.Context.MainCalls
import WasmBridge.Proofs.Context.Linking
import WasmBridge.Proofs.Memory.Planning
import WasmBridge.Proofs.Library.RoundTrip
import WasmBridge.Proofs.Library.Answers
import WasmBridge.Proofs.Library.Driven
import WasmBridge.Proofs.Library.Exactness
import WasmBridge.Proofs.Library.Walking
import WasmBridge.Proofs.Library.Properties
import WasmBridge.Proofs.Library.Calls
import WasmBridge.Proofs.Worker.Interleaving
import WasmBridge.Proofs.Worker.Places
import WasmBridge.Proofs.Worker.Handles
import WasmBridge.Proofs.Worker.Joining
import WasmBridge.Proofs.Worker.Joiners
import WasmBridge.Proofs.Worker.Following
import WasmBridge.Proofs.Worker.Admission
import WasmBridge.Proofs.Worker.Sessions
import WasmBridge.Proofs.Worker.Deeds
import WasmBridge.Proofs.Worker.Start
import WasmBridge.Proofs.Worker.Chronicle
import WasmBridge.Proofs.Worker.Lifecycle
import WasmBridge.Proofs.Wasm.Reports
import WasmBridge.Proofs.Wasm.Keeping
import WasmBridge.Proofs.Command.Running
import WasmBridge.Proofs.Config.Environment
