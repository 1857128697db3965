import WasmBridge.Json.Basic
import WasmBridge.Wasm.Abi
import WasmBridge.Wasm.Compiler

/-!
# Reports on modules

What a module imports and exports, and which parts of the agreement between host
and guest it meets.
-/

namespace WasmBridge.Wasm

/-- An import or export in a report; an export has no origin. -/
structure ReportItem where
  origin : String := ""
  name : String
  kind : String

/-- A report on a module. -/
structure Report where
  name : String
  imports : List ReportItem
  exports : List ReportItem
  /-- Shared memory is imported. -/
  sharedMemory : Bool
  /-- The function that delivers messages is imported. -/
  usesBridge : Bool
  /-- There is room for bytes from the host. -/
  reserveSpace : Bool
  /-- The module can run as a worker. -/
  workerEntry : Bool
  /-- The module has a function to begin with. -/
  mainEntry : Bool

/-- Whether a function is exported under a name. -/
def Module.hasFunction (module : Module) (name : String) : Bool :=
  module.exports.any fun item => item.name == name && item.type.kind == "func"

/-- The report on a module. -/
def Compiled.report (compiled : Compiled) : Report :=
  let module := compiled.module
  { name := compiled.name
    imports := module.imports.map fun item => ⟨item.origin, item.name, item.type.kind⟩
    exports := module.exports.map fun item => ⟨"", item.name, item.type.kind⟩
    sharedMemory := module.importedMemories.any fun (_, type) => type.shared
    usesBridge := module.imports.any fun item =>
      item.origin == Abi.bridgeOrigin && item.name == Abi.deliver
    reserveSpace := module.hasFunction Abi.reserveSpace
    workerEntry := module.hasFunction Abi.workerEntry || module.hasFunction Abi.threadStart
    mainEntry := Abi.mainEntries.any module.hasFunction }

/-- An import or export as JSON, without the origin if there is none. -/
def ReportItem.toJson (item : ReportItem) : Json :=
  let named := [("name", Json.string item.name), ("kind", .string item.kind)]
  .object (if item.origin = "" then named else ("module", .string item.origin) :: named)

/-- A report as JSON, the fields in the order of the report. -/
def Report.toJson (report : Report) : Json :=
  .object [
    ("name", .string report.name),
    ("imports", .array (report.imports.map ReportItem.toJson)),
    ("exports", .array (report.exports.map ReportItem.toJson)),
    ("shared_memory", .bool report.sharedMemory),
    ("uses_bridge", .bool report.usesBridge),
    ("reserve_space", .bool report.reserveSpace),
    ("worker_entry", .bool report.workerEntry),
    ("main_entry", .bool report.mainEntry)]

/-- Text widened with blanks. -/
def padded (width : Nat) (text : String) : String :=
  text ++ String.ofList (List.replicate (width - text.length) ' ')

/-- An import or export as a line. -/
def ReportItem.line (item : ReportItem) : String :=
  let name := if item.origin = "" then item.name else s!"{item.origin}.{item.name}"
  s!"  {padded 7 item.kind} {name}"

/-- Imports or exports under a heading that counts them. -/
def itemLines (title : String) (items : List ReportItem) : List String :=
  s!"{title} ({items.length}):" :: items.map ReportItem.line

/-- A verdict in a report. -/
def yesOrNo (verdict : Bool) : String :=
  if verdict then "yes" else "no"

/-- A report as lines of text. -/
def Report.lines (report : Report) : List String :=
  [s!"Module: {report.name}",
    "========" ++ String.ofList (List.replicate report.name.utf8ByteSize '='),
    "",
    "Bridge:",
    s!"  message import:   {yesOrNo report.usesBridge}",
    s!"  shared memory:    {yesOrNo report.sharedMemory}",
    s!"  reserve space:    {yesOrNo report.reserveSpace}",
    s!"  worker entry:     {yesOrNo report.workerEntry}",
    s!"  main entry:       {yesOrNo report.mainEntry}",
    ""]
  ++ itemLines "Imports" report.imports
  ++ [""]
  ++ itemLines "Exports" report.exports

end WasmBridge.Wasm
