import Switchyard.Command.Run

/-! The command itself: it reads files and standard input, writes outcomes to
standard output, and everything else to standard error. -/

namespace Switchyard.Command

def helpText : String :=
  "Evaluate Nvisy switch node configurations against JSON documents

Usage: nvisy-switch [OPTIONS] --config <CONFIG>

Options:
  -c, --config <CONFIG>          Path to the routing configuration file (JSON)
  -i, --input <INPUT>            Path to the input document(s); stdin when omitted or `-`
      --ndjson                   Treat every non-blank input line as a separate JSON document
      --log-format <LOG_FORMAT>  Log output format [default: text] [possible values: text, json]
      --validate                 Validate the routing configuration before doing anything else
      --ports                    Print the output ports of the switch node instead of routing
  -h, --help                     Print help
  -V, --version                  Print version
"

def usageText : Stop → String
  | .missingArgument => "error: the following required arguments were not provided: --config <CONFIG>"
  | .unknownArgument => "error: unexpected argument found"
  | .invalidValue => "error: invalid value for an argument"
  | .conflict => "error: an argument cannot be used multiple times"
  | .tooManyValues => "error: unexpected value for an argument"
  | .help => helpText
  | .version => "nvisy-switch " ++ Run.version

def readFault : IO.Error → ReadFault
  | .noFileOrDirectory .. => .notFound
  | .inappropriateType _ code _ => if code = 21 then .isDirectory else .notDirectory
  | e => .other (toString e)

partial def readAll (stream : IO.FS.Stream) (acc : ByteArray) : IO ByteArray := do
  let chunk ← stream.read 65536
  if chunk.isEmpty then return acc else readAll stream (acc ++ chunk)

def readSource (source : Source) : IO (Except ReadFault ByteArray) := do
  try
    match source with
    | .file path => return .ok (← IO.FS.readBinFile path)
    | .stdin => return .ok (← readAll (← IO.getStdin) .empty)
  catch e => return .error (readFault e)

def eventLine (format : LogFormat) (e : Log.Event) : String :=
  match format with
  | .json => e.toJson.print
  | .text =>
    let fields := e.fields.filterMap fun (key, value) =>
      value.map fun v => " " ++ key ++ "=" ++ v.print
    e.level.name ++ " " ++ e.target ++ ": " ++ e.message ++ String.join fields

def environment (names : List String) : IO (String → Option String) := do
  let values ← names.mapM fun name => do return (name, ← IO.getEnv name)
  return fun name => (values.lookup name).join

def run (args : List String) : IO UInt32 := do
  match Invocation.parse (← environment Invocation.variableNames) args with
  | .error stop =>
    if stop.exitCode = 0 then IO.println (usageText stop) else IO.eprintln (usageText stop)
    return UInt32.ofNat stop.exitCode
  | .ok invocation =>
    let filter := Log.Filter.ofSetting (← IO.getEnv "RUST_LOG")
    let summary := (← Run.perform readSource invocation).summary filter
    for e in summary.events do
      IO.eprintln (eventLine invocation.logFormat e)
    IO.print summary.output
    if let some error := summary.error then IO.eprintln error
    return UInt32.ofNat summary.exitCode

end Switchyard.Command

def main (args : List String) : IO UInt32 := Switchyard.Command.run args
