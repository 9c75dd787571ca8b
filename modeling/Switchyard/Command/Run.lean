import Switchyard.Command.Documents
import Switchyard.Command.Invocation
import Switchyard.Command.Output
import Switchyard.Command.Job
import Switchyard.Configuration.Validation
import Switchyard.Log.Filter
import Switchyard.Router.Trace

/-! Runs of the command: a configuration is loaded and perhaps validated, and
then its ports are written or documents are routed. -/

namespace Switchyard

inductive ReadFault where
  | notFound
  | isDirectory
  | notDirectory
  | notText
  | other (message : String)
deriving DecidableEq, Repr

def ReadFault.message : ReadFault → String
  | notFound => "No such file or directory (os error 2)"
  | isDirectory => "Is a directory (os error 21)"
  | notDirectory => "Not a directory (os error 20)"
  | notText => "stream did not contain valid UTF-8"
  | other message => message

inductive Failure where
  | configUnreadable (path : String) (fault : ReadFault)
  | configMalformed (path : String) (fault : Json.TextFault)
  | configInvalid (violations : List Violation)
  | inputUnreadable (source : Source) (fault : ReadFault)
  | inputMalformed (source : Source) (fault : DocumentFault)
deriving Repr

def Violation.describe (v : Violation) : String := v.path ++ ": " ++ v.message?.getD v.code

def Failure.causes : Failure → List String
  | configUnreadable path fault => ["failed to read routing configuration " ++ path, fault.message]
  | configMalformed path fault =>
    ["failed to parse routing configuration " ++ path, "serialization error: " ++ fault.message,
      fault.message]
  | configInvalid violations =>
    ["invalid routing configuration", "\n".intercalate (violations.map Violation.describe)]
  | inputUnreadable .stdin fault => ["failed to read input from stdin", fault.message]
  | inputUnreadable (.file path) fault => ["failed to read input " ++ path, fault.message]
  | inputMalformed source fault =>
    ["failed to parse input from " ++ source.display, fault.message]

def Failure.message (f : Failure) : String := ": ".intercalate f.causes

structure Run where
  result : Except Failure Unit
  output : String
  events : List Log.Event

namespace Run

def version : String := "0.1.0"

/-- The event says more of the process that runs: its number, the architecture, the system
and the features that it was built with. None of that is modelled. -/
def buildEvent : Log.Event where
  level := .debug
  target := "nvisy_cli::startup"
  message := "Build information"
  fields := [("version", some (.str version))]

def invocationEvent (i : Invocation) : Log.Event where
  level := .debug
  target := "nvisy_cli::config"
  message := "CLI configuration"
  fields :=
    [("config", some (.str i.config)), ("input", some (.str i.source.display)),
      ("ndjson", some (.bool i.ndjson)), ("validate", some (.bool i.validate)),
      ("ports", some (.bool i.ports)), ("log_format", some (.str i.logFormat.name))]

def configEvent (path : String) (c : Configuration) : Log.Event where
  level := .debug
  target := "nvisy_cli::config"
  message := "Routing configuration loaded"
  fields :=
    [("path", some (.str path)), ("mode", some (.str c.mode.name)),
      ("fallback_output", some (.num (.ofInt64 c.fallbackOutput))),
      ("allow_multiple_matches", some (.bool c.allowMultipleMatches))]

def validEvent : Log.Event where
  level := .info
  target := "nvisy_cli::config"
  message := "Routing configuration is valid"
  fields := []

def documentsEvent (source : Source) (count : Nat) : Log.Event where
  level := .debug
  target := "nvisy_cli::config"
  message := "Input documents loaded"
  fields :=
    [("source", some (.str source.display)), ("documents", some (.ofUInt64 (.ofNat count)))]

def routedEvent (position : Nat) (outputs : List UInt64) : Log.Event where
  level := .debug
  target := "nvisy_cli::evaluate"
  message := "Document routed"
  fields :=
    [("position", some (.ofUInt64 (.ofNat position))),
      ("matched_outputs", some (.str (showOutputs outputs)))]

def completedEvent (documents dropped : Nat) : Log.Event where
  level := .info
  target := "nvisy_cli::evaluate"
  message := "Routing completed"
  fields :=
    [("documents", some (.ofUInt64 (.ofNat documents))),
      ("dropped", some (.ofUInt64 (.ofNat dropped)))]

def successEvent : Log.Event where
  level := .debug
  target := "nvisy_cli::shutdown"
  message := "application terminated successfully"
  fields := []

def failureEvent (f : Failure) : Log.Event where
  level := .error
  target := "nvisy_cli::shutdown"
  message := "application terminated with error"
  fields := [("error", some (.str f.message))]

def decodeText (bytes : Except ReadFault ByteArray) : Except ReadFault String :=
  match bytes with
  | .error fault => .error fault
  | .ok bytes =>
    match String.fromUTF8? bytes with
    | some text => .ok text
    | none => .error .notText

def readConfiguration (path : String) (bytes : Except ReadFault ByteArray) :
    Except Failure Configuration :=
  match decodeText bytes with
  | .error fault => .error (.configUnreadable path fault)
  | .ok text =>
    match Configuration.ofText text with
    | .error fault => .error (.configMalformed path fault)
    | .ok c => .ok c

def readDocuments (i : Invocation) (bytes : Except ReadFault ByteArray) :
    Except Failure (List Json) :=
  match decodeText bytes with
  | .error fault => .error (.inputUnreadable i.source fault)
  | .ok text =>
    match Documents.read text i.ndjson with
    | .error fault => .error (.inputMalformed i.source fault)
    | .ok documents => .ok documents

def needsDocuments (i : Invocation) : Bool :=
  !i.ports && !(i.validate && i.input.isNone)

section Steps

variable {m : Type → Type} [Monad m] (read : Source → m (Except ReadFault ByteArray))

def loadConfiguration (path : String) : Job Failure m Configuration := do
  let bytes ← Job.ask (read (.file path))
  let c ← Job.require (readConfiguration path bytes)
  Job.log (configEvent path c)
  return c

def checkValid (c : Configuration) : Job Failure m Unit :=
  if c.isValid then Job.log validEvent else throw (.configInvalid c.report)

def writePorts (c : Configuration) : Job Failure m Unit := Job.write c.portsText

def loadDocuments (i : Invocation) : Job Failure m (List Json) := do
  let bytes ← Job.ask (read i.source)
  let documents ← Job.require (readDocuments i bytes)
  Job.log (documentsEvent i.source documents.length)
  return documents

/-- Routes one document after the other and writes a line for each. The result
is the number of those that were dropped, added to an earlier one. -/
def routeEach (router : Router) : (position dropped : Nat) → List Json → Job Failure m Nat
  | _, dropped, [] => return dropped
  | position, dropped, document :: rest => do
    Job.logAll ((router.routing document).map Router.Report.event)
    Job.log (routedEvent position (router.route document))
    Job.write (String.ofList (router.line document))
    routeEach router (position + 1)
      (if (router.outcome document).isDropped then dropped + 1 else dropped) rest

def routeDocuments (c : Configuration) (documents : List Json) : Job Failure m Unit := do
  Job.logAll ((Router.preparation c).map Router.Report.event)
  let dropped ← routeEach (Router.ofConfiguration c) 0 0 documents
  Job.log (completedEvent documents.length dropped)

def prepare (i : Invocation) : Job Failure m Configuration := do
  Job.log buildEvent
  Job.log (invocationEvent i)
  let c ← loadConfiguration read i.config
  if i.validate then checkValid c
  return c

def job (i : Invocation) : Job Failure m Unit := do
  let c ← prepare read i
  if i.ports then writePorts c
  else if needsDocuments i then
    let documents ← loadDocuments read i
    routeDocuments c documents

def perform (i : Invocation) : m Run := do
  let (result, journal) ← (job read i).run.run {}
  return ⟨result, journal.output, journal.events.toList⟩

end Steps

end Run

structure Summary where
  exitCode : Nat
  output : String
  error : Option String
  events : List Log.Event

def Run.errorTarget : String := "nvisy_switch"

/-- Ends a run under a log filter. A failure is logged if errors are, and else
written to standard error. -/
def Run.summary (filter : Log.Filter) (r : Run) : Summary :=
  match r.result with
  | .ok _ => ⟨0, r.output, none, (r.events ++ [successEvent]).filter filter.admits⟩
  | .error f =>
    if filter.enables errorTarget .error then
      ⟨1, r.output, none, (r.events ++ [failureEvent f]).filter filter.admits⟩
    else ⟨1, r.output, some ("Error: " ++ f.message), r.events.filter filter.admits⟩

end Switchyard
