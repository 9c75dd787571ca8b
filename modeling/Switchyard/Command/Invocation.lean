/-! Invocations: what the command line and the environment ask for. -/

namespace Switchyard

inductive LogFormat where
  | text
  | json
deriving DecidableEq, Repr

def LogFormat.name : LogFormat → String
  | text => "text"
  | json => "json"

def LogFormat.ofName? (s : String) : Option LogFormat :=
  if s = "text" then some text else if s = "json" then some json else none

structure Invocation where
  config : String
  input : Option String
  ndjson : Bool
  logFormat : LogFormat
  validate : Bool
  ports : Bool
deriving DecidableEq, Repr

inductive Source where
  | stdin
  | file (path : String)
deriving DecidableEq, Repr

def Source.display : Source → String
  | stdin => "<stdin>"
  | file path => path

def Invocation.source (i : Invocation) : Source :=
  match i.input with
  | none => .stdin
  | some path => if path = "-" then .stdin else .file path

inductive Stop where
  | help
  | version
  | missingArgument
  | unknownArgument
  | invalidValue
  | conflict
  | tooManyValues
deriving DecidableEq, Repr

def Stop.exitCode : Stop → Nat
  | help | version => 0
  | _ => 2

namespace Invocation

inductive Setting where
  | config
  | input
  | logFormat
deriving DecidableEq, Repr

inductive Switch where
  | ndjson
  | validate
  | ports
deriving DecidableEq, Repr

inductive Name where
  | setting (s : Setting)
  | switch (s : Switch)
  | help
  | version
deriving DecidableEq, Repr

def ofLong? : String → Option Name
  | "config" => some (.setting .config)
  | "input" => some (.setting .input)
  | "log-format" => some (.setting .logFormat)
  | "ndjson" => some (.switch .ndjson)
  | "validate" => some (.switch .validate)
  | "ports" => some (.switch .ports)
  | "help" => some .help
  | "version" => some .version
  | _ => none

def ofShort? : Char → Option Name
  | 'c' => some (.setting .config)
  | 'i' => some (.setting .input)
  | 'h' => some .help
  | 'V' => some .version
  | _ => none

structure Draft where
  config : Option String := none
  input : Option String := none
  logFormat : Option LogFormat := none
  ndjson : Option Bool := none
  validate : Option Bool := none
  ports : Option Bool := none

namespace Draft

def has (d : Draft) : Setting → Bool
  | .config => d.config.isSome
  | .input => d.input.isSome
  | .logFormat => d.logFormat.isSome

def set (d : Draft) (o : Setting) (value : String) : Except Stop Draft :=
  match o with
  | .config => if value = "" then .error .invalidValue else .ok { d with config := some value }
  | .input => if value = "" then .error .invalidValue else .ok { d with input := some value }
  | .logFormat =>
    match LogFormat.ofName? value with
    | some f => .ok { d with logFormat := some f }
    | none => .error .invalidValue

def give (d : Draft) (o : Setting) (value : String) : Except Stop Draft :=
  if d.has o then .error .conflict else d.set o value

def switchOn (d : Draft) (s : Switch) : Except Stop Draft :=
  match s with
  | .ndjson => if d.ndjson.isSome then .error .conflict else .ok { d with ndjson := some true }
  | .validate =>
    if d.validate.isSome then .error .conflict else .ok { d with validate := some true }
  | .ports => if d.ports.isSome then .error .conflict else .ok { d with ports := some true }

end Draft

structure Pending where
  setting : Setting
  value : Option String

/-- Settles a pending option. It is settled late, so that an unknown argument
behind it comes first. -/
def settle (pending : Option Pending) (d : Draft) : Except Stop Draft :=
  match pending with
  | none => .ok d
  | some ⟨_, none⟩ => .error .invalidValue
  | some ⟨o, some value⟩ => d.give o value

def long? (arg : List Char) : Option (String × Option String) :=
  match arg with
  | '-' :: '-' :: rest =>
    let name := String.ofList (rest.takeWhile (· != '='))
    match rest.dropWhile (· != '=') with
    | '=' :: value => some (name, some (String.ofList value))
    | _ => some (name, none)
  | _ => none

def short? (arg : List Char) : Option (Char × List Char) :=
  match arg with
  | '-' :: c :: rest => some (c, rest)
  | _ => none

def attached? : List Char → Option String
  | [] => none
  | '=' :: value => some (String.ofList value)
  | value => some (String.ofList value)

def read (pending : Option Pending) (d : Draft) : List String → Except Stop Draft
  | [] => settle pending d
  | "--" :: rest => if rest.isEmpty then settle pending d else .error .unknownArgument
  | arg :: rest =>
    let named (name : Name) (value : Option String) : Except Stop Draft :=
      match name, value with
      | .setting o, none =>
        match settle pending d with
        | .error e => .error e
        | .ok d => read (some ⟨o, none⟩) d rest
      | .setting o, some value =>
        match settle pending d with
        | .error e => .error e
        | .ok d =>
          match d.give o value with
          | .error e => .error e
          | .ok d => read none d rest
      | _, some _ => .error .tooManyValues
      | .switch s, none =>
        match settle pending d with
        | .error e => .error e
        | .ok d =>
          match d.switchOn s with
          | .error e => .error e
          | .ok d => read none d rest
      | .help, none =>
        match settle pending d with
        | .error e => .error e
        | .ok _ => .error .help
      | .version, none =>
        match settle pending d with
        | .error e => .error e
        | .ok _ => .error .version
    match long? arg.toList with
    | some (name, value) =>
      match ofLong? name with
      | some name => named name value
      | none => .error .unknownArgument
    | none =>
      match short? arg.toList with
      | some (c, more) =>
        match ofShort? c with
        | some (.setting o) => named (.setting o) (attached? more)
        | some name => named name none
        | none => .error .unknownArgument
      | none =>
        match pending with
        | some ⟨o, none⟩ => read (some ⟨o, some arg⟩) d rest
        | _ => .error .unknownArgument

def Setting.variableName : Setting → String
  | .config => "NVISY_SWITCH_CONFIG"
  | .input => "NVISY_SWITCH_INPUT"
  | .logFormat => "NVISY_LOG_FORMAT"

def ndjsonVariable : String := "NVISY_SWITCH_NDJSON"

def variableNames : List String :=
  ndjsonVariable :: [Setting.config, .input, .logFormat].map Setting.variableName

def complete (env : String → Option String) (d : Draft) : Except Stop Draft := do
  let fill (d : Draft) (o : Setting) : Except Stop Draft :=
    if d.has o then .ok d
    else match env o.variableName with
      | some value => d.set o value
      | none => .ok d
  let d ← fill d .config
  let d ← fill d .input
  let d ← match d.ndjson, env ndjsonVariable with
    | none, some "true" => .ok { d with ndjson := some true }
    | none, some "false" => .ok { d with ndjson := some false }
    | none, some _ => .error .invalidValue
    | _, _ => .ok d
  fill d .logFormat

def finish (d : Draft) : Except Stop Invocation :=
  match d.config with
  | none => .error .missingArgument
  | some config =>
    .ok ⟨config, d.input, d.ndjson.getD false, d.logFormat.getD .text, d.validate.getD false,
      d.ports.getD false⟩

def parse (env : String → Option String) (args : List String) : Except Stop Invocation :=
  match read none {} args with
  | .error e => .error e
  | .ok d =>
    match complete env d with
    | .error e => .error e
    | .ok d => finish d

end Invocation

end Switchyard
