import SandboxRpc.Configuration.Decode

/-!
# Command-line arguments

`Request.ofArguments` reads the arguments from left to right. An option takes its value from the
same argument (`-px`, `-p=x`, `--program=x`) or from the next one, and is given at most once. Help
and version are asked for as soon as they are met; a mistake before that counts first.
-/

namespace SandboxRpc

/-- What an analysis is asked to do. -/
structure Arguments where
  program : String
  configuration : Option String := none
  outputDirectory : Option String := none
  format : Option ReportFormat := none
  trace : Option String := none
  /-- List the indirect calls instead of analysing messages. -/
  listsIndirectCalls : Bool := false
  /-- List the procedures instead of analysing messages. -/
  listsProcedures : Bool := false
deriving DecidableEq, Repr

/-- What the arguments ask for. -/
inductive Request where
  | help
  | version
  | analyse (arguments : Arguments)
  /-- The arguments make no sense. -/
  | refused
deriving DecidableEq, Repr

namespace CommandLine

/-- An option that takes a value. -/
inductive ValueOption where
  | program
  | configuration
  | outputDirectory
  | format
  | trace
deriving DecidableEq, Repr

/-- What an option is for. -/
inductive Switch where
  | valueOption (option : ValueOption)
  | listIndirectCalls
  | listProcedures
  | help
  | version
deriving DecidableEq, Repr

/-- The long names, which follow two dashes. -/
def longNames : List (String × Switch) :=
  [("program", .valueOption .program), ("config", .valueOption .configuration),
    ("output-dir", .valueOption .outputDirectory), ("format", .valueOption .format),
    ("trace", .valueOption .trace), ("list-fp-calls", .listIndirectCalls),
    ("list-funcs", .listProcedures), ("help", .help), ("version", .version)]

/-- The short names, which follow one dash. -/
def shortNames : List (Char × Switch) :=
  [('p', .valueOption .program), ('c', .valueOption .configuration),
    ('o', .valueOption .outputDirectory), ('f', .valueOption .format), ('h', .help),
    ('V', .version)]

/-! ## One argument -/

/-- An argument by itself. -/
inductive Argument where
  /-- Something that is called by its name, with a value in the same argument if there is one. -/
  | named (switch : Switch) (value : Option String)
  /-- Two dashes: no options come after it. -/
  | separator
  /-- Something that does not look like an option. -/
  | plain (text : String)
  /-- It looks like an option, but is none. -/
  | unknown
deriving DecidableEq, Repr

/-- A long name with the value after an equals sign, if there is one. -/
def longArgument (cs : List Char) : Argument :=
  let name := String.ofList (cs.takeWhile (· ≠ '='))
  match longNames.lookup name, cs.dropWhile (· ≠ '=') with
  | none, _ => .unknown
  | some switch, [] => .named switch none
  | some (.valueOption option), _ :: value =>
    .named (.valueOption option) (some (String.ofList value))
  | some _, _ :: _ => .unknown

/-- The value right after a short name, with or without an equals sign. -/
def attachedValue : List Char → Option String
  | [] => none
  | '=' :: value => some (String.ofList value)
  | value => some (String.ofList value)

/-- A short name with the value after it, if there is one. -/
def shortArgument (name : Char) (rest : List Char) : Argument :=
  match shortNames.lookup name with
  | none => .unknown
  | some (.valueOption option) => .named (.valueOption option) (attachedValue rest)
  | some switch => .named switch none

/-- What an argument is by itself. A single dash is nothing special. -/
def Argument.ofString (text : String) : Argument :=
  match text.toList with
  | ['-', '-'] => .separator
  | '-' :: '-' :: rest => longArgument rest
  | '-' :: name :: rest => shortArgument name rest
  | _ => .plain text

/-! ## All arguments -/

/-- What was given so far. -/
structure Given where
  program : Option String := none
  configuration : Option String := none
  outputDirectory : Option String := none
  format : Option ReportFormat := none
  trace : Option String := none
  listsIndirectCalls : Bool := false
  listsProcedures : Bool := false
deriving DecidableEq, Repr

namespace Given

/-- A path that is given for the first time. Paths are not empty. -/
def path? (before : Option String) (text : String) : Option String :=
  if before.isSome ∨ text = "" then none else some text

/-- A format that is given for the first time. -/
def format? (before : Option ReportFormat) (text : String) : Option ReportFormat :=
  if before.isSome then none else Configuration.reportFormats.lookup text

/-- Takes the value of an option. -/
def set? (given : Given) (text : String) : ValueOption → Option Given
  | .program => do
    let program ← path? given.program text
    return { given with program := some program }
  | .configuration => do
    let path ← path? given.configuration text
    return { given with configuration := some path }
  | .outputDirectory => do
    let path ← path? given.outputDirectory text
    return { given with outputDirectory := some path }
  | .format => do
    let format ← format? given.format text
    return { given with format := some format }
  | .trace => do
    let path ← path? given.trace text
    return { given with trace := some path }

/-- The request at the end of the arguments; there has to be a program. -/
def request (given : Given) : Request :=
  match given.program with
  | none => .refused
  | some program => .analyse {
      program
      configuration := given.configuration
      outputDirectory := given.outputDirectory
      format := given.format
      trace := given.trace
      listsIndirectCalls := given.listsIndirectCalls
      listsProcedures := given.listsProcedures }

end Given

/-- Reads the arguments that are left, after what was given before. -/
def readArguments (given : Given) : List String → Request
  | [] => given.request
  | text :: rest =>
    match Argument.ofString text with
    | .named .help _ => .help
    | .named .version _ => .version
    | .named .listIndirectCalls _ =>
      if given.listsIndirectCalls then .refused
      else readArguments { given with listsIndirectCalls := true } rest
    | .named .listProcedures _ =>
      if given.listsProcedures then .refused
      else readArguments { given with listsProcedures := true } rest
    | .named (.valueOption option) (some value) =>
      match given.set? value option with
      | some given => readArguments given rest
      | none => .refused
    | .named (.valueOption option) none =>
      match rest with
      | [] => .refused
      | next :: rest =>
        -- What looks like an option is never taken for a value.
        match Argument.ofString next with
        | .plain value =>
          match given.set? value option with
          | some given => readArguments given rest
          | none => .refused
        | _ => .refused
    | .separator => if rest.isEmpty then given.request else .refused
    | .plain _ => .refused
    | .unknown => .refused

end CommandLine

/-- What command-line arguments ask for. -/
def Request.ofArguments (arguments : List String) : Request :=
  CommandLine.readArguments {} arguments

end SandboxRpc
