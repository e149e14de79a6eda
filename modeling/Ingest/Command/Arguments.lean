/-!
# Command/Arguments — what the command line asks for

A command line is a list of options, a command, and the arguments of the command. Options that apply
to every command may stand before or after it, once on each side; the later side wins. Arguments are
read from the left, and the first one that fits nowhere is reported; what is missing is reported at
the end, for the command first.
-/

namespace Ingest

/-- What is to be done. -/
inductive Command where
  /-- Run one pipeline. -/
  | run (name : String)
  /-- Run every pipeline. -/
  | runAll
  /-- Run every pipeline from the start, over emptied sinks if asked to. -/
  | rerun (deleteData : Bool)
  /-- Show the checkpoint of every pipeline. -/
  | status
deriving DecidableEq, Repr

/-- A command with the options that apply to every command. -/
structure Invocation where
  /-- What is to be done. -/
  command : Command
  /-- Whether to log more. -/
  verbose : Bool
  /-- Whether to answer with JSON. -/
  json : Bool
  /-- The path of the pipelines file. -/
  pipelines : String
deriving DecidableEq, Repr

/-- Why a command line asks for nothing that can be done. -/
inductive UsageError where
  /-- Help is asked for. -/
  | help
  /-- The version is asked for. -/
  | version
  /-- There are no arguments; help is shown instead. -/
  | nothingAsked
  | missingArgument
  | missingCommand
  | unknownArgument
  | unknownCommand
  | invalidValue
  /-- An option that takes no value has one. -/
  | unneededValue
  /-- An option is repeated. -/
  | repeatedOption
deriving DecidableEq, Repr

/-- The exit code of a process that was asked for nothing that can be done. -/
def UsageError.exitCode : UsageError → Nat
  | help | version => 0
  | _ => 2

namespace Invocation

/-- The word before a command's own arguments. -/
inductive Verb where
  | run
  | runAll
  | rerun
  | status
deriving DecidableEq, Repr

/-- The command with a word. -/
def Verb.ofWord? (s : String) : Option Verb :=
  [("run", Verb.run), ("run-all", .runAll), ("rerun", .rerun), ("status", .status)].lookup s

/-- The path that is being given. -/
inductive PathOption where
  /-- No path is being given. -/
  | settled
  /-- A path must follow. -/
  | awaited
  /-- A path was read and is not yet checked. -/
  | read (path : String)
deriving DecidableEq, Repr

/-- What was given on one side of the word for the command. -/
structure Given where
  /-- Whether to log more. -/
  verbose : Bool := false
  /-- Whether to answer with JSON. -/
  json : Bool := false
  /-- Whether to empty the sinks. -/
  deleteData : Bool := false
  /-- The path of the pipelines file. -/
  pipelines : Option String := none
  /-- The name of a pipeline. -/
  name : Option String := none
  /-- The path that is being given. -/
  path : PathOption := .settled
  /-- Whether nothing that follows is an option. -/
  onlyNames : Bool := false

namespace Given

/-- Takes a path for the path of the pipelines file. -/
def setPipelines (g : Given) (path : String) : Except UsageError Given :=
  if g.pipelines.isSome then .error .repeatedOption
  else if path.isEmpty then .error .invalidValue
  else .ok { g with pipelines := some path }

/-- Checks the path that was being given. -/
def settle (g : Given) : Except UsageError Given :=
  match g.path with
  | .settled => .ok g
  | .awaited => .error .invalidValue
  | .read path => { g with path := .settled }.setPipelines path

/-- Takes a switch; `isSet` tells whether it was given before. -/
def switch (g : Given) (isSet : Given → Bool) (set : Given → Given) : Except UsageError Given := do
  let g ← g.settle
  if isSet g then .error .repeatedOption else return set g

/-- Gives up, once the path that was being given is checked. -/
def stopWith (g : Given) (e : UsageError) : Except UsageError Given := do
  let _ ← g.settle
  .error e

/-- Takes one short option. -/
def short (verb : Option Verb) (g : Given) (c : Char) : Except UsageError Given :=
  if c = 'v' then g.switch Given.verbose fun g => { g with verbose := true }
  else if c = 'h' then g.stopWith .help
  else if c = 'V' ∧ verb.isNone then g.stopWith .version
  else .error .unknownArgument

/-- Takes a long option that takes no value. -/
def flag (verb : Option Verb) (g : Given) (name : String) : Except UsageError Given :=
  if name = "verbose" then g.switch Given.verbose fun g => { g with verbose := true }
  else if name = "json" then g.switch Given.json fun g => { g with json := true }
  else if name = "delete-data" ∧ verb = some .rerun then
    g.switch Given.deleteData fun g => { g with deleteData := true }
  else if name = "help" then g.stopWith .help
  else if name = "version" ∧ verb.isNone then g.stopWith .version
  else .error .unknownArgument

/-- Whether there is a long option of a name that takes no value. -/
def isFlag (verb : Option Verb) (name : String) : Bool :=
  name == "verbose" || name == "json" || name == "help" ||
    (name == "delete-data" && verb == some .rerun) || (name == "version" && verb == none)

/-- Takes a long option with the value that is attached to it, if there is one. -/
def long (verb : Option Verb) (g : Given) (name : String) (value : Option String) :
    Except UsageError Given :=
  match value with
  | none =>
    if name = "pipelines" then do return { ← g.settle with path := .awaited }
    else g.flag verb name
  | some value =>
    if name = "pipelines" then do (← g.settle).setPipelines value
    else if isFlag verb name then .error .unneededValue
    else .error .unknownArgument

/-- Takes an argument that is no option. -/
def positional (verb : Option Verb) (g : Given) (arg : String) : Except UsageError Given :=
  match verb with
  | none =>
    if g.onlyNames ∧ (arg = "help" ∨ (Verb.ofWord? arg).isSome) then .error .unknownArgument
    else .error .unknownCommand
  | some .run =>
    if g.name.isSome then .error .unknownArgument
    else do return { ← g.settle with name := some arg }
  | some _ => .error .unknownArgument

/-- Takes one argument. -/
def take (verb : Option Verb) (g : Given) (arg : String) : Except UsageError Given :=
  if g.onlyNames then g.positional verb arg
  else
    match arg.toList with
    | ['-', '-'] => .ok { g with onlyNames := true }
    | '-' :: '-' :: rest =>
      let name := String.ofList (rest.takeWhile (· != '='))
      match rest.dropWhile (· != '=') with
      | [] => g.long verb name none
      | _ :: value => g.long verb name (some (String.ofList value))
    | '-' :: c :: rest => (c :: rest).foldlM (Given.short verb) g
    | _ =>
      if g.path = .awaited then .ok { g with path := .read arg } else g.positional verb arg

/-- Checks what was given on one side. `fallback` is the path for a side without one. -/
def finish (g : Given) (fallback : Option String) : Except UsageError Given := do
  let g ← g.settle
  if g.pipelines.isNone ∧ fallback = some "" then .error .invalidValue else return g

end Given

/-- The answer to a request for help about a command. -/
def helpAbout : List String → UsageError
  | [] => .help
  | [word] => if word = "help" ∨ (Verb.ofWord? word).isSome then .help else .unknownCommand
  | _ => .unknownCommand

/-- Reads the options before the command, and the command. -/
def readFront : Given → List String → Except UsageError (Given × Option (Verb × List String))
  | g, [] => .ok (g, none)
  | g, arg :: rest =>
    if g.onlyNames ∨ g.path = .awaited then do readFront (← g.take none arg) rest
    else if arg = "help" then .error (helpAbout rest)
    else
      match Verb.ofWord? arg with
      | some verb => .ok (g, some (verb, rest))
      | none => do readFront (← g.take none arg) rest

/-- The command of a word and what was given after it. -/
def commandOf (g : Given) : Verb → Except UsageError Command
  | .run =>
    match g.name with
    | some name => .ok (.run name)
    | none => .error .missingArgument
  | .runAll => .ok .runAll
  | .rerun => .ok (.rerun g.deleteData)
  | .status => .ok .status

/-- Reads a command line. `fallback` is the path of the pipelines file that the environment gives. -/
def ofArguments (fallback : Option String) (args : List String) :
    Except UsageError Invocation := do
  match ← readFront {} args with
  | (front, none) =>
    let front ← front.finish fallback
    if !front.verbose && !front.json && front.pipelines.isNone && fallback.isNone then
      .error .nothingAsked
    .error .missingCommand
  | (front, some (verb, rest)) =>
    let back ← rest.foldlM (Given.take (some verb)) {}
    let back ← back.finish fallback
    let command ← commandOf back verb
    let front ← front.finish fallback
    return {
      command := command
      verbose := front.verbose || back.verbose
      json := front.json || back.json
      pipelines := ((back.pipelines.or front.pipelines).or fallback).getD "pipelines.toml" }

end Invocation

end Ingest
