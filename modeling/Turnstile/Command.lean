/-
# Commands

What can be asked for on a command line.  In front of the command stands the configuration file,
which may also come from the environment:

    [-c FILE | --config FILE] check
    [-c FILE | --config FILE] eval [-i FILE | --input FILE] [--metrics]

A value stands behind its option or, after an equals sign, in the same argument; behind a short
option the equals sign may be missing.  It is not empty, and does not begin with a hyphen if it
stands alone, unless the hyphen is all of it.  No option may be given twice.

`Invocation.ofArguments?` reads a command line, and refuses what is not of this form.
-/

namespace Turnstile

/-- What to do. -/
inductive Command where
  /-- Compile every rule and print it. -/
  | check
  /-- Answer the requests in a file, or in the standard input if none is named, and then
  print the metrics if they are wanted. -/
  | eval (input : Option String) (metrics : Bool)
deriving DecidableEq, Repr

/-- A command and the configuration file that it is given. -/
structure Invocation where
  config : String
  command : Command
deriving DecidableEq, Repr

namespace Command

/-! ## 1. Options -/

/-- How an option that takes a value is written. -/
structure Flag where
  long : String
  short : Char
deriving DecidableEq, Repr

/-- What an argument has to do with an option. -/
inductive Use where
  /-- It is another one. -/
  | other
  /-- It is the option, and the value follows. -/
  | bare
  /-- It holds the option and its value. -/
  | valued (value : String)
deriving DecidableEq, Repr

/-- Whether an argument uses an option. -/
def Flag.use (f : Flag) (arg : String) : Use :=
  match arg.toList with
  | '-' :: '-' :: text =>
    let (name, value) := text.span (· != '=')
    if String.ofList name ≠ f.long then .other
    else match value with
      | [] => .bare
      | _ :: value => .valued (String.ofList value)
  | '-' :: c :: value =>
    if c ≠ f.short then .other
    else match value with
      | [] => .bare
      | '=' :: value => .valued (String.ofList value)
      | value => .valued (String.ofList value)
  | _ => .other

/-- Whether an argument can be the value of the option before it. -/
def isValue (arg : String) : Bool :=
  arg == "-" || !(arg.isEmpty || arg.startsWith "-")

/-- The option that names the configuration file. -/
def configFlag : Flag := ⟨"config", 'c'⟩

/-- The option that names the input file. -/
def inputFlag : Flag := ⟨"input", 'i'⟩

/-! ## 2. Commands -/

/-- The arguments of `eval`, behind those that have been read. -/
def readEval (input : Option String) (metrics : Bool) : List String → Option Command
  | [] => some (.eval input metrics)
  | arg :: args =>
    if arg = "--metrics" then if metrics then none else readEval input true args
    else if arg = "--" then if args.isEmpty then some (.eval input metrics) else none
    else match inputFlag.use arg, input with
      | .valued value, none => if value.isEmpty then none else readEval (some value) metrics args
      | .bare, none => match args with
        | value :: args => if isValue value then readEval (some value) metrics args else none
        | [] => none
      | _, _ => none

/-- A command with its arguments. -/
def read (name : String) (args : List String) : Option Command :=
  match name with
  | "check" => if args = [] ∨ args = ["--"] then some .check else none
  | "eval" => readEval none false args
  | _ => none

end Command

namespace Invocation

open Command

/-- The arguments of a command line, behind those that have been read. -/
def readArguments (config : Option String) : List String → Option (Option String × Command)
  | [] => none
  | arg :: args => match configFlag.use arg, config with
    | .other, config => (Command.read arg args).map (config, ·)
    | .valued value, none => if value.isEmpty then none else readArguments (some value) args
    | .bare, none => match args with
      | value :: args => if isValue value then readArguments (some value) args else none
      | [] => none
    | _, some _ => none

/-- The invocation that a command line asks for.  A file named on it goes before the one that the
environment names. -/
def ofArguments? (environment : Option String) (args : List String) : Option Invocation := do
  let (config, command) ← readArguments none args
  let config ← config <|> environment
  if config.isEmpty then none else return ⟨config, command⟩

end Invocation

end Turnstile
