import PatternFactory.Command.Arguments

/-!
# What a command reports

A command that ran prints the units that it emitted, and on the error stream how many errors there
were.  A command that failed prints why, with all causes.  An error of either kind shows in the exit
code.
-/

namespace PatternFactory

/-- The name of the program. -/
def programName : String := "patgen"

/-- The version of the program. -/
def programVersion : String := "0.3.1"

/-- What a program leaves behind when it ends. -/
structure Report where
  exitCode : Nat
  output : String
  errors : String
  deriving DecidableEq, Repr

namespace Report

/-- A text with a line end. -/
def line (text : String) : String := text ++ "\n"

/-! ### Causes -/

/-- A text in which each line after the first is indented. -/
def indented (margin text : String) : String := text.replace "\n" ("\n" ++ margin)

/-- The causes of a failure; if there are several, they are numbered. -/
def causes : List String → String
  | [] => ""
  | [cause] => "\n\nCaused by:\n    " ++ indented "    " cause
  | many =>
    "\n\nCaused by:" ++ String.join (many.zipIdx.map fun (cause, n) =>
      "\n    " ++ toString n ++ ": " ++ indented "       " cause)

/-- A failure with its causes. -/
def failure (f : CommandFailure) : String :=
  match f.chain with
  | [] => ""
  | text :: rest => line ("Error: " ++ text ++ causes rest)

/-! ### Commands -/

/-- How a command shows a unit. -/
def unitLine (c : Command) (name : QualifiedName) : String :=
  match c with
  | .generate _ out => line (unitPath out name).text
  | .check _ => line name.dotted

/-- The line that counts errors and warnings, if there are errors. -/
def summary (o : Outcome) : String :=
  if o.isSuccess then ""
  else line (programName ++ ": " ++ toString o.errors ++ " error(s), " ++ toString o.warnings
    ++ " warning(s)")

/-- The report on a command. -/
def ofResult (c : Command) : CommandResult Outcome → Report
  | .ok o => ⟨if o.isSuccess then 0 else 1, String.join (o.emitted.map (unitLine c)), summary o⟩
  | .error f => ⟨match f.failure with | .unrenderable _ => 101 | _ => 1, "", failure f⟩

/-- What is printed on the help that a command line asks for. -/
def usage : String :=
  "Usage: " ++ programName ++ " generate <SRC> --out <OUT> [OPTIONS]\n       " ++ programName
    ++ " check <SRC> [OPTIONS]\n"

/-- The report on a command line that names no command to run. -/
def ofUsage : UsageError → Report
  | .version => ⟨0, line (programName ++ " " ++ programVersion), ""⟩
  | .help => ⟨0, usage, ""⟩
  | _ => ⟨2, "", usage⟩

end Report

section

variable {m : Type → Type} [Monad m] [FileSystem m]

/-- Runs a command. -/
def Command.run (c : Command) (o : Options) : m (CommandResult Outcome) :=
  match c with
  | .generate src out => PatternFactory.generate src out o
  | .check src => PatternFactory.check src o

/-- Runs a command line.  `out` is the directory for the units if none is given. -/
def runProgram (out : Option String) (args : List String) : m Report := do
  match Arguments.parse out args with
  | .error e => return .ofUsage e
  | .ok a => return .ofResult a.command (← a.command.run a.options)

end

end PatternFactory
