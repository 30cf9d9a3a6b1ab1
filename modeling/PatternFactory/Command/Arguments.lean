import PatternFactory.Command.Basic

/-!
# Command lines

`Arguments.parse` reads a command line, without the name of the program.  Its arguments are taken
one after the other.  A value that is read is put in its place only when something else is read, or
at the end; so if an argument is unknown, it is reported before a bad value in front of it.
-/

namespace PatternFactory

/-- Why a command line asks for nothing that can be done. -/
inductive UsageError where
  /-- The user asks for help. -/
  | help
  /-- The user asks for the version. -/
  | version
  /-- No command is given. -/
  | noCommand
  | unknownCommand
  | unknownArgument
  /-- A value is missing or must not be empty. -/
  | badValue
  /-- A value is given where none belongs. -/
  | unneededValue
  /-- An option that can be given once only is given again. -/
  | repeated
  /-- An argument that is needed is missing. -/
  | missing
  deriving DecidableEq, Repr

/-- What is to be done. -/
inductive Command where
  | generate (src out : PathName)
  | check (src : PathName)
  deriving DecidableEq, Repr

/-- A command line. -/
structure Arguments where
  command : Command
  options : Options
  /-- How much is told about what is done. -/
  verbosity : Nat
  deriving DecidableEq, Repr

/-- The level of the messages that are shown. -/
def logLevel (verbosity : Nat) : String :=
  match verbosity with
  | 0 => "warn"
  | 1 => "info"
  | 2 => "debug"
  | _ => "trace"

/-! ### Options -/

/-- The commands that have arguments. -/
inductive CommandKind where
  | generate
  | check
  deriving DecidableEq, Repr

/-- Where a value goes. -/
inductive Slot where
  | src
  | out
  | config
  | suffix
  | runtimePath
  | exclude
  deriving DecidableEq, Repr

namespace Slot

/-- Must the value not be empty? -/
def isPath (s : Slot) : Bool := s = src || s = out || s = config

end Slot

/-- What an option is for. -/
inductive Switch where
  | value (slot : Slot)
  | verbose
  | help
  deriving DecidableEq, Repr

namespace Switch

/-- The option with a long name. -/
def ofName? (kind : CommandKind) : String → Option Switch
  | "out" => if kind = .generate then some (value .out) else none
  | "config" => some (value .config)
  | "suffix" => some (value .suffix)
  | "runtime-path" => some (value .runtimePath)
  | "exclude" => some (value .exclude)
  | "verbose" => some verbose
  | "help" => some help
  | _ => none

/-- The option with a short name. -/
def ofChar? (kind : CommandKind) : Char → Option Switch
  | 'o' => if kind = .generate then some (value .out) else none
  | 'c' => some (value .config)
  | 'v' => some verbose
  | 'h' => some help
  | _ => none

end Switch

/-! ### Values -/

/-- What is read of the arguments of a command. -/
structure Values where
  /-- The values in their order. -/
  given : List (Slot × String)
  verbosity : Nat
  /-- What is read last: where its value goes, and the value if it is there. -/
  pending : Option (Slot × Option String)
  /-- Are all further arguments values? -/
  onlyValues : Bool
  deriving DecidableEq, Repr

namespace Values

/-- Nothing is read. -/
def start : Values := ⟨[], 0, none, false⟩

/-- The largest verbosity. -/
def verbosityLimit : Nat := 255

/-- Is there a value for a slot? -/
def has (v : Values) (slot : Slot) : Bool := v.given.any fun g => g.1 = slot

/-- The last value for a slot. -/
def get? (v : Values) (slot : Slot) : Option String :=
  (v.given.find? fun g => g.1 = slot).map Prod.snd

/-- Puts a value in its place. -/
def store (v : Values) (slot : Slot) (value : Option String) : Except UsageError Values :=
  match value with
  | none => .error .badValue
  | some text =>
    if slot ≠ .exclude && v.has slot then .error .repeated
    else if slot.isPath && text.isEmpty then .error .badValue
    else .ok { v with given := v.given ++ [(slot, text)] }

/-- Puts what is read last in its place. -/
def settle (v : Values) : Except UsageError Values :=
  match v.pending with
  | none => .ok v
  | some (slot, value) => { v with pending := none }.store slot value

/-- Reads an option, to which a value may be attached. -/
def switch (v : Values) (attached : Option String) : Switch → Except UsageError Values
  | .value slot => do
    let v ← v.settle
    match attached with
    | some text => v.store slot (some text)
    | none => return { v with pending := some (slot, none) }
  | .verbose => do
    let v ← v.settle
    return { v with verbosity := min verbosityLimit (v.verbosity + 1) }
  | .help => do
    let _ ← v.settle
    .error .help

/-- Reads an option that is given by its long name. -/
def long (kind : CommandKind) (v : Values) (name : String) (attached : Option String) :
    Except UsageError Values :=
  match Switch.ofName? kind name with
  | none => .error .unknownArgument
  | some (.value slot) => v.switch attached (.value slot)
  | some s => if attached.isSome then .error .unneededValue else v.switch none s

/-- What is attached to a short name. -/
def attachedTo : List Char → Option String
  | [] => none
  | '=' :: cs => some (String.ofList cs)
  | cs => some (String.ofList cs)

/-- Reads options that are given by their short names. -/
def short (kind : CommandKind) (v : Values) : List Char → Except UsageError Values
  | [] => .ok v
  | c :: cs =>
    match Switch.ofChar? kind c with
    | none => .error .unknownArgument
    | some (.value slot) => v.switch (attachedTo cs) (.value slot)
    | some s => do short kind (← v.switch none s) cs

/-- Reads an argument that is no option. -/
def positional (v : Values) (text : String) : Except UsageError Values :=
  if v.has .src || v.pending.any (·.1 = .src) then .error .unknownArgument
  else do return { (← v.settle) with pending := some (.src, some text) }

/-- Splits what is behind the dashes of an option at its first equals sign. -/
def splitLong (cs : List Char) : String × Option String :=
  let name := cs.takeWhile (· ≠ '=')
  (String.ofList name, (cs.drop name.length).tail?.map String.ofList)

/-- Reads an argument. -/
def add (kind : CommandKind) (v : Values) (arg : String) : Except UsageError Values :=
  if v.onlyValues then v.positional arg
  else
    match arg.toList with
    | ['-', '-'] => .ok { v with onlyValues := true }
    | '-' :: '-' :: cs =>
      let (name, attached) := splitLong cs
      v.long kind name attached
    | '-' :: c :: cs => v.short kind (c :: cs)
    | _ =>
      match v.pending with
      | some (slot, none) => .ok { v with pending := some (slot, some arg) }
      | _ => v.positional arg

/-- The values of an option that can be given several times, between commas. -/
def excludes (v : Values) : List String :=
  (v.given.filter fun g => g.1 = .exclude).flatMap fun g => g.2.splitOn ","

/-- The options among the values. -/
def options (v : Values) : Options :=
  ⟨(v.get? .config).map PathName.mk, v.get? .suffix, v.get? .runtimePath, v.excludes⟩

/-- Takes the directory for the units from elsewhere if it is not given. -/
def withOut (kind : CommandKind) (fallback : Option String) (v : Values) :
    Except UsageError Values :=
  match fallback with
  | some text => if kind = .generate && !v.has .out then v.store .out (some text) else .ok v
  | none => .ok v

/-- The path for a slot. -/
def path (v : Values) (slot : Slot) : Except UsageError PathName :=
  match v.get? slot with
  | some text => .ok ⟨text⟩
  | none => .error .missing

/-- What is to be done. -/
def command (kind : CommandKind) (v : Values) : Except UsageError Command :=
  match kind with
  | .generate => do return .generate (← v.path .src) (← v.path .out)
  | .check => do return .check (← v.path .src)

end Values

/-! ### Command lines -/

namespace Arguments

/-- The command of a name. -/
def kind? : String → Option CommandKind
  | "generate" => some .generate
  | "check" => some .check
  | _ => none

/-- Reads the arguments of a command. -/
def ofKind (kind : CommandKind) (out : Option String) (args : List String) :
    Except UsageError Arguments := do
  let v ← args.foldlM (Values.add kind) Values.start
  let v ← v.settle
  let v ← v.withOut kind out
  return ⟨← v.command kind, v.options, v.verbosity⟩

/-- Is there something behind `help`, other than one command? -/
def helpTopic : List String → UsageError
  | [] => .help
  | [name] => if (kind? name).isSome || name = "help" then .help else .unknownCommand
  | _ => .unknownCommand

/-- What an option in front of a command asks for. -/
def ownLong (name : String) (attached : Option String) : UsageError :=
  if name = "help" then if attached.isSome then .unneededValue else .help
  else if name = "version" then if attached.isSome then .unneededValue else .version
  else .unknownArgument

/-- What comes of a first argument that is no command. -/
def ofOther (arg : String) : UsageError :=
  match arg.toList with
  | '-' :: '-' :: cs =>
    let (name, attached) := Values.splitLong cs
    ownLong name attached
  | ['-'] => .unknownCommand
  | '-' :: 'h' :: _ => .help
  | '-' :: 'V' :: _ => .version
  | '-' :: _ => .unknownArgument
  | _ => .unknownCommand

/-- Reads a command line.  `out` is the directory for the units if none is given. -/
def parse (out : Option String) : List String → Except UsageError Arguments
  | [] => .error .noCommand
  | ["--"] => .error .noCommand
  | "--" :: name :: _ =>
    .error (if (kind? name).isSome || name = "help" then .unknownArgument else .unknownCommand)
  | "help" :: topic => .error (helpTopic topic)
  | name :: args =>
    match kind? name with
    | some kind => ofKind kind out args
    | none => .error (ofOther name)

end Arguments

end PatternFactory
