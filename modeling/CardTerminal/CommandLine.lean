import CardTerminal.SocketDir

/-!
What can be asked for on a command line.

Options that concern all commands may stand before the name of a command and behind it, and may also
come from the environment; what stands last on the line counts most. Main statement: a line that
holds the name of a command and nothing else asks for that command, with what the environment says
(`parse_name`).
-/

namespace CardTerminal

/-- What the program can do. -/
inductive Job where
  /-- Create an empty status file. -/
  | init
  /-- Serve a configured reader. -/
  | start (reader : Nat) (foreground : Bool)
  /-- Answer for all readers. -/
  | master
  /-- List the readers that are served. -/
  | list
  /-- Stop all readers that are served. -/
  | shutdown
  deriving DecidableEq, Repr

/-- What a command line asks for. -/
structure Invocation where
  /-- The file with the settings. -/
  config : Option String
  logLevel : Option String
  socketDir : Option String
  job : Job
  deriving DecidableEq, Repr

namespace CommandLine

/-- Why a command line is not carried out. -/
inductive Refusal where
  /-- It asks for help. -/
  | help
  /-- It asks for the version of the program. -/
  | version
  /-- Nothing is given at all. -/
  | nothing
  | missingCommand
  | unknownCommand
  | unknownArgument
  /-- An option is given twice. -/
  | repeated
  /-- An option that cannot be left out is missing. -/
  | missingArgument
  /-- An option has no value, or an empty one where there has to be something. -/
  | missingValue
  /-- A value is given where none can be. -/
  | needlessValue
  /-- A value is no number in range. -/
  | badNumber
  deriving DecidableEq, Repr

/-! ## Options and names -/

/-- What can be given besides the name of a command. -/
inductive Flag where
  | config
  | logLevel
  | socketDir
  | reader
  | foreground
  | help
  | version
  deriving DecidableEq, Repr

namespace Flag

def long : Flag → String
  | .config => "config"
  | .logLevel => "log-level"
  | .socketDir => "socket-dir"
  | .reader => "reader"
  | .foreground => "foreground"
  | .help => "help"
  | .version => "version"

def short : Flag → Char
  | .config => 'c'
  | .logLevel => 'l'
  | .socketDir => 's'
  | .reader => 'r'
  | .foreground => 'f'
  | .help => 'h'
  | .version => 'V'

def takesValue : Flag → Bool
  | .config | .logLevel | .socketDir | .reader => true
  | .foreground | .help | .version => false

/-- The options that concern all commands, each with the environment variable it may come from. -/
def common : List (Flag × String) :=
  [(.config, "OPENCT_CONFIG"), (.logLevel, "OPENCT_LOG_LEVEL"),
    (.socketDir, SocketDir.environmentName)]

end Flag

/-- The names that can stand for what to do. -/
inductive Verb where
  | init
  | start
  | master
  | list
  | shutdown
  | help
  deriving DecidableEq, Repr

def Verb.text : Verb → String
  | .init => "init"
  | .start => "start"
  | .master => "master"
  | .list => "list"
  | .shutdown => "shutdown"
  | .help => "help"

def Verb.find? (text : String) : Option Verb :=
  [Verb.init, .start, .master, .list, .shutdown, .help].find? (·.text = text)

/-- A part of a command line: up to the name of a command, or behind it. -/
inductive Scope where
  | before
  | behind (verb : Verb)
  deriving DecidableEq, Repr

/-- What can be given in a part of a command line. -/
def Scope.flags : Scope → List Flag
  | .before => [.config, .logLevel, .socketDir, .help, .version]
  | .behind .start => [.config, .logLevel, .socketDir, .reader, .foreground, .help]
  | .behind _ => [.config, .logLevel, .socketDir, .help]

/-! ## Values -/

/-- The number that a text stands for: decimal digits, maybe behind a plus sign. -/
def number? (text : String) : Option Nat :=
  let digits := match text.toList with
    | '+' :: digits => digits
    | digits => digits
  if digits.isEmpty || !digits.all Char.isDigit then none
  else
    let n := digits.foldl (fun n c => 10 * n + (c.toNat - '0'.toNat)) 0
    if n ≤ 0xFFFFFFFFFFFFFFFF then some n else none

def Flag.check (flag : Flag) (value : String) : Except Refusal Unit :=
  match flag with
  | .config | .socketDir => if value.isEmpty then .error .missingValue else .ok ()
  | .reader => if (number? value).isNone then .error .badNumber else .ok ()
  | .logLevel | .foreground | .help | .version => .ok ()

/-- What has been given in a part of a command line. -/
structure Given where
  /-- What has its value, the last one first. -/
  settled : List (Flag × String)
  /-- An option that still has to be looked at, with its value if that has been seen. -/
  pending : Option (Flag × Option String)
  deriving DecidableEq, Repr

namespace Given

def none : Given :=
  ⟨[], .none⟩

def value (g : Given) (flag : Flag) : Option String :=
  g.settled.lookup flag

/-- Add an option with its value; each can be given once. -/
def add (g : Given) (flag : Flag) (value : String) : Except Refusal Given :=
  if (g.value flag).isSome then .error .repeated
  else do
    flag.check value
    return ⟨(flag, value) :: g.settled, .none⟩

def settle (g : Given) : Except Refusal Given :=
  match g.pending with
  | .none => .ok g
  | some (_, .none) => .error .missingValue
  | some (flag, some value) => g.add flag value

def expect (g : Given) (flag : Flag) : Except Refusal Given := do
  return { ← g.settle with pending := some (flag, .none) }

def assign (g : Given) (flag : Flag) (value : String) : Except Refusal Given := do
  (← g.settle).add flag value

def mark (g : Given) (flag : Flag) : Except Refusal Given := do
  let g ← g.settle
  match flag with
  | .help => .error .help
  | .version => .error .version
  | _ => g.add flag ""

/-- Whether the next argument may be the value of an option. -/
def isExpecting (g : Given) : Bool :=
  match g.pending with
  | some (_, .none) => true
  | _ => false

/-- What follows two dashes: a name, and maybe a value behind an equals sign. -/
def readLong (scope : Scope) (g : Given) (cs : List Char) : Except Refusal Given :=
  let name := String.ofList (cs.takeWhile (· ≠ '='))
  match scope.flags.find? (·.long = name), cs.dropWhile (· ≠ '=') with
  | .none, _ => .error .unknownArgument
  | some flag, [] => if flag.takesValue then g.expect flag else g.mark flag
  | some flag, _ :: value =>
    if flag.takesValue then g.assign flag (String.ofList value) else .error .needlessValue

/-- What follows one dash: letters, up to one with a value, which is what remains. -/
def readShort (scope : Scope) (g : Given) : List Char → Except Refusal Given
  | [] => .ok g
  | c :: cs =>
    match scope.flags.find? (·.short = c) with
    | .none => .error .unknownArgument
    | some flag =>
      if flag.takesValue then
        match cs with
        | [] => g.expect flag
        | '=' :: value => g.assign flag (String.ofList value)
        | value => g.assign flag (String.ofList value)
      else do readShort scope (← g.mark flag) cs

end Given

/-! ## Parts of a command line -/

/-- Why an argument that belongs to nothing is refused. Behind two dashes, which end the options,
the name of a command is only an argument. -/
def Scope.stray (scope : Scope) (afterDashes : Bool) (text : String) : Refusal :=
  match scope with
  | .before =>
    if afterDashes && (Verb.find? text).isSome then .unknownArgument else .unknownCommand
  | .behind _ => .unknownArgument

/-- Read a part of a command line: what has been given, and the name that ends the part with what
follows it. -/
def read (scope : Scope) :
    Given → List String → Except Refusal (Given × Option (Verb × List String))
  | g, [] => .ok (g, none)
  | g, text :: rest =>
    match if scope = .before && !g.isExpecting then Verb.find? text else none with
    | some verb => .ok (g, some (verb, rest))
    | none =>
      match text.toList with
      | ['-', '-'] =>
        match rest with
        | [] => .ok (g, none)
        | text :: _ => .error (scope.stray true text)
      | '-' :: '-' :: cs => do read scope (← g.readLong scope cs) rest
      | '-' :: c :: cs => do read scope (← g.readShort scope (c :: cs)) rest
      | _ =>
        match g.pending with
        | some (flag, none) => read scope { g with pending := some (flag, some text) } rest
        | _ => .error (scope.stray false text)

/-- The values from the environment of what has not been given. -/
def inherit (environment : String → Option String) (g : Given) :
    Except Refusal (List (Flag × String)) := do
  let values := Flag.common.filterMap (fun (flag, name) =>
    if (g.value flag).isSome then none else (environment name).map (fun value => (flag, value)))
  for (flag, value) in values do
    flag.check value
  return values

/-- What a name asks for, with what was given behind it. -/
def Verb.job (verb : Verb) (g : Given) : Except Refusal Job :=
  match verb with
  | .init => .ok .init
  | .start =>
    match (g.value .reader).bind number? with
    | some reader => .ok (.start reader (g.value .foreground).isSome)
    | none => .error .missingArgument
  | .master => .ok .master
  | .list => .ok .list
  | .shutdown => .ok .shutdown
  | .help => .error .help

/-- Why a line that asks for help about a command is refused. -/
def helpAbout : List String → Refusal
  | [] => .help
  | [text] => if (Verb.find? text).isSome then .help else .unknownCommand
  | _ => .unknownCommand

def parse (environment : String → Option String) (args : List String) :
    Except Refusal Invocation := do
  let (outer, next) ← read .before .none args
  match next with
  | none =>
    let outer ← outer.settle
    let inherited ← inherit environment outer
    throw (if outer.settled.isEmpty && inherited.isEmpty then .nothing else .missingCommand)
  | some (.help, names) => throw (helpAbout names)
  | some (verb, args) =>
    let (inner, _) ← read (.behind verb) .none args
    let inner ← inner.settle
    let inherited ← inherit environment inner
    let job ← verb.job inner
    let outer ← outer.settle
    let _ ← inherit environment outer
    let value (flag : Flag) : Option String :=
      (inner.value flag).or ((outer.value flag).or (inherited.lookup flag))
    return ⟨value .config, value .logLevel, value .socketDir, job⟩

/-! ## Lines of a single name -/

theorem parse_name {verb : Verb} {job : Job} (alone : verb.job .none = .ok job) :
    parse (fun _ => none) [verb.text] = .ok ⟨none, none, none, job⟩ := by
  cases verb <;> cases alone <;> rfl

example : parse (fun _ => none) ["start", "-fr", "2"] =
    .ok ⟨none, none, none, .start 2 true⟩ := by rfl

example : parse (fun _ => none) ["-l", "debug", "list", "--log-level=info"] =
    .ok ⟨none, some "info", none, .list⟩ := by rfl

end CommandLine

end CardTerminal
