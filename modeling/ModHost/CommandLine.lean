import ModHost.Config
import ModHost.Report

set_option autoImplicit false

/-!
# Command lines

The arguments of the two programs. The host takes flags that each have a value, and a
later flag replaces an earlier one. The harness takes fixtures, with switches anywhere
among them. The first argument of a command line is the program's name.
-/

namespace ModHost

inductive NumberFault where
  | empty
  | invalidDigit
  | tooLarge
deriving DecidableEq, Repr, Inhabited

def NumberFault.message : NumberFault → String
  | empty => "cannot parse integer from empty string"
  | invalidDigit => "invalid digit found in string"
  | tooLarge => "number too large to fit in target type"

def digitsFrom (greatest n : Nat) : List Char → Except NumberFault Nat
  | [] => .ok n
  | c :: rest =>
    if !c.isDigit then .error .invalidDigit
    else
      let n := n * 10 + (c.toNat - 48)
      if n > greatest then .error .tooLarge else digitsFrom greatest n rest

def numberUpTo (greatest : Nat) (s : String) : Except NumberFault Nat :=
  match s.toList with
  | [] => .error .empty
  | ['+'] => .error .invalidDigit
  | '+' :: digits => digitsFrom greatest 0 digits
  | digits => digitsFrom greatest 0 digits

inductive CommandLineError where
  | unexpectedArgument (word : String)
  | missingValue (flag : String)
  | invalidFrames (value : String) (cause : NumberFault)
  | invalidRole (value : String)
  | invalidPlayers (value : String) (cause : NumberFault)
  | invalidSwitch (flag value : String)
  | unknownFlag (flag : String)
  | unknownSwitch (flag : String)
  | exclusiveModes
  | noFixture
deriving DecidableEq, Repr, Inhabited

def CommandLineError.report : CommandLineError → Report
  | unexpectedArgument word =>
    ⟨s!"Unexpected argument '{word}'. Use --config/--frames/--role/--players with values.", none⟩
  | missingValue flag => ⟨s!"Expected a value after '{flag}'", none⟩
  | invalidFrames value cause => ⟨s!"Invalid frame count '{value}'", some cause.message⟩
  | invalidRole value => ⟨s!"Invalid role '{value}'. Use server or client.", none⟩
  | invalidPlayers value cause => ⟨s!"Invalid player count '{value}'", some cause.message⟩
  | invalidSwitch flag value =>
    ⟨s!"Invalid {flag} value '{value}'. Use on/off or true/false.", none⟩
  | unknownFlag flag =>
    ⟨s!"Unknown flag '{flag}'. Supported flags: --config, --frames, --role, --players,"
      ++ " --hot-reload.", none⟩
  | unknownSwitch flag =>
    ⟨s!"Unknown flag '{flag}'. Supported flags: --check, --bless, --allow-failures.", none⟩
  | exclusiveModes => ⟨"--check and --bless are exclusive", none⟩
  | noFixture =>
    ⟨"Usage: script_harness [--check | --bless] [--allow-failures] <fixture.json>...", none⟩

def flagName? (word : String) : Option String :=
  match word.toList with
  | '-' :: '-' :: name => some (String.ofList name)
  | _ => none

structure HostOptions where
  config : Option Path
  frames : Option Nat
  role : Option HostRole
  players : Option Nat
  hotReload : Option Bool
deriving DecidableEq, Repr, Inhabited

namespace HostOptions

def empty : HostOptions := ⟨none, none, none, none, none⟩

def lower (s : String) : String := String.ofList (s.toList.map Char.toLower)

def switch (flag value : String) : Except CommandLineError Bool :=
  let v := lower value
  if ["1", "true", "on", "yes"].contains v then .ok true
  else if ["0", "false", "off", "no"].contains v then .ok false
  else .error (.invalidSwitch flag v)

/-- The options with the one that a flag gives replaced. -/
def setFlag (o : HostOptions) (name value : String) : Except CommandLineError HostOptions :=
  match name with
  | "config" => .ok { o with config := some value }
  | "frames" =>
    match numberUpTo (UInt32.size - 1) value with
    | .ok n => .ok { o with frames := some n }
    | .error e => .error (.invalidFrames value e)
  | "role" =>
    match HostRole.parse value with
    | some r => .ok { o with role := some r }
    | none => .error (.invalidRole value)
  | "players" =>
    match numberUpTo (UInt64.size - 1) value with
    | .ok n => .ok { o with players := some n }
    | .error e => .error (.invalidPlayers value e)
  | "hot-reload" =>
    match switch "hot-reload" value with
    | .ok b => .ok { o with hotReload := some b }
    | .error e => .error e
  | _ => .error (.unknownFlag ("--" ++ name))

def extend (o : HostOptions) : List String → Except CommandLineError HostOptions
  | [] => .ok o
  | [word] =>
    match flagName? word with
    | none => .error (.unexpectedArgument word)
    | some _ => .error (.missingValue word)
  | word :: value :: rest =>
    match flagName? word with
    | none => .error (.unexpectedArgument word)
    | some name =>
      match o.setFlag name value with
      | .ok o => extend o rest
      | .error e => .error e

def parse (args : List String) : Except CommandLineError HostOptions :=
  empty.extend (args.drop 1)

/-- The settings that replace those of the configuration file. -/
def overrides (o : HostOptions) : ConfigOverrides := ⟨o.role, o.players, o.hotReload⟩

end HostOptions

/-- What the harness does with the output of a fixture. -/
inductive GoldenMode where
  | print
  | check
  | bless
deriving DecidableEq, Repr, Inhabited

def GoldenMode.name : GoldenMode → String
  | print => "Print"
  | check => "Check"
  | bless => "Bless"

structure HarnessOptions where
  fixtures : List Path
  mode : GoldenMode
  /-- Whether a fixture with failures can still pass. -/
  allowFailures : Bool
deriving DecidableEq, Repr, Inhabited

namespace HarnessOptions

inductive Word where
  | mode (m : GoldenMode)
  | allowFailures
  | unknown (flag : String)
  | fixture (p : Path)
deriving DecidableEq, Repr, Inhabited

def Word.ofArgument (s : String) : Word :=
  if s = "--check" then mode .check
  else if s = "--bless" then mode .bless
  else if s = "--allow-failures" then allowFailures
  else if (flagName? s).isSome then unknown s
  else fixture s

def modes (words : List Word) : List GoldenMode :=
  words.filterMap fun
    | .mode m => some m
    | _ => none

def fixturesOf (words : List Word) : List Path :=
  words.filterMap fun
    | .fixture p => some p
    | _ => none

def unknowns (words : List Word) : List String :=
  words.filterMap fun
    | .unknown s => some s
    | _ => none

def parse (args : List String) : Except CommandLineError HarnessOptions :=
  let words := (args.drop 1).map Word.ofArgument
  match unknowns words with
  | s :: _ => .error (.unknownSwitch s)
  | [] =>
    if (modes words).length > 1 then .error .exclusiveModes
    else if (fixturesOf words).isEmpty then .error .noFixture
    else
      .ok { fixtures := fixturesOf words, mode := (modes words).head?.getD .print,
            allowFailures := words.contains .allowFailures }

end HarnessOptions

end ModHost
