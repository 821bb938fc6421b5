import ModHost.Config
import ModHost.Engine
import ModHost.Files
import ModHost.Namespace

set_option autoImplicit false

/-!
# The sandbox

Scripts are loaded as units. A unit has its own program and its own memory; the sandbox
keeps all units, the host's globals, and the registered callbacks. Loading runs a unit's
top level, and a dispatch calls the callbacks of one kind. While a unit's code runs, the
unit owns what is registered, and names that its functions do not define are looked up in
its memory and then in the host. Both are put back as they were afterwards, whether the
run succeeds or fails.
-/

namespace ModHost

open Script (Env Memory World RunResult Program Value Emission Facilities Library Ending
  EvalError)

structure ScriptUnit where
  id : Nat
  path : Path
  program : Program
  memory : Memory

/-- All loaded scripts, by number and by path. -/
structure UnitTable where
  units : List ScriptUnit
  byPath : List (Path × Nat)

namespace UnitTable

def empty : UnitTable := ⟨[], []⟩

def get (t : UnitTable) (id : Nat) : Option ScriptUnit := t.units[id]?

def find (t : UnitTable) (path : Path) : Option ScriptUnit :=
  (t.byPath.find? fun e => Path.same e.1 path).bind fun e => t.get e.2

def paths (t : UnitTable) : List Path := t.units.map (·.path)

def length (t : UnitTable) : Nat := t.units.length

def isEmpty (t : UnitTable) : Bool := t.units.isEmpty

def insert (t : UnitTable) (path : Path) (program : Program) (memory : Memory) : UnitTable :=
  let id := t.length
  ⟨t.units ++ [⟨id, path, program, memory⟩],
    t.byPath.filter (fun e => !Path.same e.1 path) ++ [(path, id)]⟩

def setMemory (t : UnitTable) (id : Nat) (memory : Memory) : UnitTable :=
  { t with units := t.units.modify id fun u => { u with memory := memory } }

end UnitTable

/-- What scripts reach outside their units, and what is said while they run. -/
structure Scene where
  world : World
  console : Console
  log : List LogEvent
  /-- The message with which the host's own code gave up, if it did. The program ends
  there; nothing after it can be observed. -/
  aborted : Option String

namespace Scene

def say (s : Scene) (events : List LogEvent) : Scene := { s with log := s.log ++ events }

def abort (s : Scene) (message : String) : Scene :=
  { s with aborted := s.aborted <|> some message }

def print (s : Scene) (kind : ConsoleKind) (text : String) : Scene :=
  let event := match kind with
    | .output => LogEvent.info ("[script] " ++ text)
    | .debug => LogEvent.debug ("[script] " ++ text)
  { s with log := s.log ++ [event], console := s.console.push ⟨kind, text⟩ }

end Scene

/-- What a session fixes for all runs of its scripts. -/
structure Rules where
  libraries : List Library
  facilities : Facilities
  bindings : BindingTable
  isServer : Bool
  limit : Nat

namespace Rules

def env (r : Rules) (program : Program) (source : Option String)
    (outer : String → Option Value) : Env :=
  { program := program, source := source, libraries := r.libraries,
    facilities := r.facilities, bindings := r.bindings, isServer := r.isServer,
    limit := r.limit, outer := outer }

end Rules

structure Sandbox where
  rules : Rules
  host : HostNamespace
  units : UnitTable
  hooks : HookRegistry
  activeScope : Option Nat

structure DispatchReport where
  invoked : Nat
  failures : List ScriptError
deriving DecidableEq, Repr, Inhabited

namespace DispatchReport

def empty : DispatchReport := ⟨0, []⟩

def succeeded (r : DispatchReport) : Nat := r.invoked - r.failures.length

def merge (r s : DispatchReport) : DispatchReport :=
  ⟨r.invoked + s.invoked, r.failures ++ s.failures⟩

end DispatchReport

namespace Sandbox

def ofRules (rules : Rules) (host : HostNamespace) : Sandbox :=
  ⟨rules, host, .empty, .empty, none⟩

def outerNames (sb : Sandbox) (name : String) : Option Value :=
  let own := match sb.activeScope with
    | some id => (sb.units.get id).bind fun u => u.memory.held name
    | none => none
  match own with
  | some v => some v
  | none => sb.host.get name

/-- Make a unit the owner of registrations and its memory the active scope. -/
def enter (sb : Sandbox) (id : Nat) : Sandbox :=
  { sb with hooks := (sb.hooks.setActive (some id)).2, activeScope := some id }

def restore (sb before : Sandbox) : Sandbox :=
  { sb with
    hooks := (sb.hooks.setActive before.hooks.active).2
    activeScope := before.activeScope }

def receive (sb : Sandbox) (s : Scene) : Emission → Sandbox × Scene
  | .output text => (sb, s.print .output text)
  | .debug text => (sb, s.print .debug text)
  | .hook kind name given =>
    match sb.hooks.register kind ⟨name, given⟩ with
    | .ok hooks => ({ sb with hooks := hooks }, s)
    | .error _ => (sb, s)

def receiveAll (sb : Sandbox) (s : Scene) : List Emission → Sandbox × Scene
  | [] => (sb, s)
  | e :: rest =>
    let (sb, s) := sb.receive s e
    receiveAll sb s rest

def settle (sb : Sandbox) (s : Scene) (id : Nat) (r : RunResult) :
    Option EvalError × Sandbox × Scene :=
  let sb := { sb with units := sb.units.setMemory id r.memory }
  let (sb, s) := sb.receiveAll { s with world := r.world } r.emissions
  match r.ending with
  | .value _ => (none, sb, s)
  | .failed e => (some e, sb, s)
  | .panicked message => (none, sb, s.abort message)
  | .exhausted => (none, sb, s.abort "out of fuel")

def failureLog (headline : String) (failure : ScriptError) : List LogEvent :=
  .error headline :: failure.stack.map fun frame => .error ("    at " ++ frame)

def compileFile (engine : Engine) (files : Files) (path : Path) :
    Except ScriptError Program :=
  match files.readText path with
  | .error e => .error (.compile path e.message)
  | .ok source =>
    match engine.compile source with
    | .error message => .error (.compile path message)
    | .ok program => .ok program

/-- Add a unit and run its top level. The unit stays when its code fails. -/
def runUnit (engine : Engine) (sb : Sandbox) (s : Scene) (path : Path) (program : Program) :
    Except ScriptError Nat × Sandbox × Scene :=
  let id := sb.units.length
  let memory := sb.host.seed
  let added := { sb with units := sb.units.insert path program memory }
  let env := sb.rules.env program (some path) sb.host.get
  let r := engine.runTopLevel env memory s.world
  let (fault, after, s) := (added.enter id).settle s id r
  let after := after.restore sb
  match fault with
  | none => (.ok id, after, s)
  | some e =>
    let failure := ScriptError.ofEval s!"'{path}'" e
    let headline := s!"Failed to execute script '{path}': {failure.text}"
    (.error failure, after, s.say (failureLog headline failure))

/-- Load a script. A path that is loaded already and a script that does not compile
change nothing. -/
def load (engine : Engine) (files : Files) (sb : Sandbox) (s : Scene) (path : Path) :
    Except ScriptError Nat × Sandbox × Scene :=
  match sb.units.find path with
  | some _ => (.error (.duplicate path), sb, s)
  | none =>
    match compileFile engine files path with
    | .error e => (.error e, sb, s)
    | .ok program => runUnit engine sb s path program

def callEntry (engine : Engine) (kind : HookKind) (args : List Value) (entry : HookEntry)
    (unit : ScriptUnit) (sb : Sandbox) (s : Scene) : Option ScriptError × Sandbox × Scene :=
  let entered := sb.enter entry.unit
  let env := sb.rules.env unit.program (some unit.path) entered.outerNames
  let r := engine.call env unit.memory s.world entry.callback args
  let (fault, after, s) := entered.settle s entry.unit r
  let after := after.restore sb
  match fault with
  | none => (none, after, s)
  | some e =>
    let failure := ScriptError.ofEval s!"{kind.name} hook of '{unit.path}'" e
    (some failure, after, s.say (failureLog failure.text failure))

def callEntries (engine : Engine) (kind : HookKind) (args : List Value) :
    List HookEntry → Sandbox → Scene → DispatchReport → DispatchReport × Sandbox × Scene
  | [], sb, s, report => (report, sb, s)
  | entry :: rest, sb, s, report =>
    match sb.units.get entry.unit with
    | none =>
      let s := s.say
        [.debug s!"Dropping {kind.name} hook for unloaded unit UnitId({entry.unit})"]
      callEntries engine kind args rest sb s report
    | some unit =>
      let (failure, sb, s) := callEntry engine kind args entry unit sb s
      callEntries engine kind args rest sb s
        ⟨report.invoked + 1, report.failures ++ failure.toList⟩

/-- Call the callbacks that are registered for a kind at this moment. What they register
counts from the next dispatch on. -/
def dispatch (engine : Engine) (kind : HookKind) (args : List Value) (sb : Sandbox)
    (s : Scene) : DispatchReport × Sandbox × Scene :=
  callEntries engine kind args (sb.hooks.snapshot kind) sb s .empty

/-- What code of the script at a path sees under a name. -/
def global (sb : Sandbox) (path : Path) (name : String) : Option Value :=
  (sb.units.find path).bind fun u => lookupName sb.host u.memory name

end Sandbox

end ModHost
