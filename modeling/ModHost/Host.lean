import ModHost.Constants

set_option autoImplicit false

/-!
# The script host

A host owns at most one live session. Initializing it ends the session before, builds a
new interpreter, and loads every enabled script of its list; a script that fails is
recorded, and the others are still loaded. While a session is live, frames run its
callbacks. Failures wait in a queue until they are taken. The scripts that were attempted
are watched, and the host is initialized again when one of them has changed.
-/

namespace ModHost

open Script (Value Facilities Library World)

structure InitReport where
  attempted : List Path
  loaded : List Path
  skipped : List Path
  failures : List ScriptError
  setupError : Option ScriptError
deriving DecidableEq, Repr, Inhabited

namespace InitReport

def empty : InitReport := ⟨[], [], [], [], none⟩

def isActive (r : InitReport) : Bool := r.setupError.isNone

end InitReport

/-- A live interpreter. Proxies handed out by it carry its number. -/
structure Session where
  id : Nat
  sandbox : Sandbox
  generator : Generator

structure ScriptHost where
  config : ScriptingConfig
  players : PlayerTable
  bindings : BindingTable
  console : Console
  session : Option Session
  failures : List ScriptError
  /-- Attempted scripts, with what was seen of each just before it was loaded. -/
  watched : List (Path × Option Files.Stamp)
  sessions : Nat
  log : List LogEvent
  aborted : Option String

namespace ScriptHost

def ofConfig (config : ScriptingConfig) : ScriptHost :=
  let (players, log) := PlayerTable.ofCount config.maxPlayers
  { config := config, players := players, bindings := .stock,
    console := Console.ofCapacity config.consoleCapacity, session := none, failures := [],
    watched := [], sessions := 0, log := log, aborted := none }

def withBindings (h : ScriptHost) (t : BindingTable) : ScriptHost := { h with bindings := t }

def isActive (h : ScriptHost) : Bool := h.session.isSome

def say (h : ScriptHost) (events : List LogEvent) : ScriptHost :=
  { h with log := h.log ++ events }

def scene (h : ScriptHost) (generator : Generator) : Scene :=
  ⟨⟨h.players, generator⟩, h.console, h.log, h.aborted⟩

def takeBack (h : ScriptHost) (s : Scene) : ScriptHost :=
  { h with players := s.world.players, console := s.console, log := s.log,
           aborted := s.aborted }

def withheldLibraries : List String :=
  ["io", "fs", "os", "process", "module", "package", "debug", "time"]

def chooseLibraries : List String → Except ScriptError (List Library)
  | [] => .ok []
  | name :: rest =>
    match Library.ofName? name with
    | some l => (chooseLibraries rest).map (l :: ·)
    | none =>
      if withheldLibraries.contains name then
        .error (.setup s!"library '{name}' is not available to mod scripts")
      else
        let available := ", ".intercalate (Library.all.map Library.name)
        .error (.setup s!"unknown library '{name}' (available: {available})")

def playerStatesGlobal : String := "gPlayerStates"

def playerStates (players : PlayerTable) : Value :=
  .array ((List.range players.size).map .player)

def generatorFor (seed : Option UInt64) : Generator := Generator.ofSeed (seed.getD 0)

def sessionRules (h : ScriptHost) : Except ScriptError (Rules × List LogEvent) := do
  let libraries ← chooseLibraries h.config.libraries
  let (bindings, log) ← h.bindings.install
  pure ({ libraries := libraries, facilities := .full, bindings := bindings,
          isServer := h.config.role = .server, limit := h.config.maxOperations.getD 0 }, log)

def buildSession (engine : Engine) (h : ScriptHost) :
    Except ScriptError Session × List LogEvent :=
  match sessionRules h with
  | .error e => (.error e, [])
  | .ok (rules, log) =>
    let generator := generatorFor h.config.seed
    match seedConstants engine rules .empty (h.scene generator) h.players.size with
    | .error e => (.error e, log)
    | .ok constants =>
      let host := constants.define playerStatesGlobal (playerStates h.players)
      let seeded := LogEvent.debug s!"Host namespace seeded with {host.length} global(s)"
      (.ok ⟨h.sessions, .ofRules rules host, generator⟩, log ++ [seeded])

def shutdown (h : ScriptHost) : ScriptHost :=
  match h.session with
  | none => { h with watched := [] }
  | some session =>
    let count := session.sandbox.units.length
    { h with watched := [], session := none }.say
      [.info s!"Scripting session shut down ({count} script(s))"]

def loadFailureLog : ScriptError → List LogEvent
  | .duplicate p => [.warn (ScriptError.duplicate p).text]
  | .runtime _ _ _ => []
  | e => [.error e.text]

def loadEntries (engine : Engine) (files : Files) :
    List ModEntry → InitReport → ScriptHost → Sandbox → Scene →
      InitReport × ScriptHost × Sandbox × Scene
  | [], report, h, sb, s => (report, h, sb, s)
  | entry :: rest, report, h, sb, s =>
    if !entry.enabled then
      let s := s.say [.debug s!"    skipping disabled script {entry.path}"]
      loadEntries engine files rest { report with skipped := report.skipped ++ [entry.path] }
        h sb s
    else
      let s := s.say [.info s!"    {entry.path}"]
      let h := { h with watched := h.watched ++ [(entry.path, files.stamp? entry.path)] }
      let report := { report with attempted := report.attempted ++ [entry.path] }
      match sb.load engine files s entry.path with
      | (.ok _, sb, s) =>
        loadEntries engine files rest { report with loaded := report.loaded ++ [entry.path] }
          h sb s
      | (.error e, sb, s) =>
        loadEntries engine files rest { report with failures := report.failures ++ [e] }
          { h with failures := h.failures ++ [e] } sb (s.say (loadFailureLog e))

def readied (h : ScriptHost) : ScriptHost :=
  let h := h.shutdown
  let (players, sizeLog) := h.players.resize h.config.maxPlayers
  { h with players := players }.say sizeLog

def openSession (engine : Engine) (files : Files) (session : Session) (h : ScriptHost) :
    InitReport × ScriptHost :=
  let h := { h with sessions := h.sessions + 1 }.say
    [.info s!"Loading scripts ({h.config.role.label} role):"]
  let (report, h, sb, s) := loadEntries engine files h.config.activeMods .empty h
    session.sandbox (h.scene session.generator)
  let loaded := report.loaded.length
  let attempted := report.attempted.length
  let s := s.say [.info (s!"Loaded {loaded}/{attempted} script(s),"
    ++ s!" {sb.hooks.total} hook(s) registered")]
  (report, { h.takeBack s with
    session := some { session with sandbox := sb, generator := s.world.generator } })

/-- End the live session, build a new one, and load every enabled script of this side's
list. When no session can be built the host is left inactive. -/
def start (engine : Engine) (files : Files) (h : ScriptHost) :
    InitReport × ScriptHost :=
  let h := h.readied
  match buildSession engine h with
  | (.error e, setupLog) =>
    let h := h.say (setupLog ++ [.error s!"Failed to initialize scripting: {e.text}"])
    ({ InitReport.empty with setupError := some e }, { h with failures := h.failures ++ [e] })
  | (.ok session, setupLog) => openSession engine files session (h.say setupLog)

def runHooks (engine : Engine) (kind : HookKind) (args : List Value) (h : ScriptHost) :
    DispatchReport × ScriptHost :=
  match h.session with
  | none => (.empty, h)
  | some session =>
    let (report, sb, s) :=
      session.sandbox.dispatch engine kind args (h.scene session.generator)
    (report, { h.takeBack s with
      session := some { session with sandbox := sb, generator := s.world.generator }
      failures := h.failures ++ report.failures })

/-- Run the callbacks of a player hook for one slot. A kind that takes no player runs
without one. -/
def dispatchPlayer (engine : Engine) (kind : HookKind) (slot : Nat) (h : ScriptHost) :
    DispatchReport × ScriptHost :=
  if !kind.takesPlayer then h.runHooks engine kind []
  else match h.session with
    | none => (.empty, h)
    | some _ =>
      if slot < h.players.size then h.runHooks engine kind [.player slot]
      else
        (.empty, h.say [.warn (s!"Ignoring {kind.name} dispatch for player slot {slot}"
          ++ s!" (table has {h.players.size})")])

def dispatchSlots (engine : Engine) (kind : HookKind) :
    List Nat → ScriptHost → DispatchReport → DispatchReport × ScriptHost
  | [], h, report => (report, h)
  | slot :: rest, h, report =>
    let (r, h) := h.dispatchPlayer engine kind slot
    dispatchSlots engine kind rest h (report.merge r)

/-- Run the callbacks of a kind: once, or once for each player slot. -/
def dispatch (engine : Engine) (kind : HookKind) (h : ScriptHost) :
    DispatchReport × ScriptHost :=
  if kind.takesPlayer then dispatchSlots engine kind (List.range h.players.size) h .empty
  else h.runHooks engine kind []

def tick (engine : Engine) (h : ScriptHost) : DispatchReport × ScriptHost :=
  h.dispatch engine .update

/-- One frame: the callbacks before the players' steps, those after, and the update. -/
def runFrame (engine : Engine) (h : ScriptHost) : DispatchReport × ScriptHost :=
  let (before, h) := h.dispatch engine .beforePlayerUpdate
  let (after, h) := h.dispatch engine .playerUpdate
  let (update, h) := h.tick engine
  ((before.merge after).merge update, h)

/-- Initialize again when an attempted script is no longer as it was seen. -/
def reloadIfChanged (engine : Engine) (files : Files) (h : ScriptHost) : Bool × ScriptHost :=
  match h.watched.find? fun (path, seen) => files.stamp? path ≠ seen with
  | some (path, _) =>
    let h := h.say [.info s!"Detected change in {path}, reloading scripts"]
    (true, (h.start engine files).2)
  | none => (false, h)

def hookCount (h : ScriptHost) (kind : HookKind) : Nat :=
  match h.session with
  | some s => s.sandbox.hooks.count kind
  | none => 0

def loadedScripts (h : ScriptHost) : List Path :=
  match h.session with
  | some s => s.sandbox.units.paths
  | none => []

/-- What code of the script at a path sees under a name. -/
def scriptGlobal (h : ScriptHost) (path : Path) (name : String) : Option Value :=
  h.session.bind fun s => s.sandbox.global path name

def hostGlobal (h : ScriptHost) (name : String) : Option Value :=
  h.session.bind fun s => s.sandbox.host.get name

def takeLogs (h : ScriptHost) : List String × ScriptHost :=
  let (lines, console) := h.console.takeLines
  (lines, { h with console := console })

def takeFailures (h : ScriptHost) : List ScriptError × ScriptHost :=
  (h.failures, { h with failures := [] })

def proxyOf (h : ScriptHost) (v : Value) : Option ObjectProxy :=
  match h.session, v with
  | some s, .player slot => some ⟨.playerState, 0, slot, s.id⟩
  | _, _ => none

/-- What proxies meet when they are used now. The host has one table of players, the first. -/
def surroundings (h : ScriptHost) : Surroundings :=
  ⟨fun id => h.session.any (·.id = id),
    fun table => if table = 0 then .held h.players else .released⟩

end ScriptHost

end ModHost
