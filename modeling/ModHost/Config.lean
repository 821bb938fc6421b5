import ModHost.Console
import ModHost.Path
import ModHost.Player

set_option autoImplicit false

/-!
# Configuration

Which side of a session a host is on, what scripts may use, and which scripts each side
loads. Overrides from a command line replace single settings.
-/

namespace ModHost

/-- A server loads its own list of scripts, a client the one its server announced. -/
inductive HostRole where
  | server
  | client
deriving DecidableEq, Repr, Inhabited

namespace HostRole

def label : HostRole → String
  | server => "server"
  | client => "client"

def parse (s : String) : Option HostRole :=
  match String.ofList (s.toList.map Char.toLower) with
  | "server" | "host" => some server
  | "client" => some client
  | _ => none

end HostRole

structure ModEntry where
  path : Path
  enabled : Bool
deriving DecidableEq, Repr, Inhabited

structure ModTables where
  «local» : List ModEntry
  remote : List ModEntry
deriving DecidableEq, Repr, Inhabited

namespace ModTables

def empty : ModTables := ⟨[], []⟩

def select (t : ModTables) : HostRole → List ModEntry
  | .server => t.local
  | .client => t.remote

def rebase (t : ModTables) (base : Path) : ModTables :=
  let move (e : ModEntry) : ModEntry :=
    if Path.isAbsolute e.path then e else { e with path := Path.join base e.path }
  ⟨t.local.map move, t.remote.map move⟩

end ModTables

structure ScriptingConfig where
  role : HostRole
  libraries : List String
  maxPlayers : Nat
  /-- Operations that one run of a script may make. -/
  maxOperations : Option Nat
  hotReload : Bool
  seed : Option UInt64
  consoleCapacity : Nat
  mods : ModTables
deriving Inhabited

/-- Settings given beside the configuration file. -/
structure ConfigOverrides where
  role : Option HostRole
  maxPlayers : Option Nat
  hotReload : Option Bool
deriving DecidableEq, Repr, Inhabited

namespace ConfigOverrides

def isEmpty (o : ConfigOverrides) : Bool :=
  o.role.isNone && o.maxPlayers.isNone && o.hotReload.isNone

def appliedFields (o : ConfigOverrides) : List String :=
  (if o.role.isSome then ["role"] else [])
    ++ (if o.maxPlayers.isSome then ["max_players"] else [])
    ++ (if o.hotReload.isSome then ["hot_reload"] else [])

end ConfigOverrides

def configTarget : String := "kestrel_modding::config"

namespace ScriptingConfig

def defaultLibraries : List String := ["core", "math", "string", "array", "map"]

def default : ScriptingConfig :=
  { role := .server, libraries := defaultLibraries, maxPlayers := defaultMaxPlayers,
    maxOperations := none, hotReload := false, seed := none,
    consoleCapacity := Console.defaultCapacity, mods := .empty }

def activeMods (c : ScriptingConfig) : List ModEntry := c.mods.select c.role

/-- The configuration with the given settings replaced. A player count is cut down to
the slots there are. -/
def apply (c : ScriptingConfig) (o : ConfigOverrides) : ScriptingConfig :=
  { c with
    role := o.role.getD c.role
    maxPlayers := match o.maxPlayers with
      | some n => min n maxPlayerSlots
      | none => c.maxPlayers
    hotReload := o.hotReload.getD c.hotReload }

def applyLog (o : ConfigOverrides) : List LogEvent :=
  match o.maxPlayers with
  | some n =>
    if n > maxPlayerSlots then
      [⟨.warn, configTarget,
        s!"--players {n} exceeds the slot limit, using {maxPlayerSlots}"⟩]
    else []
  | none => []

end ScriptingConfig

end ModHost
