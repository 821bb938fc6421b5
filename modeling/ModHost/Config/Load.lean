import ModHost.Config
import ModHost.Files
import ModHost.Json.Shape
import ModHost.Report

set_option autoImplicit false

/-!
# Configuration files

A configuration is a JSON document in which every setting has a default. The paths in
its lists of scripts are taken from the directory of the file. A file that cannot be
used can be replaced by the default configuration.
-/

namespace ModHost

namespace JsonShape

def count : JsonShape := .integer "usize" 0 (UInt64.size - 1)

def number64 : JsonShape := .integer "u64" 0 (UInt64.size - 1)

def string : JsonShape := .text "a string"

def path : JsonShape := .text "path string"

end JsonShape

open JsonShape JsonField

namespace HostRole

def all : List HostRole := [server, client]

def shape : JsonShape := .choice (all.map label)

def toJson (r : HostRole) : Json := .str r.label

def ofJson (j : Json) : HostRole := (all.find? (·.label = j.text)).getD server

end HostRole

namespace ModEntry

def shape : JsonShape :=
  .record "ModEntry" [required "path" .path, withDefault "enabled" .boolean (.bool true)]

def ofJson (j : Json) : ModEntry := ⟨(j.field "path").text, (j.field "enabled").flag⟩

end ModEntry

namespace ModTables

def shape : JsonShape :=
  .record "ModTables"
    [withDefault "local" (.list ModEntry.shape) (.arr []),
     withDefault "remote" (.list ModEntry.shape) (.arr [])]

def ofJson (j : Json) : ModTables :=
  ⟨(j.field "local").elements.map ModEntry.ofJson, (j.field "remote").elements.map ModEntry.ofJson⟩

end ModTables

inductive ConfigError where
  | unreadable (path : Path) (cause : FileError)
  | malformed (path : Path) (cause : PlacedFault)
  | tooManyPlayers (path : Path) (count : Nat)
deriving Inhabited

def ConfigError.report : ConfigError → Report
  | unreadable path cause => ⟨s!"Failed to read config file {path}", some cause.message⟩
  | malformed path cause => ⟨s!"Failed to parse config file {path}", some cause.text⟩
  | tooManyPlayers path n =>
    ⟨s!"Config file {path} asks for {n} players, the limit is {maxPlayerSlots}", none⟩

namespace ScriptingConfig

def shape : JsonShape :=
  .record "ScriptingConfig"
    [withDefault "role" HostRole.shape (.str default.role.label),
     withDefault "libraries" (.list .string) (.arr (defaultLibraries.map .str)),
     withDefault "max_players" .count (.int default.maxPlayers),
     withDefault "max_operations" (.optional .number64) .null,
     withDefault "hot_reload" .boolean (.bool default.hotReload),
     withDefault "seed" (.optional .number64) .null,
     withDefault "console_capacity" .count (.int default.consoleCapacity),
     withDefault "mods" ModTables.shape (.obj [("local", .arr []), ("remote", .arr [])])]

def ofJson (j : Json) : ScriptingConfig :=
  { role := HostRole.ofJson (j.field "role")
    libraries := (j.field "libraries").elements.map Json.text
    maxPlayers := (j.field "max_players").natural
    maxOperations := (j.field "max_operations").present?.map Json.natural
    hotReload := (j.field "hot_reload").flag
    seed := (j.field "seed").present?.map fun j => UInt64.ofNat j.natural
    consoleCapacity := (j.field "console_capacity").natural
    mods := ModTables.ofJson (j.field "mods") }

def load (files : Files) (path : Path) : Except ConfigError ScriptingConfig :=
  match files.readBytes path with
  | .error e => .error (.unreadable path e)
  | .ok bytes =>
    match shape.readText false bytes.toList with
    | .error e => .error (.malformed path e)
    | .ok j =>
      let c := ofJson j
      if c.maxPlayers > maxPlayerSlots then .error (.tooManyPlayers path c.maxPlayers)
      else
        match Path.parent? path with
        | some base => .ok { c with mods := c.mods.rebase base }
        | none => .ok c

/-- The configuration in a file, or the default one with what is said about it. -/
def loadOrDefault (files : Files) (path : Path) : ScriptingConfig × List LogEvent :=
  match load files path with
  | .ok c => (c, [])
  | .error e =>
    let message := s!"Config load error: {e.report.detailed}. Falling back to defaults."
    (default, [⟨.warn, configTarget, message⟩])

end ScriptingConfig

end ModHost
