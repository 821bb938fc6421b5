import ModHost.Config.Load

set_option autoImplicit false

/-!
# Fixtures

A fixture is a file that says which scripts to run, for how many frames, with what
players, and which of the scripts' globals to look at afterwards. Its paths are taken
from its own directory. Beside it lies its golden file, with the output it should give.
-/

namespace ModHost

open JsonField

namespace JsonShape

def signedEnd (bits : Nat) : Int := Int.pow 2 (bits - 1)

def signed (bits : Nat) : JsonShape :=
  .integer s!"i{bits}" (-signedEnd bits) (signedEnd bits - 1)

end JsonShape

/-- Parts of a player's record as they are before the first frame. -/
structure FixturePlayer where
  slot : Nat
  health : Option Int
  coins : Option Int
  lives : Option Int
  stars : Option Int
deriving DecidableEq, Repr, Inhabited

namespace FixturePlayer

def shape : JsonShape :=
  .record "FixturePlayer"
    [required "slot" .count,
     withDefault "health" (.optional (.signed 16)) .null,
     withDefault "coins" (.optional (.signed 16)) .null,
     withDefault "lives" (.optional (.signed 8)) .null,
     withDefault "stars" (.optional (.signed 16)) .null]

def ofJson (j : Json) : FixturePlayer :=
  let given (name : String) : Option Int := (j.field name).present?.map Json.integer
  ⟨(j.field "slot").natural, given "health", given "coins", given "lives", given "stars"⟩

def apply (f : FixturePlayer) (p : PlayerState) : PlayerState :=
  { p with
    health := (f.health.map Int16.ofInt).getD p.health
    coins := (f.coins.map Int16.ofInt).getD p.coins
    lives := (f.lives.map Int8.ofInt).getD p.lives
    stars := (f.stars.map Int16.ofInt).getD p.stars }

end FixturePlayer

structure GlobalProbe where
  script : Path
  name : String
deriving DecidableEq, Repr, Inhabited

namespace GlobalProbe

def shape : JsonShape :=
  .record "GlobalProbe" [required "script" .string, required "name" .string]

def ofJson (j : Json) : GlobalProbe := ⟨(j.field "script").text, (j.field "name").text⟩

end GlobalProbe

structure Fixture where
  role : HostRole
  frames : Nat
  maxPlayers : Nat
  seed : Option UInt64
  mods : List ModEntry
  players : List FixturePlayer
  inspect : List GlobalProbe
  baseDir : Path
deriving DecidableEq, Inhabited

inductive FixtureError where
  | unopened (path : Path) (cause : FileError)
  | unreadable (cause : FileError)
  | malformed (cause : PlacedFault)
deriving Inhabited

def FixtureError.report : FixtureError → Report
  | unopened path cause => ⟨s!"opening fixture '{path}'", some cause.message⟩
  | unreadable cause => ⟨"parsing fixture JSON", some cause.message⟩
  | malformed cause => ⟨"parsing fixture JSON", some cause.text⟩

namespace Fixture

def shape : JsonShape :=
  .record "HarnessFixture"
    [withDefault "role" HostRole.shape (.str HostRole.server.label),
     withDefault "frames" .count (.int 3),
     withDefault "max_players" .count (.int 2),
     withDefault "seed" (.optional .number64) (.int 1),
     required "mods" (.list ModEntry.shape),
     withDefault "players" (.list FixturePlayer.shape) (.arr []),
     withDefault "inspect" (.list GlobalProbe.shape) (.arr [])]

def ofJson (baseDir : Path) (j : Json) : Fixture :=
  { role := HostRole.ofJson (j.field "role")
    frames := (j.field "frames").natural
    maxPlayers := (j.field "max_players").natural
    seed := (j.field "seed").present?.map fun j => UInt64.ofNat j.natural
    mods := (j.field "mods").elements.map ModEntry.ofJson
    players := (j.field "players").elements.map FixturePlayer.ofJson
    inspect := (j.field "inspect").elements.map GlobalProbe.ofJson
    baseDir := baseDir }

def load (files : Files) (path : Path) : Except FixtureError Fixture :=
  match files.lookup path with
  | .error e => .error (.unopened path e)
  | .ok (.dir _) => .error (.unreadable .isDirectory)
  | .ok (.file bytes _) =>
    match shape.readText true bytes.toList with
    | .error e => .error (.malformed e)
    | .ok j => .ok (ofJson ((Path.parent? path).getD "") j)

def resolve (f : Fixture) (p : Path) : Path := Path.join f.baseDir p

/-- Golden file of a fixture: `name.json` goes with `name.golden.json`. -/
def goldenPath (path : Path) : Path :=
  Path.withFileName path ((Path.stem? path).getD "" ++ ".golden.json")

/-- The configuration under which a fixture runs. -/
def config (f : Fixture) : ScriptingConfig :=
  let table := f.mods.map fun e => { e with path := f.resolve e.path }
  { ScriptingConfig.default with
    role := f.role
    maxPlayers := f.maxPlayers
    seed := f.seed
    mods := match f.role with
      | .server => ⟨table, []⟩
      | .client => ⟨[], table⟩ }

end Fixture

end ModHost
