import ModHost.Fixture
import ModHost.Script.Value

set_option autoImplicit false

/-!
# Output of fixtures

What a fixture's run gives, and its document. The document can be read back, to compare
a run with an earlier one.
-/

namespace ModHost

open JsonField

namespace Script.Value

mutual

/-- The document of a script value. A float that is no number is null; functions,
ranges, raw bytes and players have none. -/
def json? : Value → Option Json
  | unit => some .null
  | bool b => some (.bool b)
  | int n => some (.int n.toInt)
  | float x => some (if x.isFinite then .float x else .null)
  | char c => some (.str (String.ofList [c]))
  | str s => some (.str s)
  | array items => (jsonItems items).map .arr
  | map entries => (jsonEntries entries).map Json.ofEntries
  | _ => none

def jsonItems : List Value → Option (List Json)
  | [] => some []
  | v :: rest => do pure ((← json? v) :: (← jsonItems rest))

def jsonEntries : List (String × Value) → Option (List (String × Json))
  | [] => some []
  | (k, v) :: rest => do pure ((k, ← json? v) :: (← jsonEntries rest))

end

end Script.Value

/-- A failure, with the script it is laid to. -/
structure FailureSummary where
  kind : String
  script : Option String
deriving DecidableEq, Repr, Inhabited

namespace FailureSummary

def shape : JsonShape :=
  .record "FailureSummary" [required "kind" .string, required "script" (.optional .string)]

def toJson (f : FailureSummary) : Json :=
  .obj (("kind", .str f.kind) :: (match f.script with
    | some s => [("script", .str s)]
    | none => []))

def ofJson (j : Json) : FailureSummary :=
  ⟨(j.field "kind").text, (j.field "script").present?.map Json.text⟩

end FailureSummary

def Json.count (n : Nat) : Json := .int n

def Json.texts (lines : List String) : Json := .arr (lines.map .str)

structure FrameResult where
  frame : Nat
  hooksInvoked : Nat
  logs : List String
  failures : List FailureSummary
deriving DecidableEq, Repr, Inhabited

namespace FrameResult

def shape : JsonShape :=
  .record "FrameResult"
    [required "frame" .count, required "hooks_invoked" .count,
     required "logs" (.list .string), required "failures" (.list FailureSummary.shape)]

def toJson (r : FrameResult) : Json :=
  .obj [("frame", .count r.frame), ("hooks_invoked", .count r.hooksInvoked),
    ("logs", .texts r.logs), ("failures", .arr (r.failures.map FailureSummary.toJson))]

def ofJson (j : Json) : FrameResult :=
  ⟨(j.field "frame").natural, (j.field "hooks_invoked").natural,
    (j.field "logs").elements.map Json.text,
    (j.field "failures").elements.map FailureSummary.ofJson⟩

end FrameResult

structure PlayerSummary where
  slot : Nat
  health : Int
  coins : Int
  lives : Int
  stars : Int
  action : Nat
deriving DecidableEq, Repr, Inhabited

namespace PlayerSummary

def ofState (slot : Nat) (p : PlayerState) : PlayerSummary :=
  ⟨slot, p.health.toInt, p.coins.toInt, p.lives.toInt, p.stars.toInt, p.action.toNat⟩

def shape : JsonShape :=
  .record "PlayerSummary"
    [required "slot" .count, required "health" (.signed 16), required "coins" (.signed 16),
     required "lives" (.signed 8), required "stars" (.signed 16),
     required "action" (.integer "u32" 0 (UInt32.size - 1))]

def toJson (p : PlayerSummary) : Json :=
  .obj [("slot", .count p.slot), ("health", .int p.health), ("coins", .int p.coins),
    ("lives", .int p.lives), ("stars", .int p.stars), ("action", .count p.action)]

def ofJson (j : Json) : PlayerSummary :=
  ⟨(j.field "slot").natural, (j.field "health").integer, (j.field "coins").integer,
    (j.field "lives").integer, (j.field "stars").integer, (j.field "action").natural⟩

end PlayerSummary

structure GlobalSummary where
  script : String
  name : String
  value : Option Json
deriving Inhabited

namespace GlobalSummary

def shape : JsonShape :=
  .record "GlobalSummary"
    [required "script" .string, required "name" .string, required "value" (.optional .any)]

def toJson (g : GlobalSummary) : Json :=
  .obj [("script", .str g.script), ("name", .str g.name), ("value", g.value.getD .null)]

def ofJson (j : Json) : GlobalSummary :=
  ⟨(j.field "script").text, (j.field "name").text, (j.field "value").present?⟩

def same (a b : GlobalSummary) : Bool :=
  a.script = b.script && a.name = b.name && match a.value, b.value with
    | some x, some y => x.same y
    | none, none => true
    | _, _ => false

end GlobalSummary

/-- Failures of a run, while scripts were loaded and while frames ran. -/
structure FailureCounts where
  load : Nat
  hook : Nat
deriving DecidableEq, Repr, Inhabited

def FailureCounts.total (c : FailureCounts) : Nat := c.load + c.hook

structure HarnessOutput where
  role : HostRole
  frames : Nat
  loaded : List String
  skipped : List String
  initLogs : List String
  initFailures : List FailureSummary
  results : List FrameResult
  finalPlayers : List PlayerSummary
  globals : List GlobalSummary
deriving Inhabited

namespace HarnessOutput

def failureCounts (o : HarnessOutput) : FailureCounts :=
  ⟨o.initFailures.length, o.results.foldl (fun n r => n + r.failures.length) 0⟩

def hooksInvoked (o : HarnessOutput) : Nat :=
  o.results.foldl (fun n r => n + r.hooksInvoked) 0

def shape : JsonShape :=
  .record "HarnessOutput"
    [required "role" HostRole.shape, required "frames" .count,
     required "loaded" (.list .string), required "skipped" (.list .string),
     required "init_logs" (.list .string),
     required "init_failures" (.list FailureSummary.shape),
     required "results" (.list FrameResult.shape),
     required "final_players" (.list PlayerSummary.shape),
     required "globals" (.list GlobalSummary.shape)]

def toJson (o : HarnessOutput) : Json :=
  .obj [("role", o.role.toJson), ("frames", .count o.frames), ("loaded", .texts o.loaded),
    ("skipped", .texts o.skipped), ("init_logs", .texts o.initLogs),
    ("init_failures", .arr (o.initFailures.map FailureSummary.toJson)),
    ("results", .arr (o.results.map FrameResult.toJson)),
    ("final_players", .arr (o.finalPlayers.map PlayerSummary.toJson)),
    ("globals", .arr (o.globals.map GlobalSummary.toJson))]

def ofJson (j : Json) : HarnessOutput :=
  { role := HostRole.ofJson (j.field "role")
    frames := (j.field "frames").natural
    loaded := (j.field "loaded").elements.map Json.text
    skipped := (j.field "skipped").elements.map Json.text
    initLogs := (j.field "init_logs").elements.map Json.text
    initFailures := (j.field "init_failures").elements.map FailureSummary.ofJson
    results := (j.field "results").elements.map FrameResult.ofJson
    finalPlayers := (j.field "final_players").elements.map PlayerSummary.ofJson
    globals := (j.field "globals").elements.map GlobalSummary.ofJson }

/-- The text that is printed and kept in golden files. -/
def text (o : HarnessOutput) : String := o.toJson.pretty

def parse (bytes : List UInt8) : Except PlacedFault HarnessOutput :=
  (shape.readText true bytes).map ofJson

def same (a b : HarnessOutput) : Bool :=
  a.role = b.role && a.frames = b.frames && a.loaded = b.loaded && a.skipped = b.skipped
    && a.initLogs = b.initLogs && a.initFailures = b.initFailures && a.results = b.results
    && a.finalPlayers = b.finalPlayers && a.globals.length = b.globals.length
    && (List.zipWith GlobalSummary.same a.globals b.globals).all id

end HarnessOutput

end ModHost
