import ModHost.Fixture.Output
import ModHost.Host

set_option autoImplicit false

/-!
# Running fixtures

A run sets up a host of its own, steps the frames, and sums up what the scripts did.
Paths in the output are as the fixture has them.
-/

namespace ModHost

inductive RunError where
  | slotOutOfRange (slot : Nat)
  | setupFailed (cause : ScriptError)
  | gaveUp (message : String)
deriving DecidableEq, Repr, Inhabited

def RunError.report : RunError → Report
  | slotOutOfRange slot => ⟨s!"fixture player slot {slot} is out of range", none⟩
  | setupFailed cause => ⟨s!"scripting setup failed: {cause.text}", none⟩
  | gaveUp message => ⟨message, none⟩

namespace Fixture

def scripts (f : Fixture) : List (String × Path) := f.mods.map fun e => (e.path, f.resolve e.path)

def labelOf (scripts : List (String × Path)) (path : Path) : String :=
  ((scripts.find? fun s => Path.same s.2 path).map (·.1)).getD ""

def occursIn (text : List Char) : List Char → Bool
  | [] => text.isEmpty
  | c :: rest => text.isPrefixOf (c :: rest) || occursIn text rest

/-- Whether a failure is laid to the script at a path: the path that failed is this one,
or the place of the failure mentions it. -/
def isBlamed (e : ScriptError) (path : Path) : Bool :=
  match e with
  | .compile failed _ | .duplicate failed => Path.same failed path
  | .runtime origin _ _ => occursIn path.toList origin.toList
  | .setup _ => false

def summarize (scripts : List (String × Path)) (e : ScriptError) : FailureSummary :=
  ⟨e.label, (scripts.find? fun s => isBlamed e s.2).map (·.1)⟩

def preparePlayers (players : PlayerTable) : List FixturePlayer → Except RunError PlayerTable
  | [] => .ok players
  | f :: rest =>
    match players[f.slot]? with
    | some p => preparePlayers (players.setIfInBounds f.slot (f.apply p)) rest
    | none => .error (.slotOutOfRange f.slot)

def stepFrames (engine : Engine) (scripts : List (String × Path)) :
    Nat → Nat → ScriptHost → List FrameResult × ScriptHost
  | 0, _, h => ([], h)
  | count + 1, frame, h =>
    let (report, h) := h.runFrame engine
    let (logs, h) := h.takeLogs
    let (rest, h) := stepFrames engine scripts count (frame + 1) h
    (⟨frame, report.invoked, logs, report.failures.map (summarize scripts)⟩ :: rest, h)

def probe (f : Fixture) (h : ScriptHost) (g : GlobalProbe) : GlobalSummary :=
  ⟨g.script, g.name, (h.scriptGlobal (f.resolve g.script) g.name).bind Script.Value.json?⟩

/-- For how many frames a list of results can be made: a result takes 64 bytes, and a list no more
bytes than the greatest signed number of 64 bits. -/
def frameRoom : Nat := (UInt64.size / 2 - 1) / 64

/-- Run a fixture. Answers the output, and the host as the run leaves it. -/
def run (engine : Engine) (files : Files) (f : Fixture) :
    Except RunError HarnessOutput × ScriptHost :=
  let h := ScriptHost.ofConfig f.config
  match preparePlayers h.players f.players with
  | .error e => (.error e, h)
  | .ok players =>
    let (report, h) := { h with players := players }.start engine files
    match report.setupError with
    | some e => (.error (.setupFailed e), h)
    | none =>
      let scripts := f.scripts
      let (initLogs, h) := h.takeLogs
      let (_, h) := h.takeFailures
      if frameRoom < f.frames then
        let message := "capacity overflow"
        (.error (.gaveUp message), { h with aborted := h.aborted <|> some message })
      else
        let (results, h) := stepFrames engine scripts f.frames 0 h
        let output : HarnessOutput :=
          { role := f.role
            frames := f.frames
            loaded := report.loaded.map (labelOf scripts)
            skipped := report.skipped.map (labelOf scripts)
            initLogs := initLogs
            initFailures := report.failures.map (summarize scripts)
            results := results
            finalPlayers := h.players.toList.zipIdx.map fun (p, slot) => .ofState slot p
            globals := f.inspect.map (f.probe h) }
        (.ok output, h.shutdown)

end Fixture

end ModHost
