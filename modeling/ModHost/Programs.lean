import ModHost.CommandLine
import ModHost.Fixture.Run
import ModHost.LogFilter

set_option autoImplicit false

/-!
# Programs

The two programs: a host that runs the scripts of its configuration for a number of
frames, and a harness that runs fixtures and compares them with their golden files. A
program is a function of its arguments and the files it finds; its outcome is what it
prints and logs, the files it leaves, and its exit code.
-/

namespace ModHost

structure Outcome where
  exitCode : Nat
  output : String
  log : List LogEvent
  files : Files

def startedLog (program : String) : LogEvent :=
  ⟨.debug, "kestrel_modding::logging", s!"Logging initialized for {program}"⟩

/-- Exit code of a program whose own code gave up. What it has said of the run in which that
happened is not part of its outcome. -/
def gaveUpCode : Nat := 101

namespace HostProgram

def name : String := "kestrel_modding"

def defaultConfig : Path := "config/scripting.json"

def defaultFrames : Nat := 60

def say (level : LogLevel) (message : String) : LogEvent := ⟨level, name, message⟩

def configuration (files : Files) (o : HostOptions) : ScriptingConfig × List LogEvent :=
  let path := o.config.getD defaultConfig
  let (config, log) :=
    if files.exists_ path then ScriptingConfig.loadOrDefault files path
    else (.default, [say .warn s!"Config file {path} not found, using defaults"])
  let overrides := o.overrides
  if overrides.isEmpty then (config, log)
  else
    let fields := ", ".intercalate overrides.appliedFields
    (config.apply overrides,
      log ++ say .info s!"Applying CLI overrides: {fields}" :: ScriptingConfig.applyLog overrides)

def runFrames (engine : Engine) (files : Files) (hotReload : Bool) :
    Nat → Nat → ScriptHost → Nat × ScriptHost
  | 0, failures, h => (failures, h)
  | count + 1, failures, h =>
    let h := if hotReload then (h.reloadIfChanged engine files).2 else h
    let (report, h) := h.runFrame engine
    runFrames engine files hotReload count (failures + report.failures.length) h

def run (engine : Engine) (files : Files) (args : List String) : Outcome :=
  let started := [startedLog name]
  match HostOptions.parse args with
  | .error e => ⟨2, "", started ++ [say .error s!"[cli] {e.report.message}"], files⟩
  | .ok options =>
    let frames := options.frames.getD defaultFrames
    let (config, configLog) := configuration files options
    let (report, h) := (ScriptHost.ofConfig config).start engine files
    let before := started ++ configLog
    let gaveUp : Outcome := ⟨gaveUpCode, "", before, files⟩
    if h.aborted.isSome then gaveUp
    else
      match report.setupError with
      | some e =>
        ⟨1, "", before ++ h.log ++ [say .error s!"Scripting unavailable: {e.text}"], files⟩
      | none =>
        let (hookFailures, h) := runFrames engine files config.hotReload frames 0 h
        if h.aborted.isSome then gaveUp
        else
          let loaded := report.loaded.length
          let loadFailures := report.failures.length
          let summary := say .info (s!"Ran {frames} frame(s): {loaded} script(s) loaded,"
            ++ s!" {loadFailures} load failure(s), {hookFailures} hook failure(s)")
          ⟨0, "", before ++ ((h.say [summary]).shutdown).log, files⟩

end HostProgram

inductive HarnessError where
  | fixture (cause : FixtureError)
  | run (cause : RunError)
  | gaveUp (message : String)
  | goldenUnwritten (path : Path) (cause : FileError)
  | goldenUnopened (path : Path) (cause : FileError)
  | goldenUnreadable (path : Path) (cause : FileError)
  | goldenMalformed (path : Path) (cause : PlacedFault)
deriving Inhabited

def HarnessError.report : HarnessError → Report
  | fixture cause => cause.report
  | run cause => cause.report
  | gaveUp message => ⟨message, none⟩
  | goldenUnwritten path cause => ⟨s!"writing golden file '{path}'", some cause.message⟩
  | goldenUnopened path cause => ⟨s!"opening golden file '{path}'", some cause.message⟩
  | goldenUnreadable path cause => ⟨s!"parsing golden file '{path}'", some cause.message⟩
  | goldenMalformed path cause => ⟨s!"parsing golden file '{path}'", some cause.text⟩

namespace HarnessProgram

def name : String := "script_harness"

def say (level : LogLevel) (message : String) : LogEvent := ⟨level, name, message⟩

/-- Time of the files that are written here. No script of a run is written by it, so no
run asks for the time. -/
def writeTime : Int := 0

def readGolden (files : Files) (golden : Path) : Except HarnessError HarnessOutput :=
  match files.lookup golden with
  | .error e => .error (.goldenUnopened golden e)
  | .ok (.dir _) => .error (.goldenUnreadable golden .isDirectory)
  | .ok (.file bytes _) =>
    match HarnessOutput.parse bytes.toList with
    | .error e => .error (.goldenMalformed golden e)
    | .ok o => .ok o

/-- Do with a fixture's output what the mode asks. Answers whether the output is as it
should be, and the outcome so far extended. -/
def deliver (mode : GoldenMode) (path : Path) (output : HarnessOutput) (o : Outcome) :
    Except HarnessError Bool × Outcome :=
  let golden := Fixture.goldenPath path
  match mode with
  | .print => (.ok true, { o with output := o.output ++ output.text ++ "\n" })
  | .bless =>
    match o.files.write golden (output.text ++ "\n").toUTF8 writeTime with
    | .error e => (.error (.goldenUnwritten golden e), o)
    | .ok files =>
      (.ok true,
        { o with files := files, log := o.log ++ [say .info s!"{path}: wrote {golden}"] })
  | .check =>
    match readGolden o.files golden with
    | .error e => (.error e, o)
    | .ok expected =>
      if expected.same output then (.ok true, o)
      else
        (.ok false, { o with log := o.log ++
          [say .error s!"{path}: output differs from {golden} (rerun with --bless to accept)"] })

def countsLog (path : Path) (output : HarnessOutput) : LogEvent :=
  let loaded := output.loaded.length
  let skipped := output.skipped.length
  let counts := output.failureCounts
  say .info (s!"{path}: {loaded} loaded, {skipped} skipped, {output.hooksInvoked} hook call(s),"
    ++ s!" {counts.load} load failure(s), {counts.hook} hook failure(s)")

def runOne (engine : Engine) (options : HarnessOptions) (path : Path) (o : Outcome) :
    Except HarnessError Bool × Outcome :=
  match Fixture.load o.files path with
  | .error e => (.error (.fixture e), o)
  | .ok fixture =>
    let (result, h) := fixture.run engine o.files
    match h.aborted, result with
    | some message, _ => (.error (.gaveUp message), o)
    | none, .error e => (.error (.run e), { o with log := o.log ++ h.log })
    | none, .ok output =>
      let o := { o with log := o.log ++ h.log ++ [countsLog path output] }
      match deliver options.mode path output o with
      | (.error e, o) => (.error e, o)
      | (.ok delivered, o) =>
        let total := output.failureCounts.total
        if total > 0 && !options.allowFailures then
          (.ok false, { o with log := o.log ++ [say .warn (s!"{path}: {total} script failure(s)"
            ++ " recorded; pass --allow-failures to accept them")] })
        else (.ok delivered, o)

/-- Run fixtures in order; answers how many did not pass among those before as well, or nothing if
the program gave up during one of them. -/
def runAll (engine : Engine) (options : HarnessOptions) :
    List Path → Nat → Outcome → Option Nat × Outcome
  | [], failed, o => (some failed, o)
  | path :: rest, failed, o =>
    match runOne engine options path o with
    | (.ok true, o) => runAll engine options rest failed o
    | (.ok false, o) => runAll engine options rest (failed + 1) o
    | (.error (.gaveUp _), o) => (none, o)
    | (.error e, o) =>
      let o := { o with log := o.log ++ [say .error s!"{path}: {e.report.detailed}"] }
      runAll engine options rest (failed + 1) o

def run (engine : Engine) (files : Files) (args : List String) : Outcome :=
  let started := [startedLog name]
  match HarnessOptions.parse args with
  | .error e => ⟨2, "", started ++ [say .error s!"[cli] {e.report.message}"], files⟩
  | .ok options =>
    match runAll engine options options.fixtures 0 ⟨0, "", started, files⟩ with
    | (none, o) => { o with exitCode := gaveUpCode }
    | (some failed, o) =>
      let total := options.fixtures.length
      let passed := total - failed
      { o with
        exitCode := if failed > 0 then 1 else 0
        log := o.log ++ [say .info s!"{passed}/{total} fixture(s) passed"] }

end HarnessProgram

end ModHost
