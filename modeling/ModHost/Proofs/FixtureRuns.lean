import ModHost.Fixture.Run
import ModHost.Proofs.HookTallies

set_option autoImplicit false

/-!
# Runs of fixtures

A run of a fixture is a pass over its list of scripts followed by frames, and a frame is a
number of passes over registered callbacks. Here these are put together, so that what the
output says about failures can be read off the attempts to load and the calls of callbacks.
-/

namespace ModHost

namespace Sandbox

/-- `Frames engine sb frames sb'`: the calls of each frame, one frame after the other. -/
inductive Frames (engine : Engine) :
    Sandbox → List (List (HookKind × HookCall)) → Sandbox → Prop
  | done (sb : Sandbox) : Frames engine sb [] sb
  | frame {sb between sb' : Sandbox} {calls : List (HookKind × HookCall)}
      {later : List (List (HookKind × HookCall))} (first : Passes engine sb calls between)
      (more : Frames engine between later sb') : Frames engine sb (calls :: later) sb'

theorem paths_of_scripts {t t' : UnitTable} (same : t'.scripts = t.scripts) :
    t'.paths = t.paths := by
  have paths := congrArg (List.map (·.2.1)) same
  rwa [UnitTable.scripts, UnitTable.scripts, List.map_map, List.map_map] at paths

theorem paths_afterRun_add (sb : Sandbox) (path : Path) (program : Script.Program)
    (r : Script.RunResult) :
    ((sb.add path program).afterRun sb.units.length r).units.paths = sb.units.paths ++ [path] := by
  have kept : ((sb.add path program).afterRun sb.units.length r).units.paths =
      (sb.add path program).units.paths := paths_of_scripts (UnitTable.scripts_setMemory _ _ _)
  rw [kept]
  simp [add, UnitTable.insert, UnitTable.paths]

variable {engine : Engine} {sb sb' : Sandbox}

theorem Passes.paths_eq {calls : List (HookKind × HookCall)}
    (passes : Passes engine sb calls sb') : sb'.units.paths = sb.units.paths := by
  induction passes with
  | done => rfl
  | pass one _ ih => exact ih.trans (paths_of_scripts one.scripts_eq)

theorem Pass.unit_path {kind : HookKind} {args : List Script.Value}
    {entries : List HookEntry} {s s' : Scene} {calls : List HookCall}
    (pass : Pass engine kind args entries sb s calls sb' s') :
    ∀ c ∈ calls, c.unit.path ∈ sb.units.paths := by
  intro c hc
  obtain ⟨u, found, script⟩ := Option.map_eq_some_iff.1 (pass.unit_script c hc)
  have path : u.path = c.unit.path := congrArg (·.2.1) script
  rw [← path]
  exact List.mem_map_of_mem (List.mem_of_getElem? found)

theorem Passes.unit_path {calls : List (HookKind × HookCall)}
    (passes : Passes engine sb calls sb') : ∀ c ∈ calls, c.2.unit.path ∈ sb.units.paths := by
  induction passes with
  | done => simp
  | pass one _ ih =>
    intro c hc
    rcases List.mem_append.1 hc with now | later
    · obtain ⟨call, hcall, rfl⟩ := List.mem_map.1 now
      exact one.unit_path call hcall
    · rw [← paths_of_scripts one.scripts_eq]
      exact ih c later

theorem Frames.unit_path {frames : List (List (HookKind × HookCall))}
    (run : Frames engine sb frames sb') :
    ∀ calls ∈ frames, ∀ c ∈ calls, c.2.unit.path ∈ sb.units.paths := by
  induction run with
  | done => simp
  | frame first _ ih =>
    rintro calls (_ | ⟨_, later⟩)
    · exact first.unit_path
    · rw [← first.paths_eq]
      exact ih calls later

theorem Frames.isMade {frames : List (List (HookKind × HookCall))}
    (run : Frames engine sb frames sb') :
    ∀ calls ∈ frames, ∀ c ∈ calls, ∃ args, c.2.IsMade engine args := by
  induction run with
  | done => simp
  | frame first _ ih =>
    rintro calls (_ | ⟨_, later⟩)
    · exact first.isMade
    · exact ih calls later

end Sandbox

namespace ScriptHost

theorem Loading.paths_enabled {engine : Engine} {files : Files} {entries : List ModEntry}
    {sb sb' : Sandbox} {s s' : Scene} {attempts : List LoadAttempt}
    (loading : Loading engine files entries sb s attempts sb' s') :
    ∀ p ∈ sb'.units.paths, p ∈ sb.units.paths ∨ ∃ e ∈ entries, e.enabled = true ∧ e.path = p := by
  induction loading with
  | done => exact fun p hp => .inl hp
  | skip _ _ ih =>
    intro p hp
    obtain old | ⟨e, he, enabled, path⟩ := ih p hp
    · exact .inl old
    · exact .inr ⟨e, List.mem_cons_of_mem _ he, enabled, path⟩
  | @load entry rest sb _ s _ said _ enabled _ _ ih =>
    intro p hp
    obtain old | ⟨e, he, enabled, path⟩ := ih p hp
    · obtain same | ⟨program, -, ran⟩ := Sandbox.load_sandbox engine files sb said entry.path
      · rw [same] at old
        exact .inl old
      · rw [ran, Sandbox.paths_afterRun_add, List.mem_append, List.mem_singleton] at old
        obtain old | rfl := old
        · exact .inl old
        · exact .inr ⟨entry, by simp, enabled, rfl⟩
    · exact .inr ⟨e, List.mem_cons_of_mem _ he, enabled, path⟩

/-- What came of an attempt is what the load answered, and its path is that of an enabled
entry. -/
theorem Loading.attempt_made {engine : Engine} {files : Files} {entries : List ModEntry}
    {sb sb' : Sandbox} {s s' : Scene} {attempts : List LoadAttempt}
    (loading : Loading engine files entries sb s attempts sb' s') :
    ∀ a ∈ attempts, a.outcome = (a.sandbox.load engine files a.scene a.path).1 ∧
      ∃ e ∈ entries, e.enabled = true ∧ e.path = a.path := by
  induction loading with
  | done => simp
  | skip _ _ ih =>
    intro a ha
    obtain ⟨made, e, he, enabled, path⟩ := ih a ha
    exact ⟨made, e, List.mem_cons_of_mem _ he, enabled, path⟩
  | @load entry rest _ _ _ _ _ _ enabled _ _ ih =>
    rintro a (_ | ⟨_, ha⟩)
    · exact ⟨rfl, entry, by simp, enabled, rfl⟩
    · obtain ⟨made, e, he, enabled, path⟩ := ih a ha
      exact ⟨made, e, List.mem_cons_of_mem _ he, enabled, path⟩

end ScriptHost

namespace Fixture

open Sandbox (Frames failureOf)

theorem stepFrames_succ (engine : Engine) (scripts : List (String × Path)) (count frame : Nat)
    (h : ScriptHost) :
    stepFrames engine scripts (count + 1) frame h =
      let ran := h.runFrame engine
      let later := stepFrames engine scripts count (frame + 1) ran.2.takeLogs.2
      (⟨frame, ran.1.invoked, ran.2.takeLogs.1, ran.1.failures.map (summarize scripts)⟩ ::
        later.1, later.2) := rfl

theorem stepFrames_frames (engine : Engine) (scripts : List (String × Path)) (count : Nat)
    (frame : Nat) (h : ScriptHost) {session : Session} (live : h.session = some session) :
    ∃ frames session',
      Frames engine session.sandbox frames session'.sandbox ∧
      (stepFrames engine scripts count frame h).2.session = some session' ∧
      (stepFrames engine scripts count frame h).1.map (·.hooksInvoked) =
        frames.map List.length ∧
      (stepFrames engine scripts count frame h).1.map (·.failures) =
        frames.map fun calls => (calls.filterMap failureOf).map (summarize scripts) := by
  induction count generalizing frame h session with
  | zero => exact ⟨[], session, .done _, live, rfl, rfl⟩
  | succ count ih =>
    obtain ⟨calls, tally⟩ := (ScriptHost.hookRuns_runFrame engine h).tally
    obtain ⟨between, passes, after⟩ := tally.made session live
    obtain ⟨frames, session', run, final, invoked, failures⟩ :=
      ih (frame + 1) (h.runFrame engine).2.takeLogs.2 after
    rw [stepFrames_succ]
    refine ⟨calls :: frames, session', .frame passes run, final, ?_, ?_⟩
    · simp only [List.map_cons, invoked, tally.counted]
    · simp only [List.map_cons, failures, tally.counted]

def hosted (f : Fixture) (players : PlayerTable) : ScriptHost :=
  { ScriptHost.ofConfig f.config with players := players }

/-- The host before the first frame, once what was said while it started is taken. -/
def beforeFrames (started : InitReport × ScriptHost) : ScriptHost :=
  started.2.takeLogs.2.takeFailures.2

def outputOf (engine : Engine) (f : Fixture) (started : InitReport × ScriptHost) :
    HarnessOutput :=
  let stepped := stepFrames engine f.scripts f.frames 0 (beforeFrames started)
  { role := f.role
    frames := f.frames
    loaded := started.1.loaded.map (labelOf f.scripts)
    skipped := started.1.skipped.map (labelOf f.scripts)
    initLogs := started.2.takeLogs.1
    initFailures := started.1.failures.map (summarize f.scripts)
    results := stepped.1
    finalPlayers := stepped.2.players.toList.zipIdx.map fun (p, slot) => .ofState slot p
    globals := f.inspect.map (f.probe stepped.2) }

theorem run_ok {engine : Engine} {files : Files} {f : Fixture} {output : HarnessOutput}
    {left : ScriptHost} (ran : f.run engine files = (.ok output, left)) :
    ∃ players, preparePlayers (ScriptHost.ofConfig f.config).players f.players = .ok players ∧
      ((f.hosted players).start engine files).1.setupError = none ∧
      output = f.outputOf engine ((f.hosted players).start engine files) := by
  unfold run at ran
  dsimp only at ran
  split at ran
  · cases ran
  · next players prepared =>
    split at ran
    · cases ran
    · next sound =>
      split at ran
      · cases ran
      · cases ran
        exact ⟨players, prepared, sound, rfl⟩

/-- A run that gives an output loads the fixture's scripts into a new sandbox and then steps
the frames, and the output lists the failures of both in order. -/
theorem run_frames {engine : Engine} {files : Files} {f : Fixture} {output : HarnessOutput}
    {left : ScriptHost} (ran : f.run engine files = (.ok output, left)) :
    ∃ rules host s attempts sb s' frames sb',
      ScriptHost.Loading engine files f.config.activeMods (.ofRules rules host) s attempts sb s' ∧
      Frames engine sb frames sb' ∧
      output.initFailures =
        (attempts.filterMap LoadAttempt.failure?).map (summarize f.scripts) ∧
      output.results.map (·.hooksInvoked) = frames.map List.length ∧
      output.results.map (·.failures) =
        frames.map fun calls => (calls.filterMap failureOf).map (summarize f.scripts) := by
  obtain ⟨players, -, sound, rfl⟩ := run_ok ran
  obtain ⟨e, failed, -⟩ | ⟨rules, host, s, attempts, sb, s', session, -, loading, report, live,
    rfl⟩ := ScriptHost.start_cases engine files (f.hosted players)
  · rw [failed] at sound
    cases sound
  · obtain ⟨frames, session', run, -, invoked, failures⟩ := stepFrames_frames engine f.scripts
      f.frames 0 (beforeFrames ((f.hosted players).start engine files)) live
    refine ⟨rules, host, s, attempts, session.sandbox, s', frames, session'.sandbox, loading, run,
      ?_, invoked, failures⟩
    rw [outputOf, report]
    rfl

end Fixture

end ModHost
