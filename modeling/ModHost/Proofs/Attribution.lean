import ModHost.Proofs.FixtureRuns

set_option autoImplicit false

/-!
# Attribution of failures

A fixture's output says of each failure which script it is laid to. A script that does not
compile or is loaded already is told by its path. A runtime failure only has the text of where
it happened, and is laid to the first script whose path occurs in that text. The text always
contains the path of the script that failed, so some script is always blamed; it is the wrong
one exactly when the path of another script occurs in the text and comes first.
-/

namespace ModHost

def loadOrigin (path : Path) : String := s!"'{path}'"

def hookOrigin (kind : HookKind) (path : Path) : String := s!"{kind.name} hook of '{path}'"

theorem path_infix_loadOrigin (path : Path) : path.toList <:+: (loadOrigin path).toList := by
  refine ⟨['\''], ['\''], ?_⟩
  change _ = ("'" ++ path ++ "'").toList
  simp

theorem path_infix_hookOrigin (kind : HookKind) (path : Path) :
    path.toList <:+: (hookOrigin kind path).toList := by
  refine ⟨(kind.name ++ " hook of '").toList, ['\''], ?_⟩
  change _ = (kind.name ++ " hook of '" ++ path ++ "'").toList
  simp

theorem Sandbox.load_failure {engine : Engine} {files : Files} {sb : Sandbox} {s : Scene}
    {path : Path} {e : ScriptError} (failed : (sb.load engine files s path).1 = .error e) :
    e = .duplicate path ∨ (∃ message, e = .compile path message) ∨
      ∃ fault, e = .ofEval (loadOrigin path) fault := by
  obtain ⟨-, loaded⟩ | ⟨-, message, -, loaded⟩ | ⟨-, program, -, loaded⟩ :=
    load_cases engine files sb s path
  · rw [loaded] at failed
    cases failed
    exact .inl rfl
  · rw [loaded] at failed
    cases failed
    exact .inr (.inl ⟨message, rfl⟩)
  · rw [loaded, runUnit_outcome] at failed
    split at failed
    · cases failed
    · cases failed
      exact .inr (.inr ⟨_, rfl⟩)

theorem LoadAttempt.failure?_eq_some {a : LoadAttempt} {e : ScriptError} :
    a.failure? = some e ↔ a.outcome = .error e := by
  unfold failure?
  cases a.outcome <;> simp

theorem ScriptHost.Loading.told {engine : Engine} {files : Files} {entries : List ModEntry}
    {sb sb' : Sandbox} {s s' : Scene} {attempts : List LoadAttempt}
    (loading : Loading engine files entries sb s attempts sb' s') :
    ∀ a ∈ attempts, ∀ e, a.failure? = some e → e = .duplicate a.path ∨
      (∃ message, e = .compile a.path message) ∨
        ∃ fault, e = .ofEval (loadOrigin a.path) fault := by
  intro a ha e failed
  have made := (loading.attempt_made a ha).1
  exact Sandbox.load_failure (made.symm.trans (LoadAttempt.failure?_eq_some.1 failed))

namespace Fixture

/-- The failure is laid to an entry, as the fixture has it, that leads to the path. -/
def LaidTo (f : Fixture) (path : Path) (summary : FailureSummary) : Prop :=
  ∃ e ∈ f.mods, summary.script = some e.path ∧ Path.same (f.resolve e.path) path = true

/-- The first entry whose path occurs in a text leads to another path. -/
def Misled (f : Fixture) (path : Path) (origin : String) : Prop :=
  ∃ before e after, f.mods = before ++ e :: after ∧
    (∀ d ∈ before, ¬ (f.resolve d.path).toList <:+: origin.toList) ∧
    (f.resolve e.path).toList <:+: origin.toList ∧ Path.same (f.resolve e.path) path = false

theorem summarize_script (f : Fixture) (e : ScriptError) :
    (summarize f.scripts e).script =
      (f.mods.find? fun d => isBlamed e (f.resolve d.path)).map (·.path) := by
  unfold summarize scripts
  rw [List.find?_map, Option.map_map]
  rfl

theorem summarize_blamed (f : Fixture) (e : ScriptError) {d : ModEntry} (entry : d ∈ f.mods)
    (blamed : isBlamed e (f.resolve d.path) = true) :
    ∃ first, f.mods.find? (fun d => isBlamed e (f.resolve d.path)) = some first ∧
      (summarize f.scripts e).script = some first.path := by
  have some_blamed : ∃ d ∈ f.mods, isBlamed e (f.resolve d.path) = true := ⟨d, entry, blamed⟩
  obtain ⟨first, found⟩ := Option.isSome_iff_exists.1 (List.find?_isSome.2 some_blamed)
  refine ⟨first, found, ?_⟩
  rw [summarize_script, found]
  rfl

theorem laidTo_of_blamed_by_path (f : Fixture) (path : Path) (e : ScriptError)
    (byPath : ∀ q, isBlamed e q = Path.same path q) {d : ModEntry} (entry : d ∈ f.mods)
    (leads : f.resolve d.path = path) : f.LaidTo path (summarize f.scripts e) := by
  have blamed : isBlamed e (f.resolve d.path) = true := by
    rw [byPath, leads]
    exact Path.same_refl path
  obtain ⟨first, found, laid⟩ := f.summarize_blamed e entry blamed
  refine ⟨first, List.mem_of_find?_eq_some found, laid, ?_⟩
  have matched := List.find?_some found
  rwa [byPath, Path.same_comm] at matched

theorem occursIn_iff {text cs : List Char} : occursIn text cs = true ↔ text <:+: cs := by
  induction cs with
  | nil => rw [occursIn, List.isEmpty_iff, List.infix_nil]
  | cons c rest ih =>
    rw [occursIn, Bool.or_eq_true, ih, List.isPrefixOf_iff_prefix, List.infix_cons_iff]

theorem laidTo_runtime (f : Fixture) (path : Path) (origin message : String)
    (stack : List String) {d : ModEntry} (entry : d ∈ f.mods)
    (occurs : (f.resolve d.path).toList <:+: origin.toList) :
    f.LaidTo path (summarize f.scripts (.runtime origin message stack)) ↔
      ¬ f.Misled path origin := by
  have blamed (d : ModEntry) : isBlamed (.runtime origin message stack) (f.resolve d.path) = true ↔
      (f.resolve d.path).toList <:+: origin.toList := occursIn_iff
  obtain ⟨first, found, laid⟩ := f.summarize_blamed _ entry ((blamed d).2 occurs)
  obtain ⟨matched, before, after, mods, none_before⟩ := List.find?_eq_some_iff_append.1 found
  constructor
  · rintro ⟨d, -, script, same⟩ ⟨before', e, after', mods', none_before', occurs', other⟩
    have again : f.mods.find? (fun d => isBlamed (.runtime origin message stack)
        (f.resolve d.path)) = some e := by
      refine List.find?_eq_some_iff_append.2
        ⟨(blamed e).2 occurs', before', after', mods', fun d hd => ?_⟩
      rw [Bool.not_eq_true', ← Bool.not_eq_true, blamed]
      exact none_before' d hd
    rw [found] at again
    cases again
    rw [laid, Option.some.injEq] at script
    rw [script, same] at other
    cases other
  · intro right
    refine ⟨first, List.mem_of_find?_eq_some found, laid, ?_⟩
    cases same : Path.same (f.resolve first.path) path with
    | true => rfl
    | false =>
      refine absurd ⟨before, first, after, mods, fun d hd => ?_, (blamed first).1 matched, same⟩
        right
      rw [← blamed, Bool.not_eq_true, ← Bool.not_eq_true']
      exact none_before d hd

/-- How the failures of a run are laid to scripts: those of the attempts to load and those of
the calls in the frames. -/
structure Attribution (engine : Engine) (f : Fixture) (output : HarnessOutput)
    (attempts : List LoadAttempt) (frames : List (List (HookKind × HookCall))) : Prop where
  initFailures : output.initFailures =
    (attempts.filterMap LoadAttempt.failure?).map (summarize f.scripts)
  frameFailures : output.results.map (·.failures) =
    frames.map fun calls => (calls.filterMap Sandbox.failureOf).map (summarize f.scripts)
  attempted : ∀ a ∈ attempts, ∃ d ∈ f.mods, d.enabled = true ∧ f.resolve d.path = a.path
  byPath : ∀ a ∈ attempts, ∀ e, a.failure? = some e → e.label ≠ "runtime" →
    (e.label = "compile" ∨ e.label = "duplicate") ∧ f.LaidTo a.path (summarize f.scripts e)
  byLoad : ∀ a ∈ attempts, ∀ e, a.failure? = some e → e.label = "runtime" →
    (f.LaidTo a.path (summarize f.scripts e) ↔ ¬ f.Misled a.path (loadOrigin a.path))
  called : ∀ calls ∈ frames, ∀ c ∈ calls, ∃ args, c.2.IsMade engine args
  /-- A fault of a callback is laid to the script that registered it, unless the place of it is
  misleading. -/
  byHook : ∀ calls ∈ frames, ∀ c ∈ calls, ∀ e, Sandbox.failureOf c = some e →
    e.label = "runtime" ∧
      (f.LaidTo c.2.unit.path (summarize f.scripts e) ↔
        ¬ f.Misled c.2.unit.path (hookOrigin c.1 c.2.unit.path))

theorem mem_activeMods {f : Fixture} {e : ModEntry} :
    e ∈ f.config.activeMods ↔ ∃ d ∈ f.mods, e = { d with path := f.resolve d.path } := by
  unfold ScriptingConfig.activeMods config ModTables.select
  cases f.role <;> simp [eq_comm]

/-- Every failure of a run is laid to a script of the path that failed, except exactly those
runtime failures whose place mentions the path of another script that comes first. -/
theorem failures_laid {engine : Engine} {files : Files} {f : Fixture} {output : HarnessOutput}
    {left : ScriptHost} (ran : f.run engine files = (.ok output, left)) :
    ∃ rules host s attempts sb s' frames sb',
      ScriptHost.Loading engine files f.config.activeMods (.ofRules rules host) s attempts sb s' ∧
      Sandbox.Frames engine sb frames sb' ∧ f.Attribution engine output attempts frames := by
  obtain ⟨rules, host, s, attempts, sb, s', frames, sb', loading, run, initFailures, -,
    frameFailures⟩ := run_frames ran
  have attempted : ∀ a ∈ attempts, ∃ d ∈ f.mods, d.enabled = true ∧ f.resolve d.path = a.path := by
    intro a ha
    obtain ⟨-, e, he, enabled, path⟩ := loading.attempt_made a ha
    obtain ⟨d, hd, rfl⟩ := mem_activeMods.1 he
    exact ⟨d, hd, enabled, path⟩
  refine ⟨rules, host, s, attempts, sb, s', frames, sb', loading, run, {
    initFailures := initFailures
    frameFailures := frameFailures
    attempted := attempted
    byPath := ?byPath
    byLoad := ?byLoad
    called := run.isMade
    byHook := ?byHook }⟩
  case byPath =>
    intro a ha e failure named
    obtain ⟨d, hd, -, leads⟩ := attempted a ha
    obtain rfl | ⟨message, rfl⟩ | ⟨fault, rfl⟩ := loading.told a ha e failure
    · exact ⟨.inr rfl, f.laidTo_of_blamed_by_path a.path _ (fun _ => rfl) hd leads⟩
    · exact ⟨.inl rfl, f.laidTo_of_blamed_by_path a.path _ (fun _ => rfl) hd leads⟩
    · exact absurd rfl named
  case byLoad =>
    intro a ha e failure named
    obtain ⟨d, hd, -, leads⟩ := attempted a ha
    obtain rfl | ⟨message, rfl⟩ | ⟨fault, rfl⟩ := loading.told a ha e failure
    · exact absurd named (by simp [ScriptError.label])
    · exact absurd named (by simp [ScriptError.label])
    · refine f.laidTo_runtime a.path _ _ _ hd ?_
      rw [leads]
      exact path_infix_loadOrigin a.path
  case byHook =>
    intro calls hcalls c hc e failure
    have path := run.unit_path calls hcalls c hc
    obtain old | ⟨entry, hentry, -, leads⟩ := loading.paths_enabled _ path
    · simp [Sandbox.ofRules, UnitTable.paths, UnitTable.empty] at old
    · obtain ⟨d, hd, rfl⟩ := mem_activeMods.1 hentry
      change f.resolve d.path = c.2.unit.path at leads
      obtain ⟨fault, -, rfl⟩ := Option.map_eq_some_iff.1 failure
      refine ⟨rfl, f.laidTo_runtime c.2.unit.path _ _ _ hd ?_⟩
      rw [leads]
      exact path_infix_hookOrigin c.1 c.2.unit.path

/-- Two scripts, of which the second fails, at its top level and in each frame. The path of the
first is the beginning of the path of the second. -/
def shadowing : Fixture :=
  { role := .server, frames := 1, maxPlayers := 0, seed := some 1
    mods := [⟨"a.rhai", true⟩, ⟨"a.rhai.b", true⟩], players := [], inspect := [], baseDir := "" }

def shadowingFiles : Files :=
  .ofNodes [(["a.rhai"], .file "let x = 1;".toUTF8 0),
    (["a.rhai.b"],
      .file "hook_event(HOOK_UPDATE, || \x7b throw 1; \x7d); throw 2;".toUTF8 0)]

theorem shadowing_runs : ∃ output left,
    shadowing.run .standard shadowingFiles = (.ok output, left) ∧ output.loaded = ["a.rhai"] ∧
      output.initFailures = [⟨"runtime", some "a.rhai"⟩] ∧
      output.results.map (·.failures) = [[⟨"runtime", some "a.rhai"⟩]] := by
  have told : ((shadowing.run .standard shadowingFiles).1.toOption.map fun o =>
      (o.loaded, o.initFailures, o.results.map (·.failures))) =
      some (["a.rhai"], [⟨"runtime", some "a.rhai"⟩], [[⟨"runtime", some "a.rhai"⟩]]) := by
    decide +kernel
  generalize shadowing.run .standard shadowingFiles = ran at told
  obtain ⟨_ | output, left⟩ := ran
  · cases told
  · simp only [Except.toOption, Option.map_some, Option.some.injEq, Prod.mk.injEq] at told
    exact ⟨output, left, rfl, told⟩

theorem shadowing_blames_first : ∃ output left,
    shadowing.run .standard shadowingFiles = (.ok output, left) ∧ output.loaded = ["a.rhai"] ∧
      output.initFailures.length = 1 ∧ (output.results.flatMap (·.failures)).length = 1 ∧
      ∀ summary ∈ output.initFailures ++ output.results.flatMap (·.failures),
        ¬ shadowing.LaidTo (shadowing.resolve "a.rhai.b") summary := by
  obtain ⟨output, left, ran, loaded, initFailures, failures⟩ := shadowing_runs
  have inFrames : output.results.flatMap (·.failures) = [⟨"runtime", some "a.rhai"⟩] := by
    rw [List.flatMap_def, failures]
    rfl
  refine ⟨output, left, ran, loaded, by rw [initFailures]; rfl, by rw [inFrames]; rfl, ?_⟩
  intro summary mem
  have script : summary.script = some "a.rhai" := by
    rw [initFailures, inFrames] at mem
    simp only [List.cons_append, List.nil_append, List.mem_cons, List.not_mem_nil, or_false,
      or_self] at mem
    rw [mem]
  rintro ⟨e, -, named, same⟩
  rw [script, Option.some.injEq] at named
  rw [← named] at same
  exact absurd same (by decide +kernel)

theorem shadowing_attribution : ∃ output left attempts frames,
    shadowing.run .standard shadowingFiles = (.ok output, left) ∧
      shadowing.Attribution .standard output attempts frames := by
  obtain ⟨output, left, ran, -⟩ := shadowing_runs
  obtain ⟨_, _, _, attempts, _, _, frames, _, -, -, laid⟩ := failures_laid ran
  exact ⟨output, left, attempts, frames, ran, laid⟩

end Fixture

end ModHost
