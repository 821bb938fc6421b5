import ModHost.Host
import ModHost.Proofs.HookDispatch

set_option autoImplicit false

/-!
# Loading scripts

What one load leaves in a sandbox, and what going through a list of scripts adds to the
report and to the host. The attempts of a pass over the list are kept in order with the state
in which each was made, so that the lists of the report can be read off them.
-/

namespace ModHost

open Script (Memory Program RunResult)

namespace Sandbox

def add (sb : Sandbox) (path : Path) (program : Program) : Sandbox :=
  { sb with units := sb.units.insert path program sb.host.seed }

def topLevelRun (engine : Engine) (sb : Sandbox) (s : Scene) (path : Path)
    (program : Program) : RunResult :=
  engine.runTopLevel (sb.rules.env program (some path) sb.host.get) sb.host.seed s.world

theorem get_add (sb : Sandbox) (path : Path) (program : Program) :
    (sb.add path program).units.get sb.units.length =
      some ⟨sb.units.length, path, program, sb.host.seed⟩ :=
  List.getElem?_concat_length

theorem runUnit_sandbox (engine : Engine) (sb : Sandbox) (s : Scene) (path : Path)
    (program : Program) :
    (runUnit engine sb s path program).2.1 =
      (sb.add path program).afterRun sb.units.length
        (topLevelRun engine sb s path program) := by
  have settled := settle_sandbox ((sb.add path program).enter sb.units.length) s sb.units.length
    (topLevelRun engine sb s path program) rfl
  have restored : (((sb.add path program).enter sb.units.length).afterRun sb.units.length
      (topLevelRun engine sb s path program)).restore sb =
      (sb.add path program).afterRun sb.units.length (topLevelRun engine sb s path program) := rfl
  rw [← restored, ← settled]
  unfold runUnit
  dsimp only [topLevelRun, add]
  split <;> rfl

theorem runUnit_outcome (engine : Engine) (sb : Sandbox) (s : Scene) (path : Path)
    (program : Program) :
    (runUnit engine sb s path program).1 =
      match (topLevelRun engine sb s path program).ending.fault? with
      | none => .ok sb.units.length
      | some e => .error (.ofEval s!"'{path}'" e) := by
  have fault := settle_fault ((sb.add path program).enter sb.units.length) s sb.units.length
    (topLevelRun engine sb s path program)
  cases ended : (topLevelRun engine sb s path program).ending.fault? with
  | none =>
    rw [ended] at fault
    unfold runUnit
    dsimp only [topLevelRun, add] at fault ⊢
    rw [fault]
  | some e =>
    rw [ended] at fault
    unfold runUnit
    dsimp only [topLevelRun, add] at fault ⊢
    rw [fault]

theorem runUnit_world (engine : Engine) (sb : Sandbox) (s : Scene) (path : Path)
    (program : Program) :
    (runUnit engine sb s path program).2.2.world =
      (topLevelRun engine sb s path program).world := by
  rw [← settle_world ((sb.add path program).enter sb.units.length) s sb.units.length]
  unfold runUnit
  dsimp only [topLevelRun, add]
  split <;> rfl

theorem compileFile_error {engine : Engine} {files : Files} {path : Path} {e : ScriptError}
    (failed : compileFile engine files path = .error e) : ∃ message, e = .compile path message := by
  unfold compileFile at failed
  split at failed
  · cases failed
    exact ⟨_, rfl⟩
  · split at failed
    · cases failed
      exact ⟨_, rfl⟩
    · cases failed

/-- The three ways of a load: the path has a unit already, its file does not compile, or a new
unit runs. -/
theorem load_cases (engine : Engine) (files : Files) (sb : Sandbox) (s : Scene) (path : Path) :
    ((sb.units.find path).isSome ∧ sb.load engine files s path = (.error (.duplicate path), sb, s)) ∨
      (sb.units.find path = none ∧ ∃ message,
        compileFile engine files path = .error (.compile path message) ∧
        sb.load engine files s path = (.error (.compile path message), sb, s)) ∨
      (sb.units.find path = none ∧ ∃ program,
        compileFile engine files path = .ok program ∧
        sb.load engine files s path = runUnit engine sb s path program) := by
  cases found : sb.units.find path with
  | some u =>
    refine .inl ⟨rfl, ?_⟩
    simp only [load, found]
  | none =>
    cases compiled : compileFile engine files path with
    | error e =>
      obtain ⟨message, rfl⟩ := compileFile_error compiled
      refine .inr (.inl ⟨rfl, message, rfl, ?_⟩)
      simp only [load, found, compiled]
    | ok program =>
      refine .inr (.inr ⟨rfl, program, rfl, ?_⟩)
      simp only [load, found, compiled]

theorem load_sandbox (engine : Engine) (files : Files) (sb : Sandbox) (s : Scene) (path : Path) :
    (sb.load engine files s path).2.1 = sb ∨
      ∃ program, sb.units.find path = none ∧ (sb.load engine files s path).2.1 =
        (sb.add path program).afterRun sb.units.length
          (topLevelRun engine sb s path program) := by
  obtain ⟨-, loaded⟩ | ⟨-, message, -, loaded⟩ | ⟨fresh, program, -, loaded⟩ :=
    load_cases engine files sb s path
  · rw [loaded]
    exact .inl rfl
  · rw [loaded]
    exact .inl rfl
  · rw [loaded]
    exact .inr ⟨program, fresh, runUnit_sandbox engine sb s path program⟩

end Sandbox

/-- One attempt to load a script: where it was made, and what came of it. -/
structure LoadAttempt where
  path : Path
  sandbox : Sandbox
  scene : Scene
  outcome : Except ScriptError Nat

namespace LoadAttempt

def failure? (a : LoadAttempt) : Option ScriptError :=
  match a.outcome with
  | .ok _ => none
  | .error e => some e

def succeeded (a : LoadAttempt) : Bool := a.failure?.isNone

end LoadAttempt

def InitReport.extend (r : InitReport) (entries : List ModEntry)
    (attempts : List LoadAttempt) : InitReport :=
  { r with
    attempted := r.attempted ++ attempts.map (·.path)
    loaded := r.loaded ++ (attempts.filter LoadAttempt.succeeded).map (·.path)
    skipped := r.skipped ++ (entries.filter (!·.enabled)).map (·.path)
    failures := r.failures ++ attempts.filterMap LoadAttempt.failure? }

namespace ScriptHost

/-- What is said while an enabled entry is loaded, after the load. -/
def afterLoad : Except ScriptError Nat × Sandbox × Scene → Scene
  | (.ok _, _, s) => s
  | (.error e, _, s) => s.say (loadFailureLog e)

theorem afterLoad_world (loaded : Except ScriptError Nat × Sandbox × Scene) :
    (afterLoad loaded).world = loaded.2.2.world := by
  obtain ⟨outcome, sb, s⟩ := loaded
  cases outcome <;> rfl

/-- `Loading engine files entries sb s attempts sb' s'`: going through the entries makes these
attempts, one after the other, and leads from one state to the other. -/
inductive Loading (engine : Engine) (files : Files) :
    List ModEntry → Sandbox → Scene → List LoadAttempt → Sandbox → Scene → Prop
  | done (sb : Sandbox) (s : Scene) : Loading engine files [] sb s [] sb s
  | skip {entry : ModEntry} {rest : List ModEntry} {sb sb' : Sandbox} {s s' : Scene}
      {attempts : List LoadAttempt} (disabled : entry.enabled = false)
      (more : Loading engine files rest sb
        (s.say [.debug s!"    skipping disabled script {entry.path}"]) attempts sb' s') :
      Loading engine files (entry :: rest) sb s attempts sb' s'
  | load {entry : ModEntry} {rest : List ModEntry} {sb sb' : Sandbox} {s s' said : Scene}
      {attempts : List LoadAttempt} (enabled : entry.enabled = true)
      (announced : said = s.say [.info s!"    {entry.path}"])
      (more : Loading engine files rest (sb.load engine files said entry.path).2.1
        (afterLoad (sb.load engine files said entry.path)) attempts sb' s') :
      Loading engine files (entry :: rest) sb s
        (⟨entry.path, sb, said, (sb.load engine files said entry.path).1⟩ :: attempts) sb' s'

def afterLoads (h : ScriptHost) (files : Files) (attempts : List LoadAttempt) : ScriptHost :=
  { h with
    watched := h.watched ++ attempts.map fun a => (a.path, files.stamp? a.path)
    failures := h.failures ++ attempts.filterMap LoadAttempt.failure? }

theorem extend_extend (r : InitReport) (es fs : List ModEntry) (xs ys : List LoadAttempt) :
    (r.extend es xs).extend fs ys = r.extend (es ++ fs) (xs ++ ys) := by
  simp [InitReport.extend]

theorem afterLoads_afterLoads (h : ScriptHost) (files : Files) (xs ys : List LoadAttempt) :
    (h.afterLoads files xs).afterLoads files ys = h.afterLoads files (xs ++ ys) := by
  simp [afterLoads]

theorem loadEntries_disabled (engine : Engine) (files : Files) (entry : ModEntry)
    (rest : List ModEntry) (report : InitReport) (h : ScriptHost) (sb : Sandbox) (s : Scene)
    (disabled : entry.enabled = false) :
    loadEntries engine files (entry :: rest) report h sb s =
      loadEntries engine files rest (report.extend [entry] []) h sb
        (s.say [.debug s!"    skipping disabled script {entry.path}"]) := by
  simp [loadEntries, disabled, InitReport.extend]

theorem loadEntries_enabled (engine : Engine) (files : Files) (entry : ModEntry)
    (rest : List ModEntry) (report : InitReport) (h : ScriptHost) (sb : Sandbox)
    (s said : Scene) (enabled : entry.enabled = true)
    (announced : said = s.say [.info s!"    {entry.path}"]) (attempt : LoadAttempt)
    (made : attempt = ⟨entry.path, sb, said, (sb.load engine files said entry.path).1⟩) :
    loadEntries engine files (entry :: rest) report h sb s =
      loadEntries engine files rest (report.extend [entry] [attempt])
        (h.afterLoads files [attempt]) (sb.load engine files said entry.path).2.1
        (afterLoad (sb.load engine files said entry.path)) := by
  subst announced made
  rw [loadEntries]
  simp only [enabled, Bool.not_true, Bool.false_eq_true, ↓reduceIte]
  generalize sb.load engine files (s.say [.info s!"    {entry.path}"]) entry.path = loaded
  obtain ⟨outcome, sb₁, s₁⟩ := loaded
  cases outcome <;>
    simp [InitReport.extend, afterLoads, afterLoad, List.filter_cons, List.filterMap_cons,
      LoadAttempt.succeeded, LoadAttempt.failure?, enabled]

/-- Loading a list is a pass over it, and the report and the host list its attempts. -/
theorem loadEntries_loading (engine : Engine) (files : Files) (entries : List ModEntry)
    (report : InitReport) (h : ScriptHost) (sb : Sandbox) (s : Scene) :
    ∃ attempts sb' s', Loading engine files entries sb s attempts sb' s' ∧
      loadEntries engine files entries report h sb s =
        (report.extend entries attempts, h.afterLoads files attempts, sb', s') := by
  induction entries generalizing report h sb s with
  | nil =>
    refine ⟨[], sb, s, .done sb s, ?_⟩
    simp [loadEntries, InitReport.extend, afterLoads]
  | cons entry rest ih =>
    cases enabled : entry.enabled with
    | false =>
      obtain ⟨attempts, sb', s', loading, result⟩ := ih (report.extend [entry] []) h sb
        (s.say [.debug s!"    skipping disabled script {entry.path}"])
      refine ⟨attempts, sb', s', .skip enabled loading, ?_⟩
      rw [loadEntries_disabled engine files entry rest report h sb s enabled, result,
        extend_extend]
      rfl
    | true =>
      let said := s.say [.info s!"    {entry.path}"]
      let attempt : LoadAttempt :=
        ⟨entry.path, sb, said, (sb.load engine files said entry.path).1⟩
      obtain ⟨attempts, sb', s', loading, result⟩ := ih (report.extend [entry] [attempt])
        (h.afterLoads files [attempt]) (sb.load engine files said entry.path).2.1
        (afterLoad (sb.load engine files said entry.path))
      refine ⟨attempt :: attempts, sb', s', .load enabled rfl loading, ?_⟩
      rw [loadEntries_enabled engine files entry rest report h sb s said enabled rfl attempt rfl,
        result, extend_extend, afterLoads_afterLoads]
      rfl

end ScriptHost

end ModHost
