import ModHost.Proofs.Attribution
import ModHost.Proofs.UnitTables

set_option autoImplicit false

/-!
# Reports of initializations

What an initialization answers, against the scripts it loaded. Every enabled script is
attempted, in the order of the list and whatever came of the ones before it, and each attempt
has one outcome. The units of the session are those attempts whose code ran; that is the link
from which it follows when a script counts as a duplicate: exactly when an earlier one of the
same path was read and compiled, even if its code failed.
-/

namespace ModHost

namespace LoadAttempt

variable {engine : Engine} {files : Files} {a : LoadAttempt}

def ran (a : LoadAttempt) : Bool :=
  match a.outcome with
  | .ok _ => true
  | .error (.runtime _ _ _) => true
  | .error _ => false

def Compiled (engine : Engine) (files : Files) (a : LoadAttempt) : Prop :=
  a.sandbox.units.find a.path = none ∧
    ∃ program, Sandbox.compileFile engine files a.path = .ok program

/-- The attempt was made: its outcome is what the load answered. -/
def Made (engine : Engine) (files : Files) (a : LoadAttempt) : Prop :=
  a.outcome = (a.sandbox.load engine files a.scene a.path).1

theorem Made.cases (made : a.Made engine files) :
    ((a.sandbox.units.find a.path).isSome ∧ a.outcome = .error (.duplicate a.path)) ∨
      (a.sandbox.units.find a.path = none ∧ ∃ message,
        Sandbox.compileFile engine files a.path = .error (.compile a.path message) ∧
        a.outcome = .error (.compile a.path message)) ∨
      (a.Compiled engine files ∧
        (a.outcome = .ok a.sandbox.units.length ∨
          ∃ fault, a.outcome = .error (.ofEval (loadOrigin a.path) fault))) := by
  unfold Made at made
  obtain ⟨taken, loaded⟩ | ⟨fresh, message, failed, loaded⟩ | ⟨fresh, program, compiled, loaded⟩ :=
    Sandbox.load_cases engine files a.sandbox a.scene a.path
  · rw [loaded] at made
    exact .inl ⟨taken, made⟩
  · rw [loaded] at made
    exact .inr (.inl ⟨fresh, message, failed, made⟩)
  · rw [loaded, Sandbox.runUnit_outcome] at made
    refine .inr (.inr ⟨⟨fresh, program, compiled⟩, ?_⟩)
    split at made
    · exact .inl made
    · next fault _ => exact .inr ⟨fault, made⟩

theorem Made.ran_iff (made : a.Made engine files) : a.ran = true ↔ a.Compiled engine files := by
  obtain ⟨taken, outcome⟩ | ⟨-, message, failed, outcome⟩ | ⟨compiled, outcome | ⟨fault, outcome⟩⟩ :=
    made.cases
  · simp only [ran, outcome, Compiled, Bool.false_eq_true, false_iff]
    rintro ⟨fresh, -⟩
    rw [fresh] at taken
    cases taken
  · simp only [ran, outcome, Compiled, Bool.false_eq_true, false_iff]
    rintro ⟨-, program, compiled⟩
    rw [failed] at compiled
    cases compiled
  · simp only [ran, outcome, compiled]
  · simp only [ran, outcome, ScriptError.ofEval, compiled]

theorem Made.duplicate_iff (made : a.Made engine files) :
    a.failure? = some (.duplicate a.path) ↔ (a.sandbox.units.find a.path).isSome := by
  obtain ⟨taken, outcome⟩ | ⟨fresh, message, -, outcome⟩ | ⟨⟨fresh, -⟩, outcome | ⟨fault, outcome⟩⟩ :=
    made.cases
  · simp only [failure?, outcome, taken]
  · simp [failure?, outcome, fresh]
  · simp [failure?, outcome, fresh]
  · simp [failure?, outcome, fresh, ScriptError.ofEval]

def ranPaths (attempts : List LoadAttempt) : List Path := (attempts.filter ran).map (·.path)

theorem mem_ranPaths {attempts : List LoadAttempt} {p : Path} :
    p ∈ ranPaths attempts ↔ ∃ b ∈ attempts, b.ran = true ∧ b.path = p := by
  simp [ranPaths, and_assoc]

theorem Made.paths_load (made : a.Made engine files) :
    (a.sandbox.load engine files a.scene a.path).2.1.units.paths =
      a.sandbox.units.paths ++ ranPaths [a] := by
  have compiled := made.ran_iff
  obtain ⟨taken, loaded⟩ | ⟨-, message, failed, loaded⟩ | ⟨fresh, program, found, loaded⟩ :=
    Sandbox.load_cases engine files a.sandbox a.scene a.path
  · have idle : a.ran = false := by
      rw [Bool.eq_false_iff, ne_eq, compiled]
      rintro ⟨fresh, -⟩
      simp [fresh] at taken
    simp [loaded, ranPaths, idle]
  · have idle : a.ran = false := by
      rw [Bool.eq_false_iff, ne_eq, compiled]
      rintro ⟨-, program, found⟩
      simp [found] at failed
    simp [loaded, ranPaths, idle]
  · have active : a.ran = true := compiled.2 ⟨fresh, program, found⟩
    rw [loaded, Sandbox.runUnit_sandbox, Sandbox.paths_afterRun_add]
    simp [ranPaths, active]

end LoadAttempt

namespace ScriptHost

open LoadAttempt (ranPaths)

variable {engine : Engine} {files : Files} {entries : List ModEntry} {sb sb' : Sandbox}
  {s s' : Scene} {attempts : List LoadAttempt}

theorem Loading.made (loading : Loading engine files entries sb s attempts sb' s') :
    ∀ a ∈ attempts, a.Made engine files := fun a ha => (loading.attempt_made a ha).1

theorem Loading.map_path (loading : Loading engine files entries sb s attempts sb' s') :
    attempts.map (·.path) = (entries.filter (·.enabled)).map (·.path) := by
  induction loading with
  | done => rfl
  | skip disabled _ ih => simpa [disabled] using ih
  | load enabled _ _ ih => simpa [enabled] using ih

theorem Loading.paths_eq (loading : Loading engine files entries sb s attempts sb' s') :
    sb'.units.paths = sb.units.paths ++ ranPaths attempts := by
  induction loading with
  | done => simp [ranPaths]
  | skip _ _ ih => exact ih
  | @load entry rest sb _ s _ said attempts _ _ _ ih =>
    let a : LoadAttempt := ⟨entry.path, sb, said, (sb.load engine files said entry.path).1⟩
    have first : (sb.load engine files said entry.path).2.1.units.paths =
        sb.units.paths ++ ranPaths [a] := LoadAttempt.Made.paths_load (a := a) rfl
    have both : ranPaths [a] ++ ranPaths attempts = ranPaths (a :: attempts) := by
      simp only [ranPaths, ← List.map_append, ← List.filter_append, List.singleton_append]
    rw [ih, first, List.append_assoc, both]

theorem Loading.upTo {before after : List LoadAttempt} {a : LoadAttempt}
    (loading : Loading engine files entries sb s (before ++ a :: after) sb' s') :
    ∃ earlier s₁, Loading engine files earlier sb s before a.sandbox s₁ := by
  generalize made : before ++ a :: after = attempts at loading
  induction loading generalizing before with
  | done => simp at made
  | skip disabled _ ih =>
    obtain ⟨earlier, s₁, reached⟩ := ih made
    exact ⟨_ :: earlier, s₁, .skip disabled reached⟩
  | @load entry rest sb _ s _ said _ enabled announced _ ih =>
    cases before with
    | nil =>
      obtain ⟨rfl, -⟩ := List.cons.inj made
      exact ⟨[], s, .done sb s⟩
    | cons b before =>
      obtain ⟨rfl, rest⟩ := List.cons.inj made
      obtain ⟨earlier, s₁, reached⟩ := ih rest
      exact ⟨entry :: earlier, s₁, .load enabled announced reached⟩

/-- What an initialization that built a session tells of the scripts of its side. -/
structure Accounts (engine : Engine) (files : Files) (h : ScriptHost)
    (attempts : List LoadAttempt) : Prop where
  loading : ∃ rules host s sb s',
    Loading engine files h.config.activeMods (.ofRules rules host) s attempts sb s'
  attempted : (h.start engine files).1.attempted =
    (h.config.activeMods.filter (·.enabled)).map (·.path)
  skipped : (h.start engine files).1.skipped =
    (h.config.activeMods.filter (!·.enabled)).map (·.path)
  inOrder : attempts.map (·.path) = (h.start engine files).1.attempted
  loaded : (h.start engine files).1.loaded = (attempts.filter (·.succeeded)).map (·.path)
  failures : (h.start engine files).1.failures = attempts.filterMap (·.failure?)
  told : ∀ a ∈ attempts, ∀ e, a.failure? = some e → e = .duplicate a.path ∨
    (∃ message, e = .compile a.path message) ∨ ∃ fault, e = .ofEval (loadOrigin a.path) fault
  units : (h.start engine files).2.loadedScripts = (attempts.filter (·.ran)).map (·.path)
  distinct : (h.start engine files).2.loadedScripts.Pairwise fun p q => Path.same p q = false
  compiled : ∀ a ∈ attempts, a.ran = true ↔ a.Compiled engine files
  /-- A script is a duplicate exactly when an earlier one of its path was read and compiled. -/
  duplicate : ∀ before a after, attempts = before ++ a :: after →
    (a.failure? = some (.duplicate a.path) ↔
      ∃ b ∈ before, Path.same b.path a.path = true ∧ b.Compiled engine files)

theorem Loading.duplicate_iff {rules : Rules} {host : HostNamespace}
    {before after : List LoadAttempt} {a : LoadAttempt}
    (loading : Loading engine files entries (.ofRules rules host) s (before ++ a :: after) sb' s') :
    a.failure? = some (.duplicate a.path) ↔
      ∃ b ∈ before, Path.same b.path a.path = true ∧ b.Compiled engine files := by
  obtain ⟨earlier, s₁, reached⟩ := loading.upTo
  have indexed : a.sandbox.units.WellIndexed :=
    Sandbox.kept_wellIndexed.loading reached UnitTable.wellIndexed_empty
  have paths : a.sandbox.units.paths = ranPaths before := reached.paths_eq
  rw [(loading.made a (by simp)).duplicate_iff, indexed.find_isSome, paths]
  constructor
  · rintro ⟨_, mem, same⟩
    obtain ⟨b, hb, ran, rfl⟩ := LoadAttempt.mem_ranPaths.1 mem
    exact ⟨b, hb, same, (reached.made b hb).ran_iff.1 ran⟩
  · rintro ⟨b, hb, same, compiled⟩
    have ran := (reached.made b hb).ran_iff.2 compiled
    exact ⟨b.path, LoadAttempt.mem_ranPaths.2 ⟨b, hb, ran, rfl⟩, same⟩

/-- An initialization that reports no setup error accounts for every script of its side. -/
theorem start_accounts (engine : Engine) (files : Files) (h : ScriptHost)
    (sound : (h.start engine files).1.setupError = none) :
    ∃ attempts, h.Accounts engine files attempts := by
  obtain ⟨e, failed, -⟩ | ⟨rules, host, s, attempts, sb, s', session, -, loading, report, live,
    rfl⟩ := start_cases engine files h
  · rw [failed] at sound
    cases sound
  · have units : (h.start engine files).2.loadedScripts = session.sandbox.units.paths := by
      rw [loadedScripts, live]
    have indexed : session.sandbox.units.WellIndexed :=
      Sandbox.kept_wellIndexed.loading loading UnitTable.wellIndexed_empty
    refine ⟨attempts, {
      loading := ⟨rules, host, s, _, s', loading⟩
      attempted := by rw [report, ← loading.map_path]; rfl
      skipped := by rw [report]; rfl
      inOrder := by rw [report]; rfl
      loaded := by rw [report]; rfl
      failures := by rw [report]; rfl
      told := loading.told
      units := units.trans loading.paths_eq
      distinct := ?distinct
      compiled := fun a ha => (loading.made a ha).ran_iff
      duplicate := ?duplicate }⟩
    case distinct =>
      rw [units, UnitTable.paths, List.pairwise_map]
      exact indexed.distinct
    case duplicate =>
      rintro before a after rfl
      exact loading.duplicate_iff

/-- Scripts of every fate: one is disabled, one throws, one is not there, one does not compile,
and the last three are there a second time, the first of them under another spelling. -/
def mixed : ScriptHost :=
  let entries : List ModEntry := [⟨"good.rhai", true⟩, ⟨"off.rhai", false⟩, ⟨"throws.rhai", true⟩,
    ⟨"gone.rhai", true⟩, ⟨"broken.rhai", true⟩, ⟨"throws.rhai/.", true⟩, ⟨"gone.rhai", true⟩,
    ⟨"broken.rhai", true⟩]
  .ofConfig { ScriptingConfig.default with maxPlayers := 0, mods := ⟨entries, []⟩ }

def mixedFiles : Files :=
  .ofNodes [(["good.rhai"], .file "let x = 1;".toUTF8 0),
    (["throws.rhai"], .file "throw 1;".toUTF8 0), (["broken.rhai"], .file "let = 1;".toUTF8 0)]

theorem mixed_starts :
    (mixed.start .standard mixedFiles).1.setupError = none ∧
      (mixed.start .standard mixedFiles).1.loaded = ["good.rhai"] ∧
      (mixed.start .standard mixedFiles).1.failures.map (·.label) =
        ["runtime", "compile", "compile", "duplicate", "compile", "compile"] ∧
      (mixed.start .standard mixedFiles).2.loadedScripts = ["good.rhai", "throws.rhai"] := by
  decide +kernel

theorem mixed_accounts :
    (mixed.start .standard mixedFiles).1.setupError = none ∧
      ∃ attempts, mixed.Accounts .standard mixedFiles attempts :=
  ⟨mixed_starts.1, start_accounts .standard mixedFiles mixed mixed_starts.1⟩

end ScriptHost

end ModHost
