import ModHost.Proofs.HookRuns
import ModHost.Proofs.Loading

set_option autoImplicit false

/-!
# Runs of a host

What can be done to a host, and the hosts that any sequence of it leads to. The sandbox of
a session only ever changes by adding a unit and by running one, so a property that these
two keep holds in every live session.
-/

namespace ModHost

open Script (Program RunResult Value World)

inductive HostAction where
  | configure (config : ScriptingConfig)
  | bind (table : BindingTable)
  | assign (slot : Nat) (player : PlayerState)
  | resize (count : Nat)
  | start (files : Files)
  | shutdown
  | dispatch (kind : HookKind)
  | dispatchPlayer (kind : HookKind) (slot : Nat)
  | tick
  | runFrame
  | reloadIfChanged (files : Files)
  | takeLogs
  | takeFailures

def HostAction.apply (engine : Engine) (h : ScriptHost) : HostAction → ScriptHost
  | configure config => { h with config := config }
  | bind table => h.withBindings table
  | assign slot player => { h with players := h.players.setIfInBounds slot player }
  | resize count =>
    { h with players := (h.players.resize count).1 }.say (h.players.resize count).2
  | start files => (h.start engine files).2
  | shutdown => h.shutdown
  | dispatch kind => (h.dispatch engine kind).2
  | dispatchPlayer kind slot => (h.dispatchPlayer engine kind slot).2
  | tick => (h.tick engine).2
  | runFrame => (h.runFrame engine).2
  | reloadIfChanged files => (h.reloadIfChanged engine files).2
  | takeLogs => h.takeLogs.2
  | takeFailures => h.takeFailures.2

/-- The hosts that can come about. -/
inductive ScriptHost.Reachable (engine : Engine) : ScriptHost → Prop
  | new (config : ScriptingConfig) : Reachable engine (.ofConfig config)
  | step {h : ScriptHost} (a : HostAction) (reached : Reachable engine h) :
      Reachable engine (a.apply engine h)

inductive UnitInput where
  | topLevel (program : Program)
  | callback (callback : Callback) (args : List Value)

/-- One run of a unit's code: what was run, the world it met, and what it answered. -/
structure UnitRun where
  path : Path
  input : UnitInput
  world : World
  result : RunResult

/-- `sb.Runs engine run sb'`: code of a unit runs once, its top level when the unit is added or
one of its callbacks, and ends in any way. -/
inductive Sandbox.Runs (engine : Engine) (sb : Sandbox) : UnitRun → Sandbox → Prop
  | topLevel (s : Scene) {path : Path} (program : Program) (fresh : sb.units.find path = none) :
      Runs engine sb ⟨path, .topLevel program, s.world, sb.topLevelRun engine s path program⟩
        (sb.runUnit engine s path program).2.1
  | callback (kind : HookKind) (args : List Value) (s : Scene) {entry : HookEntry}
      {unit : ScriptUnit} (found : sb.units.get entry.unit = some unit) :
      Runs engine sb ⟨unit.path, .callback entry.callback args, s.world,
          (HookCall.ofState engine args entry unit sb s).result⟩
        (sb.callEntry engine kind args entry unit s).2.1

/-- The globals with which an engine's sessions can begin. -/
def HostNamespace.Seeded (engine : Engine) (host : HostNamespace) : Prop :=
  ∃ rules s maxPlayers constants players,
    seedConstants engine rules .empty s maxPlayers = .ok constants ∧
    host = constants.define ScriptHost.playerStatesGlobal (ScriptHost.playerStates players)

/-- A property that holds of a new sandbox and is kept by every run of a unit's code. -/
structure Sandbox.Kept (engine : Engine) (P : Sandbox → Prop) : Prop where
  new (rules : Rules) (host : HostNamespace) : host.Seeded engine → P (.ofRules rules host)
  run {sb sb' : Sandbox} {run : UnitRun} : sb.Runs engine run sb' → P sb → P sb'

namespace Sandbox

variable {engine : Engine} {P : Sandbox → Prop}

theorem Runs.left_cases {sb sb' : Sandbox} {run : UnitRun} (ran : sb.Runs engine run sb') :
    (∃ program, sb.units.find run.path = none ∧
        sb' = (sb.add run.path program).afterRun sb.units.length run.result) ∨
      ∃ id unit, sb.units.get id = some unit ∧ unit.path = run.path ∧
        sb' = sb.afterRun id run.result := by
  cases ran with
  | @topLevel s path program fresh =>
    exact .inl ⟨program, fresh, runUnit_sandbox engine sb s path program⟩
  | @callback kind args s entry unit found =>
    exact .inr ⟨entry.unit, unit, found, rfl, callEntry_sandbox engine kind args entry unit sb s⟩

theorem Kept.of_afterRun (new : ∀ rules host, P (.ofRules rules host))
    (add : ∀ sb path program, sb.units.find path = none → P sb → P (sb.add path program))
    (run : ∀ sb unit r, (sb.units.get unit).isSome → P sb → P (sb.afterRun unit r)) :
    Kept engine P where
  new rules host _ := new rules host
  run := by
    intro sb sb' step ran holds
    obtain ⟨program, fresh, rfl⟩ | ⟨id, unit, found, -, rfl⟩ := ran.left_cases
    · refine run _ _ _ ?_ (add sb step.path program fresh holds)
      rw [get_add]
      rfl
    · refine run _ _ _ ?_ holds
      rw [found]
      rfl

theorem Kept.load (kept : Kept engine P) (files : Files) (sb : Sandbox) (s : Scene)
    (path : Path) (holds : P sb) : P (sb.load engine files s path).2.1 := by
  obtain ⟨-, loaded⟩ | ⟨-, _, -, loaded⟩ | ⟨fresh, program, -, loaded⟩ :=
    load_cases engine files sb s path
  · rwa [loaded]
  · rwa [loaded]
  · rw [loaded]
    exact kept.run (.topLevel s program fresh) holds

theorem Kept.loading (kept : Kept engine P) {files : Files} {entries : List ModEntry}
    {sb sb' : Sandbox} {s s' : Scene} {attempts : List LoadAttempt}
    (pass : ScriptHost.Loading engine files entries sb s attempts sb' s') (holds : P sb) :
    P sb' := by
  induction pass with
  | done => exact holds
  | skip _ _ ih => exact ih holds
  | load _ _ _ ih => exact ih (kept.load files _ _ _ holds)

theorem Kept.pass (kept : Kept engine P) {kind : HookKind} {args : List Value}
    {entries : List HookEntry} {sb sb' : Sandbox} {s s' : Scene} {calls : List HookCall}
    (pass : Pass engine kind args entries sb s calls sb' s') (holds : P sb) : P sb' := by
  induction pass with
  | done => exact holds
  | drop _ _ ih => exact ih holds
  | call found _ ih => exact ih (kept.run (.callback _ _ _ found) holds)

end Sandbox

namespace ScriptHost

def Lives (P : Sandbox → Prop) (h : ScriptHost) : Prop :=
  ∀ session, h.session = some session → P session.sandbox

theorem buildSession_eq {engine : Engine} {h : ScriptHost} {session : Session}
    {log : List LogEvent} (built : buildSession engine h = (.ok session, log)) :
    ∃ rules constants,
      seedConstants engine rules .empty (h.scene (generatorFor h.config.seed)) h.players.size =
        .ok constants ∧
      session = ⟨h.sessions,
        .ofRules rules (constants.define playerStatesGlobal (playerStates h.players)),
        generatorFor h.config.seed⟩ := by
  unfold buildSession at built
  split at built
  · cases built
  · next rules log' _ =>
    dsimp only at built
    split at built
    · cases built
    · next constants seeded =>
      cases built
      exact ⟨rules, constants, seeded, rfl⟩

theorem buildSession_sandbox {engine : Engine} {h : ScriptHost} {session : Session}
    {log : List LogEvent} (built : buildSession engine h = (.ok session, log)) :
    ∃ rules host, host.Seeded engine ∧ session.sandbox = .ofRules rules host := by
  obtain ⟨rules, constants, seeded, rfl⟩ := buildSession_eq built
  exact ⟨rules, _, ⟨_, _, _, constants, h.players, seeded, rfl⟩, rfl⟩

theorem shutdown_config (h : ScriptHost) : h.shutdown.config = h.config := by
  unfold shutdown
  cases h.session <;> rfl

theorem shutdown_session (h : ScriptHost) : h.shutdown.session = none := by
  unfold shutdown
  split
  · assumption
  · rfl

theorem readied_config (h : ScriptHost) : h.readied.config = h.config := shutdown_config h

theorem readied_session (h : ScriptHost) : h.readied.session = none := shutdown_session h

theorem openSession_loading (engine : Engine) (files : Files) (session : Session)
    (h : ScriptHost) :
    ∃ s attempts sb' s' session',
      Loading engine files h.config.activeMods session.sandbox s attempts sb' s' ∧
      (openSession engine files session h).1 =
        InitReport.empty.extend h.config.activeMods attempts ∧
      (openSession engine files session h).2.session = some session' ∧
      session'.sandbox = sb' := by
  let named := ({ h with sessions := h.sessions + 1 } : ScriptHost).say
    [.info s!"Loading scripts ({h.config.role.label} role):"]
  obtain ⟨attempts, sb', s', loading, result⟩ := loadEntries_loading engine files
    h.config.activeMods .empty named session.sandbox (named.scene session.generator)
  exact ⟨_, attempts, sb', s', _, loading, congrArg Prod.fst result, rfl,
    congrArg (·.2.2.1) result⟩

/-- Starting either fails before any script is loaded, or loads the list of this side into a
new sandbox. -/
theorem start_cases (engine : Engine) (files : Files) (h : ScriptHost) :
    (∃ e, (h.start engine files).1 = { InitReport.empty with setupError := some e } ∧
        (h.start engine files).2.session = none) ∨
      ∃ rules host s attempts sb' s' session, host.Seeded engine ∧
        Loading engine files h.config.activeMods (.ofRules rules host) s attempts sb' s' ∧
        (h.start engine files).1 = InitReport.empty.extend h.config.activeMods attempts ∧
        (h.start engine files).2.session = some session ∧ session.sandbox = sb' := by
  unfold start
  dsimp only
  split
  · next e _ _ => exact .inl ⟨e, rfl, readied_session h⟩
  · next session setupLog built =>
    right
    obtain ⟨rules, host, seeded, fresh⟩ := buildSession_sandbox built
    obtain ⟨s, attempts, sb', s', session', loading, report, live, final⟩ :=
      openSession_loading engine files session (h.readied.say setupLog)
    have mods : (h.readied.say setupLog).config.activeMods = h.config.activeMods :=
      congrArg ScriptingConfig.activeMods (readied_config h)
    rw [mods] at loading report
    rw [fresh] at loading
    exact ⟨rules, host, s, attempts, sb', s', session', seeded, loading, report, live, final⟩

/-- Running hooks in a live session is one pass over the snapshot of its registry, and leaves the
host as the last call does. -/
theorem runHooks_pass (engine : Engine) (kind : HookKind) (args : List Value) (h : ScriptHost)
    {session : Session} (live : h.session = some session) :
    ∃ calls s' session',
      Sandbox.Pass engine kind args (session.sandbox.hooks.snapshot kind) session.sandbox
        (h.scene session.generator) calls session'.sandbox s' ∧
      (h.runHooks engine kind args).1 =
        ⟨calls.length, calls.filterMap (HookCall.failure? kind)⟩ ∧
      (h.runHooks engine kind args).2.session = some session' ∧
      (h.runHooks engine kind args).2.players = s'.world.players ∧
      (h.runHooks engine kind args).2.aborted = s'.aborted := by
  obtain ⟨calls, pass, counted⟩ :=
    Sandbox.dispatch_pass engine kind args session.sandbox (h.scene session.generator)
  unfold runHooks
  rw [live]
  exact ⟨calls, _, { session with sandbox := _, generator := _ }, pass, counted, rfl, rfl, rfl⟩

theorem runHooks_none (engine : Engine) (kind : HookKind) (args : List Value) (h : ScriptHost)
    (dead : h.session = none) : h.runHooks engine kind args = (.empty, h) := by
  unfold runHooks
  rw [dead]

section Lives

variable {P : Sandbox → Prop} {engine : Engine} {h : ScriptHost}

theorem lives_of_session_eq {h' : ScriptHost} (same : h'.session = h.session) (lives : h.Lives P) :
    h'.Lives P := fun session live => lives session (same ▸ live)

theorem lives_of_none (dead : h.session = none) : h.Lives P := by
  intro session live
  rw [dead] at live
  cases live

theorem lives_runHooks (kept : Sandbox.Kept engine P) (kind : HookKind) (args : List Value)
    (lives : h.Lives P) : (h.runHooks engine kind args).2.Lives P := by
  cases live : h.session with
  | none => rwa [runHooks_none engine kind args h live]
  | some session =>
    obtain ⟨calls, s', session', pass, _, after, _⟩ := runHooks_pass engine kind args h live
    intro found same
    rw [after] at same
    cases same
    exact kept.pass pass (lives session live)

theorem HookRuns.lives (kept : Sandbox.Kept engine P) {asks : HookAsks}
    {left : DispatchReport × ScriptHost} (runs : HookRuns engine asks h left)
    (lives : h.Lives P) : left.2.Lives P := by
  induction runs with
  | nothing | ignored => exact lives
  | hooks kind args _ => exact lives_runHooks kept kind args lives
  | merge _ _ first second => exact second (first lives)

theorem lives_start (kept : Sandbox.Kept engine P) (files : Files) :
    (h.start engine files).2.Lives P := by
  obtain ⟨e, _, dead⟩ | ⟨rules, host, s, attempts, sb', s', session, seeded, loading, _, live,
    final⟩ := start_cases engine files h
  · exact lives_of_none dead
  · intro found same
    rw [live] at same
    cases same
    rw [final]
    exact kept.loading loading (kept.new rules host seeded)

theorem lives_reloadIfChanged (kept : Sandbox.Kept engine P) (files : Files) (lives : h.Lives P) :
    (h.reloadIfChanged engine files).2.Lives P := by
  unfold reloadIfChanged
  split
  · exact lives_start kept files
  · exact lives

/-- A property that a new sandbox has and that adding and running units keeps holds in every
live session that can come about. -/
theorem Reachable.lives (kept : Sandbox.Kept engine P) (reached : Reachable engine h) : h.Lives P := by
  induction reached with
  | new config => exact lives_of_none rfl
  | @step h a _ ih =>
    cases a with
    | configure | bind | assign | resize | takeLogs | takeFailures =>
      exact lives_of_session_eq rfl ih
    | start files => exact lives_start kept files
    | shutdown => exact lives_of_none (shutdown_session h)
    | dispatch kind => exact (hookRuns_dispatch engine kind h).lives kept ih
    | dispatchPlayer kind slot => exact (hookRuns_dispatchPlayer engine kind slot h).lives kept ih
    | tick => exact (hookRuns_dispatch engine .update h).lives kept ih
    | runFrame => exact (hookRuns_runFrame engine h).lives kept ih
    | reloadIfChanged files => exact lives_reloadIfChanged kept files ih

end Lives

end ScriptHost

/-- Every registered callback belongs to a unit of the sandbox. -/
def Sandbox.Owned (sb : Sandbox) : Prop :=
  ∀ kind, ∀ e ∈ sb.hooks.snapshot kind, (sb.units.get e.unit).isSome

theorem Script.RunResult.unit_registered {r : RunResult} {unit : Nat}
    {entry : HookKind × HookEntry} (mem : entry ∈ r.registered unit) : entry.2.unit = unit := by
  simp only [Script.RunResult.registered, List.mem_filterMap] at mem
  obtain ⟨e, _, made⟩ := mem
  cases e with
  | output | debug => cases made
  | hook => cases made; rfl

theorem UnitTable.isSome_get_add (sb : Sandbox) (path : Path) (program : Program) (id : Nat)
    (found : (sb.units.get id).isSome) : ((sb.add path program).units.get id).isSome := by
  obtain ⟨u, hu⟩ := Option.isSome_iff_exists.1 found
  have bound : id < sb.units.units.length := (List.getElem?_eq_some_iff.1 hu).1
  have same : (sb.add path program).units.get id = sb.units.get id :=
    List.getElem?_append_left bound
  rwa [same]

theorem Sandbox.kept_owned {engine : Engine} : Sandbox.Kept engine Sandbox.Owned := by
  refine .of_afterRun ?new ?add ?run
  case new =>
    exact fun _ _ _ _ none => absurd none List.not_mem_nil
  case add =>
    exact fun sb path program _ owned kind e he =>
      UnitTable.isSome_get_add sb path program _ (owned kind e he)
  case run =>
    intro sb unit result found owned kind e mem
    have same : (sb.afterRun unit result).units.scripts = sb.units.scripts :=
      UnitTable.scripts_setMemory _ _ _
    rw [UnitTable.isSome_get same]
    rw [afterRun, HookRegistry.snapshot_extend] at mem
    rcases List.mem_append.1 mem with old | new
    · exact owned kind e old
    · have unit_eq := Script.RunResult.unit_registered (mem_entriesOf.1 new)
      rwa [unit_eq]

theorem Sandbox.Pass.map_entry_of_owned {engine : Engine} {kind k : HookKind} {args : List Value}
    {sb sb' : Sandbox} {s s' : Scene} {calls : List HookCall} (owned : sb.Owned)
    (pass : Pass engine kind args (sb.hooks.snapshot k) sb s calls sb' s') :
    calls.map (·.entry) = sb.hooks.snapshot k := by
  rw [pass.map_entry, List.filter_eq_self]
  intro e he
  exact owned k e he

end ModHost
