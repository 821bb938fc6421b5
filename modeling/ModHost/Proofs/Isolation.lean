import ModHost.Proofs.FixtureRuns
import ModHost.Proofs.HostGlobals
import ModHost.Proofs.HostSteps
import ModHost.Proofs.UnitTables

set_option autoImplicit false

/-!
# Isolation of units

A run of one unit's code leaves the host's globals and every other unit as they were, whatever
the code does and however it ends. Beyond that, the code depends on nothing of the others: what
it answers, and the unit it leaves, follow from the rules, the host's globals, and the runs of
this unit alone, with the player table and the generator that each of them met. So units reach
each other only through the players, the generator, what is registered, and the console, which
no code reads.
-/

namespace ModHost

open Script (Memory Program RunResult Value World)

namespace Sandbox

/-- `Arises engine rules host runs sb`: a session with these rules and globals gets to the
sandbox by these runs, oldest first. -/
inductive Arises (engine : Engine) (rules : Rules) (host : HostNamespace) :
    List UnitRun → Sandbox → Prop
  | new : Arises engine rules host [] (.ofRules rules host)
  | run {runs : List UnitRun} {sb sb' : Sandbox} {run : UnitRun}
      (before : Arises engine rules host runs sb) (ran : sb.Runs engine run sb') :
      Arises engine rules host (runs ++ [run]) sb'

/-- What a run of the unit at a path leaves as it was: the rules, the host's globals, the scope,
and every unit of another path with all that it holds. The registry only gets new entries, which
belong to the unit. -/
structure Spares (path : Path) (sb sb' : Sandbox) : Prop where
  rules : sb'.rules = sb.rules
  host : sb'.host = sb.host
  hostGlobals : ∀ name, sb'.host.get name = sb.host.get name
  units : ∀ other, Path.same path other = false → sb'.units.find other = sb.units.find other
  globals : ∀ other, Path.same path other = false → ∀ name,
    sb'.global other name = sb.global other name
  scope : sb'.activeScope = sb.activeScope
  hooks : ∃ more, sb'.hooks = sb.hooks.extend more ∧
    ∀ r ∈ more, ∃ u, sb'.units.get r.2.unit = some u ∧ u.path = path

variable {engine : Engine} {sb sb' : Sandbox} {run : UnitRun}

theorem get_afterRun {id : Nat} {unit : ScriptUnit} (found : sb.units.get id = some unit)
    (r : RunResult) :
    (sb.afterRun id r).units.get id = some { unit with memory := r.memory } :=
  UnitTable.get_setMemory found r.memory

theorem Spares.of_units {path : Path} (rules : sb'.rules = sb.rules) (host : sb'.host = sb.host)
    (units : ∀ other, Path.same path other = false → sb'.units.find other = sb.units.find other)
    (scope : sb'.activeScope = sb.activeScope)
    (hooks : ∃ more, sb'.hooks = sb.hooks.extend more ∧
      ∀ r ∈ more, ∃ u, sb'.units.get r.2.unit = some u ∧ u.path = path) :
    Spares path sb sb' where
  rules := rules
  host := host
  hostGlobals name := by rw [host]
  units := units
  globals other apart name := by rw [global, global, host, units other apart]
  scope := scope
  hooks := hooks

theorem spares_afterRun (wf : sb.units.WellIndexed) {id : Nat} {unit : ScriptUnit}
    (found : sb.units.get id = some unit) (r : RunResult) :
    Spares unit.path sb (sb.afterRun id r) := by
  refine .of_units rfl rfl (fun other apart => wf.find_setMemory found r.memory apart) rfl
    ⟨r.registered id, rfl, fun entry mem => ?_⟩
  rw [Script.RunResult.unit_registered mem]
  exact ⟨_, get_afterRun found r, rfl⟩

theorem spares_afterRun_add (wf : sb.units.WellIndexed) {path : Path}
    (fresh : sb.units.find path = none) (program : Program) (r : RunResult) :
    Spares path sb ((sb.add path program).afterRun sb.units.length r) := by
  have added : (sb.add path program).units.WellIndexed := wf.insert fresh program _
  have ran := spares_afterRun added (get_add sb path program) r
  refine .of_units rfl rfl (fun other apart => ?_) rfl ran.hooks
  rw [ran.units other apart]
  exact wf.find_insert fresh program _ apart

theorem Runs.spares (wf : sb.units.WellIndexed) (ran : sb.Runs engine run sb') :
    Spares run.path sb sb' := by
  obtain ⟨program, fresh, rfl⟩ | ⟨id, unit, found, path, rfl⟩ := ran.left_cases
  · exact spares_afterRun_add wf fresh program run.result
  · rw [← path]
    exact spares_afterRun wf found run.result

end Sandbox

structure UnitState where
  program : Program
  memory : Memory

def ScriptUnit.state (u : ScriptUnit) : UnitState := ⟨u.program, u.memory⟩

namespace UnitState

def names (host : HostNamespace) (u : UnitState) (name : String) : Option Value :=
  match u.memory.held name with
  | some v => some v
  | none => host.get name

end UnitState

namespace UnitRun

/-- The program that runs, and what the engine answers, told from the unit alone. Only a new
unit runs its top level, and only one that is there its callbacks. -/
def answer? (engine : Engine) (rules : Rules) (host : HostNamespace) (run : UnitRun) :
    Option UnitState → Option (Program × RunResult)
  | none =>
    match run.input with
    | .topLevel program =>
      some (program, engine.runTopLevel (rules.env program (some run.path) host.get) host.seed
        run.world)
    | .callback _ _ => none
  | some u =>
    match run.input with
    | .topLevel _ => none
    | .callback callback args =>
      some (u.program, engine.call (rules.env u.program (some run.path) (u.names host)) u.memory
        run.world callback args)

def given (run : UnitRun) : Path × UnitInput × World := (run.path, run.input, run.world)

def ofUnit (path : Path) (runs : List UnitRun) : List UnitRun :=
  runs.filter fun run => Path.same run.path path

theorem ofUnit_append_own {path : Path} (runs : List UnitRun) {run : UnitRun}
    (own : Path.same run.path path = true) :
    ofUnit path (runs ++ [run]) = ofUnit path runs ++ [run] := by
  simp [ofUnit, own]

theorem ofUnit_append_other {path : Path} (runs : List UnitRun) {run : UnitRun}
    (other : Path.same run.path path = false) :
    ofUnit path (runs ++ [run]) = ofUnit path runs := by
  simp [ofUnit, other]

theorem eq_of_given {run run' : UnitRun} (given : run.given = run'.given)
    (result : run.result = run'.result) : run = run' := by
  obtain ⟨path, input, world, answer⟩ := run
  obtain ⟨path', input', world', answer'⟩ := run'
  simp only [UnitRun.given, Prod.mk.injEq] at given
  obtain ⟨rfl, rfl, rfl⟩ := given
  cases result
  rfl

theorem answer?_of_given (engine : Engine) (rules : Rules) (host : HostNamespace)
    {run run' : UnitRun} (given : run.given = run'.given) (u : Option UnitState) :
    run.answer? engine rules host u = run'.answer? engine rules host u := by
  obtain ⟨path, input, world, answer⟩ := run
  obtain ⟨path', input', world', answer'⟩ := run'
  simp only [UnitRun.given, Prod.mk.injEq] at given
  obtain ⟨rfl, rfl, rfl⟩ := given
  cases u <;> rfl

end UnitRun

/-- `Alone engine rules host runs u`: a unit by itself, with no other around it, answers these
runs as they were answered, and is left as `u`. -/
inductive Alone (engine : Engine) (rules : Rules) (host : HostNamespace) :
    List UnitRun → Option UnitState → Prop
  | new : Alone engine rules host [] none
  | run {runs : List UnitRun} {u : Option UnitState} {run : UnitRun} {program : Program}
      (before : Alone engine rules host runs u)
      (answered : run.answer? engine rules host u = some (program, run.result)) :
      Alone engine rules host (runs ++ [run]) (some ⟨program, run.result.memory⟩)

namespace Sandbox

variable {engine : Engine} {rules : Rules} {host : HostNamespace} {sb sb' : Sandbox}
  {runs : List UnitRun} {run : UnitRun}

def stateAt (sb : Sandbox) (path : Path) : Option UnitState :=
  (sb.units.find path).map ScriptUnit.state

theorem outerNames_enter {id : Nat} {unit : ScriptUnit} (found : sb.units.get id = some unit) :
    (sb.enter id).outerNames = unit.state.names sb.host := by
  funext name
  cases held : unit.memory.held name <;>
    simp only [outerNames, enter, found, Option.bind_some, UnitState.names, ScriptUnit.state, held]

theorem stateAt_afterRun (wf : sb.units.WellIndexed) {id : Nat} {unit : ScriptUnit}
    (found : sb.units.get id = some unit) (r : RunResult) :
    (sb.afterRun id r).stateAt unit.path = some ⟨unit.program, r.memory⟩ := by
  have there := (wf.setMemory id r.memory).find_path (get_afterRun found r)
  exact congrArg (Option.map ScriptUnit.state) there

theorem Runs.answered (wf : sb.units.WellIndexed) (ran : sb.Runs engine run sb') :
    ∃ program, run.answer? engine sb.rules sb.host (sb.stateAt run.path) =
        some (program, run.result) ∧
      sb'.stateAt run.path = some ⟨program, run.result.memory⟩ := by
  cases ran with
  | @topLevel s path program fresh =>
    have added : (sb.add path program).units.WellIndexed := wf.insert fresh program _
    refine ⟨program, ?_, ?_⟩
    · rw [stateAt, fresh]
      rfl
    · rw [runUnit_sandbox]
      exact stateAt_afterRun added (get_add sb path program) _
  | @callback kind args s entry unit found =>
    have here : sb.stateAt unit.path = some unit.state :=
      congrArg (Option.map ScriptUnit.state) (wf.find_path found)
    refine ⟨unit.program, ?_, ?_⟩
    · rw [here]
      simp only [UnitRun.answer?, HookCall.ofState, outerNames_enter found]
      rfl
    · rw [callEntry_sandbox]
      exact stateAt_afterRun wf found _

namespace Arises

theorem wellIndexed (arises : Arises engine rules host runs sb) : sb.units.WellIndexed := by
  induction arises with
  | new => exact UnitTable.wellIndexed_empty
  | run _ ran ih => exact Sandbox.kept_wellIndexed.run ran ih

theorem rules_eq (arises : Arises engine rules host runs sb) : sb.rules = rules := by
  induction arises with
  | new => rfl
  | run before ran ih => exact (ran.spares before.wellIndexed).rules.trans ih

theorem host_eq (arises : Arises engine rules host runs sb) : sb.host = host := by
  induction arises with
  | new => rfl
  | run before ran ih => exact (ran.spares before.wellIndexed).host.trans ih

theorem alone (arises : Arises engine rules host runs sb) (path : Path) :
    Alone engine rules host (UnitRun.ofUnit path runs) (sb.stateAt path) := by
  induction arises with
  | new => exact .new
  | @run runs sb sb' run before ran ih =>
    cases own : Path.same run.path path with
    | false =>
      have spared := (ran.spares before.wellIndexed).units path own
      rw [UnitRun.ofUnit_append_other runs own, stateAt, spared]
      exact ih
    | true =>
      obtain ⟨program, answered, left⟩ := ran.answered before.wellIndexed
      have here (t : Sandbox) : t.stateAt run.path = t.stateAt path :=
        congrArg (Option.map ScriptUnit.state) (t.units.find_congr own)
      rw [here, before.rules_eq, before.host_eq] at answered
      rw [here] at left
      rw [UnitRun.ofUnit_append_own runs own, left]
      exact .run ih answered

end Arises

end Sandbox

theorem Alone.determined {engine : Engine} {rules : Rules} {host : HostNamespace}
    {runs runs' : List UnitRun} {u u' : Option UnitState} (one : Alone engine rules host runs u)
    (two : Alone engine rules host runs' u') (given : runs.map UnitRun.given = runs'.map UnitRun.given) :
    runs = runs' ∧ u = u' := by
  induction one generalizing runs' u' with
  | new =>
    cases two with
    | new => exact ⟨rfl, rfl⟩
    | run => simp at given
  | @run runs u run program before answered ih =>
    cases two with
    | new => simp at given
    | @run runs' u' run' program' before' answered' =>
      rw [List.map_append, List.map_append] at given
      obtain ⟨earlier, last⟩ := List.append_inj' given rfl
      obtain ⟨rfl, rfl⟩ := ih before' earlier
      have last : run.given = run'.given := List.singleton_inj.1 last
      rw [UnitRun.answer?_of_given engine rules host last, answered', Option.some.injEq,
        Prod.mk.injEq] at answered
      obtain ⟨rfl, result⟩ := answered
      rw [UnitRun.eq_of_given last result.symm]
      exact ⟨rfl, rfl⟩

namespace Sandbox

variable {engine : Engine} {sb sb' : Sandbox}

theorem Pass.spares {kind : HookKind} {args : List Value} {entries : List HookEntry}
    {s s' : Scene} {calls : List HookCall}
    (pass : Pass engine kind args entries sb s calls sb' s') (wf : sb.units.WellIndexed) :
    sb'.host = sb.host ∧ ∀ path, (∀ c ∈ calls, Path.same c.unit.path path = false) →
      sb'.units.find path = sb.units.find path := by
  induction pass with
  | done => exact ⟨rfl, fun _ _ => rfl⟩
  | drop _ _ ih => exact ih wf
  | @call entry rest unit sb _ s _ calls found _ ih =>
    have ran : sb.Runs engine _ _ := .callback kind args s found
    have spared := ran.spares wf
    obtain ⟨host, units⟩ := ih (Sandbox.kept_wellIndexed.run ran wf)
    refine ⟨host.trans spared.host, fun path apart => ?_⟩
    rw [units path fun c hc => apart c (List.mem_cons_of_mem _ hc)]
    exact spared.units path (apart _ List.mem_cons_self)

theorem Passes.spares {calls : List (HookKind × HookCall)} (passes : Passes engine sb calls sb')
    (wf : sb.units.WellIndexed) :
    sb'.host = sb.host ∧ ∀ path, (∀ c ∈ calls, Path.same c.2.unit.path path = false) →
      sb'.units.find path = sb.units.find path := by
  induction passes with
  | done => exact ⟨rfl, fun _ _ => rfl⟩
  | @pass kind args sb between sb' s s' now later one _ ih =>
    obtain ⟨hostNow, unitsNow⟩ := one.spares wf
    obtain ⟨host, units⟩ := ih (Sandbox.kept_wellIndexed.pass one wf)
    refine ⟨host.trans hostNow, fun path apart => ?_⟩
    rw [units path fun c hc => apart c (List.mem_append_right _ hc)]
    exact unitsNow path fun c hc =>
      apart (kind, c) (List.mem_append_left _ (List.mem_map_of_mem hc))

end Sandbox

def HostAction.runsHooks : HostAction → Bool
  | .dispatch _ | .dispatchPlayer _ _ | .tick | .runFrame => true
  | _ => false

def HostAction.asks : HostAction → HookAsks
  | .dispatch kind, k, args => k = kind ∧ kind.Takes args
  | .dispatchPlayer kind slot, k, args => k = kind ∧ args = kind.argsFor slot
  | .tick, k, args => k = .update ∧ HookKind.update.Takes args
  | .runFrame, k, args => k.Takes args
  | _, _, _ => False

namespace ScriptHost

theorem hookRuns_of_runsHooks (engine : Engine) (h : ScriptHost) {a : HostAction}
    (hooks : a.runsHooks = true) :
    ∃ report, a.answer engine h = .dispatched report ∧
      HookRuns engine a.asks h (report, a.apply engine h) := by
  cases a with
  | dispatch kind => exact ⟨_, rfl, hookRuns_dispatch engine kind h⟩
  | dispatchPlayer kind slot => exact ⟨_, rfl, hookRuns_dispatchPlayer engine kind slot h⟩
  | tick => exact ⟨_, rfl, hookRuns_dispatch engine .update h⟩
  | runFrame => exact ⟨_, rfl, hookRuns_runFrame engine h⟩
  | _ => cases hooks

theorem hostGlobal_of_live {h : ScriptHost} {session : Session} (live : h.session = some session)
    (name : String) : h.hostGlobal name = session.sandbox.host.get name := by
  rw [hostGlobal, live]
  rfl

theorem scriptGlobal_of_live {h : ScriptHost} {session : Session}
    (live : h.session = some session) (path : Path) (name : String) :
    h.scriptGlobal path name = session.sandbox.global path name := by
  rw [scriptGlobal, live]
  rfl

end ScriptHost

def Sandbox.FromRuns (engine : Engine) (sb : Sandbox) : Prop :=
  ∃ rules host runs, host.Seeded engine ∧ Sandbox.Arises engine rules host runs sb

theorem Sandbox.kept_fromRuns {engine : Engine} :
    Sandbox.Kept engine (Sandbox.FromRuns engine) where
  new rules host seeded := ⟨rules, host, [], seeded, .new⟩
  run := by
    rintro sb sb' run ran ⟨rules, host, runs, seeded, arises⟩
    exact ⟨rules, host, runs ++ [run], seeded, .run arises ran⟩

/-- How the units of an engine's sessions are kept apart. -/
structure Isolation (engine : Engine) : Prop where
  sessions : ∀ {h : ScriptHost} {session : Session}, ScriptHost.Reachable engine h →
    h.session = some session → session.sandbox.FromRuns engine
  /-- A run of a unit's top level or callback, however it ends, leaves the host and the other
  units as they were. -/
  spares : ∀ {sb sb' : Sandbox} {run : UnitRun}, sb.FromRuns engine → sb.Runs engine run sb' →
    Sandbox.Spares run.path sb sb'
  /-- So does whatever the host does to run hooks, for every unit in which it calls none. -/
  hooks : ∀ {h : ScriptHost} {session : Session} {a : HostAction},
    ScriptHost.Reachable engine h → h.session = some session → a.runsHooks = true →
    ∃ calls session', Sandbox.Passes engine session.sandbox calls session'.sandbox ∧
      (a.apply engine h).session = some session' ∧
      (∀ name, (a.apply engine h).hostGlobal name = h.hostGlobal name) ∧
      ∀ path, (∀ c ∈ calls, Path.same c.2.unit.path path = false) →
        ∀ name, (a.apply engine h).scriptGlobal path name = h.scriptGlobal path name
  /-- What the runs of a unit answer and make of it is determined by their inputs and the worlds
  they met, whatever other units there are and whatever these did. -/
  determined : ∀ {rules : Rules} {host : HostNamespace} {runs runs' : List UnitRun}
    {sb sb' : Sandbox} (path : Path),
    Sandbox.Arises engine rules host runs sb → Sandbox.Arises engine rules host runs' sb' →
    (UnitRun.ofUnit path runs).map UnitRun.given = (UnitRun.ofUnit path runs').map UnitRun.given →
    UnitRun.ofUnit path runs = UnitRun.ofUnit path runs' ∧ sb.stateAt path = sb'.stateAt path ∧
      ∀ name, sb.global path name = sb'.global path name

theorem Sandbox.global_eq_of_state {sb sb' : Sandbox} {path : Path} (host : sb.host = sb'.host)
    (state : sb.stateAt path = sb'.stateAt path) (name : String) :
    sb.global path name = sb'.global path name := by
  have told (t : Sandbox) : t.global path name =
      (t.stateAt path).bind fun u => lookupName t.host u.memory name := by
    simp only [global, stateAt, Option.bind_map]
    rfl
  rw [told, told, host, state]

/-- Units are kept apart, for any engine; and no global that the interpreter's sessions copy into
them is a reference that they could share. -/
theorem units_isolated :
    (∀ engine, Isolation engine) ∧
      ∀ h, ScriptHost.Reachable .standard h → ∀ name v, h.hostGlobal name = some v →
        (∃ n, v = .int n) ∨ ∃ players, v = ScriptHost.playerStates players := by
  refine ⟨fun engine => ⟨?sessions, ?spares, ?hooks, ?determined⟩, ?globals⟩
  case sessions =>
    exact fun reached live => reached.lives Sandbox.kept_fromRuns _ live
  case spares =>
    rintro sb sb' run ⟨rules, host, runs, -, arises⟩ ran
    exact ran.spares arises.wellIndexed
  case hooks =>
    intro h session a reached live hooks
    obtain ⟨report, -, runs⟩ := ScriptHost.hookRuns_of_runsHooks engine h hooks
    obtain ⟨calls, tally⟩ := runs.tally
    obtain ⟨session', passes, after⟩ := tally.made session live
    obtain ⟨host, units⟩ :=
      passes.spares (reached.lives Sandbox.kept_wellIndexed session live)
    refine ⟨calls, session', passes, after, fun name => ?_, fun path apart name => ?_⟩
    · rw [ScriptHost.hostGlobal_of_live after, ScriptHost.hostGlobal_of_live live, host]
    · rw [ScriptHost.scriptGlobal_of_live after, ScriptHost.scriptGlobal_of_live live,
        Sandbox.global, Sandbox.global, host, units path apart]
  case determined =>
    intro rules host runs runs' sb sb' path arises arises' given
    obtain ⟨same, state⟩ := (arises.alone path).determined (arises'.alone path) given
    exact ⟨same, state,
      Sandbox.global_eq_of_state (arises.host_eq.trans arises'.host_eq.symm) state⟩
  case globals =>
    intro h reached name v found
    obtain ⟨session, live, held⟩ := Option.bind_eq_some_iff.1 found
    obtain ⟨rules, host, runs, seeded, arises⟩ :=
      reached.lives Sandbox.kept_fromRuns session live
    rw [arises.host_eq] at held
    exact seeded.value held

/-- Two scripts. The second assigns to the host's names and to a name that the first defines, at
its top level and in a callback, which then fails. -/
def meddling : ScriptHost :=
  let first := "let x = 1;"
  let second := "let x = 2; MAX_PLAYERS = 99; gPlayerStates = 5; "
    ++ "hook_event(HOOK_UPDATE, || \x7b x = 3; MAX_PLAYERS += 1; throw 1; \x7d);"
  let config := { ScriptingConfig.default with
    maxPlayers := 0, mods := ⟨[⟨"a.rhai", true⟩, ⟨"b.rhai", true⟩], []⟩ }
  let files : Files :=
    .ofNodes [(["a.rhai"], .file first.toUTF8 0), (["b.rhai"], .file second.toUTF8 0)]
  (HostAction.start files).apply .standard (.ofConfig config)

theorem meddling_runs :
    let after := HostAction.tick.apply .standard meddling
    let text (v : Option Value) := v.map Value.debugText
    meddling.isActive = true ∧ after.failures.map (·.label) = ["runtime"] ∧
      text (after.scriptGlobal "b.rhai" "x") = some "3" ∧
      text (after.scriptGlobal "b.rhai" "MAX_PLAYERS") = some "100" ∧
      text (after.scriptGlobal "a.rhai" "x") = some "1" ∧
      text (after.scriptGlobal "a.rhai" "MAX_PLAYERS") = some "0" ∧
      text (after.hostGlobal "MAX_PLAYERS") = some "0" ∧
      text (after.hostGlobal "gPlayerStates") = some "[]" := by
  decide +kernel

theorem meddling_contained :
    ScriptHost.Reachable .standard meddling ∧ meddling.isActive = true ∧
      ∀ name, (HostAction.tick.apply .standard meddling).hostGlobal name =
        meddling.hostGlobal name := by
  have reached : ScriptHost.Reachable .standard meddling := by
    unfold meddling
    exact .step _ (.new _)
  obtain ⟨active, -⟩ := meddling_runs
  obtain ⟨session, live⟩ := Option.isSome_iff_exists.1 active
  obtain ⟨calls, session', -, -, host, -⟩ :=
    (units_isolated.1 .standard).hooks (a := .tick) reached live rfl
  exact ⟨reached, active, host⟩

end ModHost
