import ModHost.Proofs.Isolation

set_option autoImplicit false

/-!
# Owners of hooks

The owner of registrations and the active scope are set around each run of a unit and put back
after it, however the run ends. So between actions a session has neither, and its registry is an
account of its runs: it lists what the runs of its units have registered, in their order, each
under the unit whose code it was, and this unit is still there. No dispatch ever finds a callback
without its unit, and a frame's update calls as many callbacks as are counted for it.
-/

namespace ModHost

open Script (Memory Program RunResult Value Emission)

abbrev Registration := Path × Callback

def UnitRun.registrations (run : UnitRun) (kind : HookKind) : List Registration :=
  run.result.emissions.filterMap fun
    | .hook k name given => if k = kind then some (run.path, ⟨name, given⟩) else none
    | _ => none

theorem UnitRun.mem_registrations {run : UnitRun} {kind : HookKind} {path : Path}
    {callback : Callback} :
    (path, callback) ∈ run.registrations kind ↔
      run.path = path ∧ .hook kind callback.name callback.given ∈ run.result.emissions := by
  simp only [registrations, List.mem_filterMap]
  constructor
  · rintro ⟨e, mem, made⟩
    cases e with
    | output | debug => cases made
    | hook k name given =>
      obtain ⟨rfl, same⟩ := Option.ite_none_right_eq_some.1 made
      cases same
      exact ⟨rfl, mem⟩
  · rintro ⟨rfl, mem⟩
    exact ⟨_, mem, if_pos rfl⟩

theorem UnitRun.registrations_eq (run : UnitRun) (kind : HookKind) (id : Nat) :
    run.registrations kind =
      (entriesOf kind (run.result.registered id)).map fun e => (run.path, e.callback) := by
  rw [registrations, entriesOf, RunResult.registered, List.filterMap_filterMap,
    List.map_filterMap]
  congr 1
  funext e
  cases e with
  | output | debug => rfl
  | hook k name given =>
    by_cases same : k = kind <;> simp [Script.Emission.registration?, same]

namespace Sandbox

variable {engine : Engine} {sb sb' : Sandbox} {run : UnitRun}

/-- The callbacks of a kind, each with the path of its unit, if it has one. -/
def registrations (sb : Sandbox) (kind : HookKind) : List (Option Path × Callback) :=
  (sb.hooks.snapshot kind).map fun e => ((sb.units.get e.unit).map (·.path), e.callback)

theorem registrations_add (owned : sb.Owned) (path : Path) (program : Program) (kind : HookKind) :
    (sb.add path program).registrations kind = sb.registrations kind := by
  refine List.map_congr_left fun e mem => ?_
  obtain ⟨unit, found⟩ := Option.isSome_iff_exists.1 (owned kind e mem)
  have bound : e.unit < sb.units.units.length := (List.getElem?_eq_some_iff.1 found).1
  have same : (sb.add path program).units.get e.unit = sb.units.get e.unit :=
    List.getElem?_append_left bound
  rw [same]

theorem registrations_afterRun {id : Nat} {unit : ScriptUnit}
    (found : sb.units.get id = some unit) (r : RunResult) (kind : HookKind) :
    (sb.afterRun id r).registrations kind = sb.registrations kind ++
      (entriesOf kind (r.registered id)).map fun e => (some unit.path, e.callback) := by
  have paths (i : Nat) : ((sb.afterRun id r).units.get i).map (·.path) =
      (sb.units.get i).map (·.path) := by
    have scripts := UnitTable.get_script (UnitTable.scripts_setMemory sb.units id r.memory) i
    have told := congrArg (Option.map (·.2.1)) scripts
    rwa [Option.map_map, Option.map_map] at told
  have grown : (sb.afterRun id r).hooks.snapshot kind =
      sb.hooks.snapshot kind ++ entriesOf kind (r.registered id) :=
    HookRegistry.snapshot_extend sb.hooks _ kind
  unfold registrations
  rw [grown, List.map_append]
  congr 1
  · exact List.map_congr_left fun e _ => by rw [paths]
  · refine List.map_congr_left fun e mem => ?_
    have owner : e.unit = id := Script.RunResult.unit_registered (mem_entriesOf.1 mem)
    rw [paths, owner, found]
    rfl

theorem Runs.registrations_eq (owned : sb.Owned) (ran : sb.Runs engine run sb')
    (kind : HookKind) :
    sb'.registrations kind =
      sb.registrations kind ++ (run.registrations kind).map (Prod.map some id) := by
  obtain ⟨program, -, rfl⟩ | ⟨id, unit, found, path, rfl⟩ := ran.left_cases
  · rw [registrations_afterRun (get_add sb run.path program), registrations_add owned,
      run.registrations_eq kind sb.units.length, List.map_map]
    rfl
  · rw [registrations_afterRun found, run.registrations_eq kind id, List.map_map, path]
    rfl

theorem Arises.owned {rules : Rules} {host : HostNamespace} {runs : List UnitRun}
    (arises : Arises engine rules host runs sb) : sb.Owned := by
  induction arises with
  | new => exact fun _ _ none => absurd none List.not_mem_nil
  | run _ ran ih => exact Sandbox.kept_owned.run ran ih

theorem Arises.registrations_eq {rules : Rules} {host : HostNamespace} {runs : List UnitRun}
    (arises : Arises engine rules host runs sb) (kind : HookKind) :
    sb.registrations kind =
      (runs.flatMap (·.registrations kind)).map (Prod.map some id) := by
  induction arises with
  | new => rfl
  | run before ran ih =>
    rw [ran.registrations_eq before.owned, ih, List.flatMap_append, List.map_append,
      List.flatMap_singleton]

def Idle (sb : Sandbox) : Prop := sb.hooks.active = none ∧ sb.activeScope = none

theorem kept_idle : Sandbox.Kept engine Idle :=
  .of_afterRun (fun _ _ => ⟨rfl, rfl⟩) (fun _ _ _ _ idle => idle) (fun _ _ _ _ idle => idle)

/-- A callback belongs to a unit of the table that has registered it in one of these runs. -/
def HasOwner (sb : Sandbox) (runs : List UnitRun) (kind : HookKind) (e : HookEntry) : Prop :=
  ∃ unit, sb.units.get e.unit = some unit ∧
    ∃ run ∈ runs, run.path = unit.path ∧
      .hook kind e.callback.name e.callback.given ∈ run.result.emissions

/-- A session's sandbox between actions. For each kind its registry lists what its runs have
registered, oldest first, each under a unit that is there. -/
structure AtRest (engine : Engine) (sb : Sandbox) : Prop where
  idle : sb.Idle
  account : ∃ rules host runs, Arises engine rules host runs sb ∧
    (∀ kind, sb.registrations kind =
      (runs.flatMap (·.registrations kind)).map (Prod.map some id)) ∧
    ∀ kind, ∀ e ∈ sb.hooks.snapshot kind, sb.HasOwner runs kind e

theorem hasOwner_of_account {runs : List UnitRun} {kind : HookKind}
    (account : sb.registrations kind =
      (runs.flatMap (·.registrations kind)).map (Prod.map some id))
    {e : HookEntry} (mem : e ∈ sb.hooks.snapshot kind) : sb.HasOwner runs kind e := by
  have listed : ((sb.units.get e.unit).map (·.path), e.callback) ∈ sb.registrations kind :=
    List.mem_map_of_mem mem
  rw [account] at listed
  obtain ⟨⟨path, callback⟩, made, same⟩ := List.mem_map.1 listed
  simp only [Prod.map, id, Prod.mk.injEq] at same
  obtain ⟨owner, rfl⟩ := same
  obtain ⟨unit, found, rfl⟩ := Option.map_eq_some_iff.1 owner.symm
  obtain ⟨run, ran, registered⟩ := List.mem_flatMap.1 made
  obtain ⟨path, emitted⟩ := UnitRun.mem_registrations.1 registered
  exact ⟨unit, found, run, ran, path, emitted⟩

theorem atRest (idle : sb.Idle) (made : sb.FromRuns engine) : sb.AtRest engine := by
  obtain ⟨rules, host, runs, -, arises⟩ := made
  exact ⟨idle, rules, host, runs, arises, arises.registrations_eq,
    fun kind e mem => hasOwner_of_account (arises.registrations_eq kind) mem⟩

/-- `Served engine asks sb rounds sb'`: hooks are run any number of times, each time for a kind and
with arguments that are asked for; every callback that is registered for the kind is called then, in
order, and none is dropped. -/
inductive Served (engine : Engine) (asks : HookAsks) :
    Sandbox → List (List HookCall) → Sandbox → Prop
  | done (sb : Sandbox) : Served engine asks sb [] sb
  | round {kind : HookKind} {args : List Value} {sb between sb' : Sandbox} {s s' : Scene}
      {calls : List HookCall} {rounds : List (List HookCall)} (asked : asks kind args)
      (pass : Pass engine kind args (sb.hooks.snapshot kind) sb s calls between s')
      (whole : calls.map (·.entry) = sb.hooks.snapshot kind)
      (later : Served engine asks between rounds sb') :
      Served engine asks sb (calls :: rounds) sb'

theorem Served.append {asks : HookAsks} {between : Sandbox} {rounds more : List (List HookCall)}
    (first : Served engine asks sb rounds between) (second : Served engine asks between more sb') :
    Served engine asks sb (rounds ++ more) sb' := by
  induction first with
  | done => exact second
  | round asked pass whole _ ih => exact .round asked pass whole (ih second)

end Sandbox

namespace ScriptHost

variable {engine : Engine} {h : ScriptHost}

theorem HookRuns.served {asks : HookAsks} {left : DispatchReport × ScriptHost}
    (runs : HookRuns engine asks h left) (owned : h.Lives Sandbox.Owned) {session : Session}
    (live : h.session = some session) :
    ∃ rounds session', left.2.session = some session' ∧
      Sandbox.Served engine asks session.sandbox rounds session'.sandbox ∧
      left.1.invoked = rounds.flatten.length := by
  induction runs generalizing session with
  | nothing h | ignored h => exact ⟨[], session, live, .done _, rfl⟩
  | hooks kind args asked h =>
    obtain ⟨calls, s', session', pass, counted, after, -⟩ := runHooks_pass engine kind args h live
    have whole := pass.map_entry_of_owned (owned session live)
    refine ⟨[calls], session', after, .round asked pass whole (.done _), ?_⟩
    rw [counted, List.flatten_singleton]
  | merge runs _ first second =>
    obtain ⟨rounds, between, stays, served, invoked⟩ := first owned live
    obtain ⟨more, session', after, rest, counted⟩ :=
      second (runs.lives Sandbox.kept_owned owned) stays
    refine ⟨rounds ++ more, session', after, served.append rest, ?_⟩
    rw [DispatchReport.merge, invoked, counted, List.flatten_append, List.length_append]

theorem tick_invoked (owned : h.Lives Sandbox.Owned) :
    (h.tick engine).1.invoked = h.hookCount .update := by
  have once : h.tick engine = h.runHooks engine .update [] := rfl
  rw [once, hookCount]
  cases live : h.session with
  | none =>
    rw [runHooks_none engine .update [] h live]
    rfl
  | some session =>
    obtain ⟨calls, _, _, pass, counted, -⟩ := runHooks_pass engine .update [] h live
    have whole := congrArg List.length (pass.map_entry_of_owned (owned session live))
    rw [List.length_map, ← HookRegistry.count_eq] at whole
    exact (congrArg DispatchReport.invoked counted).trans whole

/-- Between actions, also after runs that have failed, no unit owns registrations and no scope is
active, and every callback of the live session belongs to a unit that is there and whose own code
has registered it. So whatever runs hooks calls every callback that is registered at the moment,
drops none, and counts them all; and the update calls as many as are registered for it. -/
theorem hooks_owned (engine : Engine) {h : ScriptHost} (reached : Reachable engine h) :
    (∀ session, h.session = some session → session.sandbox.AtRest engine ∧
      ∀ a : HostAction, a.runsHooks = true → ∃ report rounds session',
        a.answer engine h = .dispatched report ∧
        (a.apply engine h).session = some session' ∧
        Sandbox.Served engine a.asks session.sandbox rounds session'.sandbox ∧
        report.invoked = rounds.flatten.length) ∧
    (h.tick engine).1.invoked = h.hookCount .update := by
  have owned := reached.lives Sandbox.kept_owned
  refine ⟨fun session live => ⟨?_, fun a hooks => ?_⟩, tick_invoked owned⟩
  · have idle := reached.lives Sandbox.kept_idle session live
    exact Sandbox.atRest idle (reached.lives Sandbox.kept_fromRuns session live)
  · obtain ⟨report, answered, runs⟩ := hookRuns_of_runsHooks engine h hooks
    obtain ⟨rounds, session', after, served, counted⟩ := runs.served owned live
    exact ⟨report, rounds, session', answered, after, served, counted⟩

/-- A host on which everything has failed: its script registers a callback and throws, and in the
frame that has run the callback registers another and throws too. -/
def faltering : ScriptHost :=
  let text := "hook_event(HOOK_UPDATE, || \x7b "
    ++ "hook_event(HOOK_UPDATE, || \x7b \x7d); throw 1; \x7d); throw 2;"
  let config := { ScriptingConfig.default with
    maxPlayers := 0, mods := ⟨[⟨"a.rhai", true⟩], []⟩ }
  let files : Files := .ofNodes [(["a.rhai"], .file text.toUTF8 0)]
  HostAction.runFrame.apply .standard ((HostAction.start files).apply .standard (.ofConfig config))

theorem faltering_runs :
    faltering.isActive = true ∧ faltering.failures.map (·.label) = ["runtime", "runtime"] ∧
      faltering.hookCount .update = 2 := by
  decide +kernel

theorem faltering_owned :
    Reachable .standard faltering ∧ (faltering.tick .standard).1.invoked = 2 ∧
      ∃ session, faltering.session = some session ∧ session.sandbox.AtRest .standard := by
  have reached : Reachable .standard faltering := by
    unfold faltering
    exact .step _ (.step _ (.new _))
  obtain ⟨active, -, count⟩ := faltering_runs
  obtain ⟨session, live⟩ := Option.isSome_iff_exists.1 active
  obtain ⟨rests, invoked⟩ := hooks_owned .standard reached
  exact ⟨reached, invoked.trans count, session, live, (rests session live).1⟩

end ScriptHost

end ModHost
