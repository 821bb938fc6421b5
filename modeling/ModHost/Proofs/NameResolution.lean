import ModHost.Proofs.Isolation
import ModHost.Proofs.ScopeNames

set_option autoImplicit false

/-!
# Resolution of names

A function of a script has its parameters and its locals. Any other name is looked up outside: by a
callback in the memory of its unit and then among the host's globals, and by code that runs for a
unit's top level among the host's globals alone. A name that is not found there can still be that of
a function of the script. The host has a lookup of its own for the globals of a unit, which is
written without the machine. The two agree at every moment of a run of a callback, and in both cases
what is found cannot be assigned.
-/

namespace ModHost

open Script (Run Machine Env Value Variable Memory Position Signal Expr Stmt Program FnDef)

namespace Script

def Machine.content (m : Machine) : Value → Value
  | .shared c => (m.cells.getD c ⟨.unit, false⟩).value
  | v => v

namespace Run

theorem run_flat (v : Value) (env : Env) (m : Machine) : flat v env m = .ok (m.content v) m := by
  cases v <;> rfl

end Run

open Run

def Machine.scoped? (m : Machine) (name : String) : Option (Nat × Value × Bool) := do
  let i ← m.vars.findIdx? (·.name = name)
  let v ← m.vars[i]?
  match v.value with
  | .shared c => some (i, v.value, (m.cells.getD c ⟨.unit, false⟩).isConst)
  | value => some (i, value, v.isConst)

theorem run_scoped? (name : String) (env : Env) (m : Machine) :
    variableNamed? name env m = .ok (m.scoped? name) m := by
  have got : (get : Run Machine) env m = .ok m m := rfl
  unfold variableNamed? Machine.scoped?
  rw [run_bind, got]
  dsimp only
  cases m.vars.findIdx? (·.name = name) with
  | none => rfl
  | some i =>
    dsimp only [Option.bind_eq_bind, Option.bind_some]
    cases m.vars[i]? with
    | none => rfl
    | some v =>
      obtain ⟨_, value, _⟩ := v
      cases value <;> rfl

/-- What a name that is no variable stands for: what is found outside, which is constant, or else
the function of the program that has the name, unless the parser has found a local of this name. -/
def Program.resolved (p : Program) (name : String) (isLocal : Bool) (outside : Option Value) :
    Option Found :=
  match outside with
  | some v => some ⟨v, true, none⟩
  | none =>
    if !isLocal && p.functions.any (·.name = name) then some ⟨.fn name [], false, none⟩ else none

theorem Program.resolved_place {p : Program} {name : String} {isLocal : Bool}
    {outside : Option Value} {found : Found}
    (stands : p.resolved name isLocal outside = some found) : found.place = none := by
  unfold resolved at stands
  split at stands
  · cases stands
    rfl
  · split at stands
    · cases stands
      rfl
    · cases stands

def Machine.means? (m : Machine) (env : Env) (name : String) (isLocal : Bool) : Option Found :=
  match m.scoped? name with
  | some (i, v, isConst) => some ⟨v, isConst, some i⟩
  | none => env.program.resolved name isLocal ((env.outer name).map m.content)

theorem run_lookup (name : String) (isLocal : Bool) (pos : Position) (env : Env) (m : Machine) :
    lookupVariable name isLocal pos env m =
      match m.means? env name isLocal with
      | some found => .ok found m
      | none => .error (.fault (.raised (.variableNotFound name) pos)) m := by
  unfold lookupVariable Machine.means? Program.resolved
  rw [run_bind, run_scoped?]
  dsimp only
  cases m.scoped? name with
  | some held => rfl
  | none =>
    dsimp only
    rw [run_bind]
    change (match env.outer name with | some v => _ | none => _ : Run Found) env m = _
    cases env.outer name with
    | some v =>
      dsimp only [Option.map_some]
      rw [run_bind, run_flat]
      rfl
    | none =>
      dsimp only [Option.map_none]
      split <;> rfl

theorem Machine.Lacks.scoped? {name : String} {m : Machine} (lacks : m.Lacks name) :
    m.scoped? name = none := by
  have missing : m.vars.findIdx? (·.name = name) = none := by
    rw [List.findIdx?_eq_none_iff]
    intro v mem
    exact decide_eq_false (lacks v mem)
  unfold Machine.scoped?
  rw [missing]
  rfl

theorem Machine.Lacks.means? {name : String} {m : Machine} (lacks : m.Lacks name) (env : Env)
    (isLocal : Bool) : m.means? env name isLocal =
      env.program.resolved name isLocal ((env.outer name).map m.content) := by
  rw [Machine.means?, lacks.scoped?]

/-- What follows when a machine makes one more operation, for which the limit may leave no room. -/
def afterTick {α : Type} (env : Env) (m : Machine) (pos : Position)
    (rest : Machine → EStateM.Result Signal Machine α) : EStateM.Result Signal Machine α :=
  if env.limit = 0 ∨ m.operations + 1 ≤ env.limit then rest m.counted
  else .error (.fault (.raised .tooManyOperations pos)) m.counted

theorem run_tick_bind {α : Type} (pos : Position) (r : Run α) (env : Env) (m : Machine) :
    (do tick pos; r) env m = afterTick env m pos (r env) := by
  rw [run_bind, run_tick]
  unfold afterTick Machine.counted
  dsimp only
  by_cases room : env.limit = 0 ∨ m.operations + 1 ≤ env.limit
  · rw [if_pos room, if_pos room]
  · rw [if_neg room, if_neg room]

theorem run_tick_of {α : Type} {pos : Position} {r : Run α} {env : Env} {m : Machine}
    {rest : Machine → EStateM.Result Signal Machine α} (each : ∀ m, r env m = rest m) :
    (do tick pos; r) env m = afterTick env m pos rest := by
  rw [run_tick_bind, funext each]

/-- Reading the name gives what is found outside, and else the function of the script that has the
name, without a place to assign to; as an expression it takes one operation. -/
structure Reads (env : Env) (m : Machine) (name : String) (outside : Option Value) : Prop where
  found (isLocal : Bool) (pos : Position) : lookupVariable name isLocal pos env m =
    match env.program.resolved name isLocal outside with
    | some found => .ok found m
    | none => .error (.fault (.raised (.variableNotFound name) pos)) m
  value (fuel : Nat) (isLocal : Bool) (pos : Position) :
    evalRaw (fuel + 1) (.var name isLocal pos) env m = afterTick env m pos fun m =>
      match env.program.resolved name isLocal outside with
      | some found => .ok found.value m
      | none => .error (.fault (.raised (.variableNotFound name) pos)) m

theorem reads_outer {env : Env} {m : Machine} {name : String} (lacks : m.Lacks name) :
    Reads env m name ((env.outer name).map m.content) where
  found isLocal pos := by rw [run_lookup, lacks.means?]
  value fuel isLocal pos := by
    have counted : m.counted.Lacks name := lacks
    unfold evalRaw
    refine (run_tick_bind _ _ env m).trans ?_
    unfold afterTick
    split
    · refine (run_bind _ _ env m.counted).trans ?_
      have content : m.counted.content = m.content := rfl
      rw [run_lookup, counted.means?, content]
      cases env.program.resolved name isLocal ((env.outer name).map m.content) <;> rfl
    · rfl

def assignmentFault (env : Env) (name : String) (isLocal : Bool) : Cause :=
  if (env.program.resolved name isLocal (env.outer name)).isSome then .constantAssigned name
  else .variableNotFound name

/-- Where the name is no variable, an assignment to it does not come about: its value is evaluated,
and then the assignment fails, for this reason or for want of operations, and has changed
nothing. -/
def RefusesAssignment (env : Env) (name : String) : Prop :=
  ∀ (fuel : Nat) (op : Option String) (isLocal : Bool) (place pos : Position) (rhs : Expr)
    (m : Machine), m.Lacks name →
    evalStmt (fuel + 1) (.assign op (.var name isLocal place) rhs pos) env m =
      afterTick env m pos fun m =>
        match evalExpr fuel rhs env m with
        | .error s m' => .error s m'
        | .ok _ m' => afterTick env m' place fun m' =>
          .error (.fault (.raised (assignmentFault env name isLocal) place)) m'

theorem refusesAssignment (env : Env) (name : String) : RefusesAssignment env name := by
  intro fuel op isLocal place pos rhs m lacks
  unfold evalStmt
  refine (run_tick_bind _ _ env m).trans ?_
  change afterTick env m pos _ = _
  unfold afterTick
  by_cases room : env.limit = 0 ∨ m.operations + 1 ≤ env.limit
  · rw [if_pos room, if_pos room]
    refine (run_bind _ _ env m.counted).trans ?_
    dsimp only
    cases evaluated : evalExpr fuel rhs env m.counted with
    | error s m' => rfl
    | ok x m' =>
      have counted : m'.counted.Lacks name := by
        have still := staysWithout_expr fuel rhs env m.counted lacks
        unfold left at still
        rwa [evaluated] at still
      refine (run_tick_bind _ _ env m').trans ?_
      unfold afterTick
      dsimp only
      split
      · refine (run_bind _ _ env m'.counted).trans ?_
        rw [run_lookup, counted.means?, assignmentFault]
        cases env.outer name with
        | some v => rfl
        | none =>
          dsimp only [Option.map_none]
          cases stands : env.program.resolved name isLocal none with
          | none => rfl
          | some found =>
            dsimp only
            rw [Program.resolved_place stands]
            rfl
      · rfl
  · rw [if_neg room, if_neg room]

end Script

def Script.callbackRun (callback : Callback) (args : List Value) : Run Value := do
  let (v, _) ← Script.callPointer Script.runFuel callback.name callback.given args none .unknown
  Run.flat v

theorem Script.memory_runCallback (env : Env) (memory : Memory) (world : Script.World)
    (callback : Callback) (args : List Value) :
    (Script.runCallback env memory world callback.name callback.given args).memory =
      ⟨memory.vars, ((Script.callbackRun callback args).left env
        (Script.machineFor [] memory.cells none world)).cells⟩ := by
  change (Script.finish false (fun _ => memory.vars) ((Script.callbackRun callback args) env
    (Script.machineFor [] memory.cells none world))).memory = _
  unfold Script.finish Run.left
  cases (Script.callbackRun callback args) env (Script.machineFor [] memory.cells none world) <;>
    rfl

namespace Sandbox

def callbackEnv (sb : Sandbox) (id : Nat) (u : ScriptUnit) : Env :=
  sb.rules.env u.program (some u.path) (sb.enter id).outerNames

def topLevelEnv (sb : Sandbox) (path : Path) (program : Program) : Env :=
  sb.rules.env program (some path) sb.host.get

/-- The sandbox at a moment of a run of a callback: the unit still has the variables with which the
run began, and the captured ones among them have the content of this moment. -/
def during (sb : Sandbox) (id : Nat) (u : ScriptUnit) (m : Machine) : Sandbox :=
  { sb with units := sb.units.setMemory id ⟨u.memory.vars, m.cells⟩ }

variable {sb : Sandbox} {id : Nat} {u : ScriptUnit}

theorem global_during (wf : sb.units.WellIndexed) (found : sb.units.get id = some u) (m : Machine)
    (name : String) :
    (sb.during id u m).global u.path name =
      match u.memory.held name with
      | some v => some (m.content v)
      | none => sb.host.get name := by
  have there := (wf.setMemory id ⟨u.memory.vars, m.cells⟩).find_path
    (UnitTable.get_setMemory found ⟨u.memory.vars, m.cells⟩)
  have held : (⟨u.memory.vars, m.cells⟩ : Memory).lookup name =
      (u.memory.held name).map m.content := by
    change (u.memory.held name).map _ = _
    cases u.memory.held name with
    | none => rfl
    | some v => cases v <;> rfl
  unfold global
  change ((sb.units.setMemory id ⟨u.memory.vars, m.cells⟩).find u.path).bind _ = _
  rw [there, Option.bind_some, lookupName, held]
  cases u.memory.held name <;> rfl

theorem outer_callbackEnv (found : sb.units.get id = some u) :
    (sb.callbackEnv id u).outer = u.state.names sb.host := outerNames_enter found

theorem FromRuns.wellIndexed {engine : Engine} (arisen : sb.FromRuns engine) :
    sb.units.WellIndexed := by
  obtain ⟨_, _, _, -, arises⟩ := arisen
  exact arises.wellIndexed

theorem FromRuns.content_get (arisen : sb.FromRuns .standard) (m : Machine) (name : String) :
    (sb.host.get name).map m.content = sb.host.get name := by
  obtain ⟨_, host, _, seeded, arises⟩ := arisen
  rw [arises.host_eq]
  cases held : host.get name with
  | none => rfl
  | some v => obtain ⟨n, rfl⟩ | ⟨players, rfl⟩ := seeded.value held <;> rfl

theorem FromRuns.outer_content (arisen : sb.FromRuns .standard)
    (found : sb.units.get id = some u) (m : Machine) (name : String) :
    ((sb.callbackEnv id u).outer name).map m.content = (sb.during id u m).global u.path name := by
  rw [global_during arisen.wellIndexed found, outer_callbackEnv found, UnitState.names]
  change Option.map m.content (match u.memory.held name with
    | some v => some v
    | none => sb.host.get name) = _
  cases u.memory.held name with
  | some v => rfl
  | none => exact arisen.content_get m name

end Sandbox

/-- How names are resolved for the scripts of a sandbox, as long as the function that runs has no
variable of the name. -/
structure NamesResolve (sb : Sandbox) : Prop where
  surroundings {run : UnitRun} {sb' : Sandbox} : sb.Runs .standard run sb' →
    (∃ program, run.result =
      Script.runTopLevel (sb.topLevelEnv run.path program) sb.host.seed run.world) ∨
    ∃ (id : Nat) (u : ScriptUnit) (callback : Callback) (args : List Value),
      sb.units.get id = some u ∧ u.path = run.path ∧ run.result = Script.runCallback
        (sb.callbackEnv id u) u.memory run.world callback.name callback.given args
  callbacks {id : Nat} {u : ScriptUnit} {name : String} {m : Machine} :
    sb.units.get id = some u → m.Lacks name →
    Script.Reads (sb.callbackEnv id u) m name ((sb.during id u m).global u.path name)
  ended (kind : HookKind) (args : List Value) (entry : HookEntry) (u : ScriptUnit) (s : Scene)
    (path : Path) (name : String) :
    (sb.callEntry .standard kind args entry u s).2.1.global path name =
      (sb.during entry.unit u ((Script.callbackRun entry.callback args).left
        (sb.callbackEnv entry.unit u) (Script.machineFor [] u.memory.cells none s.world))).global
        path name
  topLevels {path : Path} {program : Program} {name : String} {m : Machine} : m.Lacks name →
    Script.Reads (sb.topLevelEnv path program) m name (sb.host.get name)

theorem Sandbox.FromRuns.namesResolve {sb : Sandbox} (arisen : sb.FromRuns .standard) :
    NamesResolve sb where
  surroundings ran := by
    cases ran with
    | topLevel s program => exact .inl ⟨program, rfl⟩
    | @callback kind args s entry unit found =>
      exact .inr ⟨entry.unit, unit, entry.callback, args, found, rfl, rfl⟩
  callbacks found lacks := by
    rw [← arisen.outer_content found]
    exact Script.reads_outer lacks
  ended kind args entry u s path name := by
    have memory := Script.memory_runCallback (sb.callbackEnv entry.unit u) u.memory s.world
      entry.callback args
    rw [callEntry_sandbox]
    change ((sb.units.setMemory entry.unit (Script.runCallback (sb.callbackEnv entry.unit u)
      u.memory s.world entry.callback.name entry.callback.given args).memory).find path).bind _ = _
    rw [memory]
    rfl
  topLevels {path program name m} lacks := by
    rw [← arisen.content_get m name]
    have resolved : Script.Reads (sb.topLevelEnv path program) m name _ :=
      Script.reads_outer lacks
    exact resolved

/-- In every session, and at every moment of it, a name that a function does not have as a variable
of its own is resolved as the host resolves it: to what the unit has, in a callback, and otherwise
to what the host has; only where the host finds nothing does it stand for a function of the script.
No name that is not a variable of the function can be assigned. Its variables are its parameters and
those that its statements define. -/
theorem names_resolve :
    (∀ {h : ScriptHost} {session : Session}, ScriptHost.Reachable .standard h →
      h.session = some session → session.sandbox.FromRuns .standard) ∧
    (∀ {sb sb' : Sandbox} {run : UnitRun}, sb.FromRuns .standard → sb.Runs .standard run sb' →
      sb'.FromRuns .standard) ∧
    (∀ {sb : Sandbox}, sb.FromRuns .standard → NamesResolve sb) ∧
    ∀ (env : Env) (name : String),
      Script.RefusesAssignment env name ∧ Script.OwnVariables env name := by
  refine ⟨fun reached live => reached.lives Sandbox.kept_fromRuns _ live,
    fun arisen ran => Sandbox.kept_fromRuns.run ran arisen, fun arisen => arisen.namesResolve,
    fun env name => ⟨?_, ?_⟩⟩
  · exact Script.refusesAssignment env name
  · exact Script.ownVariables env name

/-- A script with a callback that reads a variable of the script, a variable that shares its name
with a function, and a name that only a function has. -/
def namesake : ScriptHost :=
  let text := "let own = 5; let foo = 6; fn foo() \x7b \x7d fn bar() \x7b 7 \x7d fn f() "
    ++ "\x7b log(own); log(foo); let g = bar; log(g.call()); \x7d "
    ++ "hook_event(HOOK_UPDATE, Fn(\"f\"));"
  let config := { ScriptingConfig.default with
    maxPlayers := 0, mods := ⟨[⟨"a.rhai", true⟩], []⟩ }
  let files : Files := .ofNodes [(["a.rhai"], .file text.toUTF8 0)]
  (HostAction.start files).apply .standard (.ofConfig config)

theorem namesake_reachable : ScriptHost.Reachable .standard namesake := by
  unfold namesake
  exact .step _ (.new _)

/-- The callback reads the variables as the host tells them, and the function, which it calls, where
the host finds nothing. -/
theorem namesake_reads_function :
    let after := HostAction.tick.apply .standard namesake
    let text (v : Option Value) := v.map Value.displayText
    after.takeLogs.1 = ["5", "6", "7"] ∧
      text (after.scriptGlobal "a.rhai" "own") = some "5" ∧
      text (after.scriptGlobal "a.rhai" "foo") = some "6" ∧
      (after.scriptGlobal "a.rhai" "bar").isNone = true := by
  decide +kernel

theorem namesake_loaded :
    (namesake.session.any fun session => (session.sandbox.units.get 0).isSome) = true := by
  decide +kernel

theorem namesake_reads_foo :
    ∃ session u, namesake.session = some session ∧ session.sandbox.units.get 0 = some u ∧
      ∀ m : Machine, m.vars = [] → Script.Reads (session.sandbox.callbackEnv 0 u) m "foo"
        ((session.sandbox.during 0 u m).global u.path "foo") := by
  obtain ⟨session, live, loaded⟩ := (Option.any_eq_true _ _).1 namesake_loaded
  obtain ⟨u, found⟩ := Option.isSome_iff_exists.1 loaded
  obtain ⟨sessions, -, resolve, -⟩ := names_resolve
  refine ⟨session, u, live, found, fun m empty => ?_⟩
  refine (resolve (sessions namesake_reachable live)).callbacks found fun v mem => ?_
  rw [empty] at mem
  cases mem

end ModHost
