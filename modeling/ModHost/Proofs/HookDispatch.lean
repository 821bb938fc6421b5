import ModHost.Proofs.RegistryLogs
import ModHost.Sandbox

set_option autoImplicit false

/-!
# Dispatching hooks

A dispatch calls arbitrary code while it goes through a copy of the registry that this
code extends. Here the engine is any engine, so a callback may end in any way and tell the
host anything. One call is described by what it is given and what it answers; a dispatch
is a pass over the entries of the snapshot, and everything that it leaves is read off the
list of its calls.
-/

namespace ModHost

open Script (Env Memory World RunResult Value Emission Ending EvalError)

/-- The registration that a message asks for, owned by a unit. -/
def Script.Emission.registration? (unit : Nat) : Emission → Option (HookKind × HookEntry)
  | .hook kind name given => some (kind, ⟨unit, ⟨name, given⟩⟩)
  | _ => none

def Script.RunResult.registered (r : RunResult) (unit : Nat) : List (HookKind × HookEntry) :=
  r.emissions.filterMap (·.registration? unit)

/-- The fault of a run that failed. A run in which the host's own code gave up has none: the
program ends there. -/
def Script.Ending.fault? : Ending → Option EvalError
  | .failed e => some e
  | _ => none

def ScriptUnit.script (u : ScriptUnit) : Nat × Path × Script.Program := (u.id, u.path, u.program)

namespace UnitTable

def scripts (t : UnitTable) : List (Nat × Path × Script.Program) := t.units.map ScriptUnit.script

theorem scripts_setMemory (t : UnitTable) (id : Nat) (m : Memory) :
    (t.setMemory id m).scripts = t.scripts := by
  apply List.ext_getElem?
  intro i
  simp only [scripts, setMemory, List.getElem?_map, List.getElem?_modify]
  by_cases h : id = i
  · cases t.units[i]? <;> simp [h, ScriptUnit.script]
  · simp [h]

theorem get_script {t t' : UnitTable} (same : t'.scripts = t.scripts) (id : Nat) :
    (t'.get id).map ScriptUnit.script = (t.get id).map ScriptUnit.script := by
  simp only [get, ← List.getElem?_map]
  exact congrArg (·[id]?) same

theorem isSome_get {t t' : UnitTable} (same : t'.scripts = t.scripts) (id : Nat) :
    (t'.get id).isSome = (t.get id).isSome := by
  simpa only [Option.isSome_map] using congrArg Option.isSome (get_script same id)

end UnitTable

namespace Sandbox

/-- The sandbox after a run of a unit: its new memory, and what it registered. Nothing else
of the sandbox can change. -/
def afterRun (sb : Sandbox) (unit : Nat) (r : RunResult) : Sandbox :=
  { sb with
    units := sb.units.setMemory unit r.memory
    hooks := sb.hooks.extend (r.registered unit) }

theorem receive_sandbox (sb : Sandbox) (s : Scene) (e : Emission) (unit : Nat)
    (owner : sb.hooks.active = some unit) :
    (sb.receive s e).1 = { sb with hooks := sb.hooks.extend (e.registration? unit).toList } := by
  cases e with
  | output text =>
    simp only [receive, Emission.registration?, Option.toList, HookRegistry.extend_nil]
  | debug text =>
    simp only [receive, Emission.registration?, Option.toList, HookRegistry.extend_nil]
  | hook kind name given =>
    simp only [receive, HookRegistry.register, owner, Emission.registration?, Option.toList,
      HookRegistry.extend_cons, HookRegistry.extend_nil]

theorem receiveAll_sandbox (sb : Sandbox) (s : Scene) (es : List Emission) (unit : Nat)
    (owner : sb.hooks.active = some unit) :
    (sb.receiveAll s es).1 =
      { sb with hooks := sb.hooks.extend (es.filterMap (·.registration? unit)) } := by
  induction es generalizing sb s with
  | nil => simp only [receiveAll, List.filterMap_nil, HookRegistry.extend_nil]
  | cons e rest ih =>
    have first := receive_sandbox sb s e unit owner
    have ownerAfter : (sb.receive s e).1.hooks.active = some unit := by
      rw [first]
      exact owner
    change ((sb.receive s e).1.receiveAll (sb.receive s e).2 rest).1 = _
    rw [ih _ _ ownerAfter, first]
    have split : (e :: rest).filterMap (·.registration? unit) =
        (e.registration? unit).toList ++ rest.filterMap (·.registration? unit) := by
      cases h : e.registration? unit <;> simp [h]
    rw [split, ← HookRegistry.extend_extend]

theorem settle_fault (sb : Sandbox) (s : Scene) (id : Nat) (r : RunResult) :
    (sb.settle s id r).1 = r.ending.fault? := by
  unfold settle
  cases r.ending <;> rfl

theorem settle_sandbox (sb : Sandbox) (s : Scene) (id : Nat) (r : RunResult)
    (owner : sb.hooks.active = some id) : (sb.settle s id r).2.1 = sb.afterRun id r := by
  have received := receiveAll_sandbox { sb with units := sb.units.setMemory id r.memory }
    { s with world := r.world } r.emissions id owner
  unfold settle
  cases r.ending <;> exact received

theorem receiveAll_scene (sb : Sandbox) (s : Scene) (es : List Emission) :
    ∃ log console, (sb.receiveAll s es).2 = { s with log := log, console := console } := by
  induction es generalizing sb s with
  | nil => exact ⟨s.log, s.console, rfl⟩
  | cons e rest ih =>
    obtain ⟨log, console, later⟩ := ih (sb.receive s e).1 (sb.receive s e).2
    refine ⟨log, console, later.trans ?_⟩
    cases e with
    | output | debug => rfl
    | hook kind name given =>
      simp only [receive]
      split <;> rfl

theorem settle_world (sb : Sandbox) (s : Scene) (id : Nat) (r : RunResult) :
    (sb.settle s id r).2.2.world = r.world := by
  obtain ⟨log, console, received⟩ := receiveAll_scene
    { sb with units := sb.units.setMemory id r.memory } { s with world := r.world } r.emissions
  unfold settle
  cases r.ending <;> exact congrArg Scene.world received

theorem enter_afterRun_restore (sb : Sandbox) (unit : Nat) (r : RunResult) :
    ((sb.enter unit).afterRun unit r).restore sb = sb.afterRun unit r := rfl

end Sandbox

/-- One call of a callback: what it was given, and what it answered. -/
structure HookCall where
  entry : HookEntry
  /-- The unit as the call met it. -/
  unit : ScriptUnit
  sandbox : Sandbox
  world : World
  args : List Value
  result : RunResult

namespace HookCall

def env (c : HookCall) : Env :=
  c.sandbox.rules.env c.unit.program (some c.unit.path) c.sandbox.outerNames

def ofState (engine : Engine) (args : List Value) (entry : HookEntry) (unit : ScriptUnit)
    (sb : Sandbox) (s : Scene) : HookCall :=
  let entered := sb.enter entry.unit
  { entry := entry, unit := unit, sandbox := entered, world := s.world, args := args,
    result := engine.call (sb.rules.env unit.program (some unit.path) entered.outerNames)
      unit.memory s.world entry.callback args }

def failure? (kind : HookKind) (c : HookCall) : Option ScriptError :=
  c.result.ending.fault?.map (ScriptError.ofEval s!"{kind.name} hook of '{c.unit.path}'")

def registered (kind : HookKind) (c : HookCall) : List HookEntry :=
  entriesOf kind (c.result.registered c.entry.unit)

/-- The callback was called with these arguments in the unit that owns it, which was the
owner of registrations and whose scope was active. -/
structure IsMade (engine : Engine) (args : List Value) (c : HookCall) : Prop where
  args_eq : c.args = args
  owner : c.sandbox.hooks.active = some c.entry.unit
  scope : c.sandbox.activeScope = some c.entry.unit
  unit_eq : c.sandbox.units.get c.entry.unit = some c.unit
  result_eq : c.result = engine.call c.env c.unit.memory c.world c.entry.callback c.args

end HookCall

namespace Sandbox

/-- `Pass engine kind args entries sb s calls sb' s'`: going through the entries makes these
calls, one after the other, and leads from one state to the other. -/
inductive Pass (engine : Engine) (kind : HookKind) (args : List Value) :
    List HookEntry → Sandbox → Scene → List HookCall → Sandbox → Scene → Prop
  | done (sb : Sandbox) (s : Scene) : Pass engine kind args [] sb s [] sb s
  | drop {entry : HookEntry} {rest : List HookEntry} {sb sb' : Sandbox} {s s' : Scene}
      {calls : List HookCall} (missing : sb.units.get entry.unit = none)
      (more : Pass engine kind args rest sb
        (s.say [.debug s!"Dropping {kind.name} hook for unloaded unit UnitId({entry.unit})"])
        calls sb' s') :
      Pass engine kind args (entry :: rest) sb s calls sb' s'
  | call {entry : HookEntry} {rest : List HookEntry} {unit : ScriptUnit} {sb sb' : Sandbox}
      {s s' : Scene} {calls : List HookCall} (found : sb.units.get entry.unit = some unit)
      (more : Pass engine kind args rest (callEntry engine kind args entry unit sb s).2.1
        (callEntry engine kind args entry unit sb s).2.2 calls sb' s') :
      Pass engine kind args (entry :: rest) sb s
        (HookCall.ofState engine args entry unit sb s :: calls) sb' s'

theorem callEntry_failure (engine : Engine) (kind : HookKind) (args : List Value)
    (entry : HookEntry) (unit : ScriptUnit) (sb : Sandbox) (s : Scene) :
    (callEntry engine kind args entry unit sb s).1 =
      (HookCall.ofState engine args entry unit sb s).failure? kind := by
  have fault := settle_fault (sb.enter entry.unit) s entry.unit
    (HookCall.ofState engine args entry unit sb s).result
  unfold callEntry HookCall.failure?
  rw [← fault]
  dsimp only [HookCall.ofState]
  split <;> simp_all

theorem callEntry_sandbox (engine : Engine) (kind : HookKind) (args : List Value)
    (entry : HookEntry) (unit : ScriptUnit) (sb : Sandbox) (s : Scene) :
    (callEntry engine kind args entry unit sb s).2.1 =
      sb.afterRun entry.unit (HookCall.ofState engine args entry unit sb s).result := by
  have settled := settle_sandbox (sb.enter entry.unit) s entry.unit
    (HookCall.ofState engine args entry unit sb s).result rfl
  rw [← enter_afterRun_restore, ← settled]
  unfold callEntry
  dsimp only [HookCall.ofState]
  split <;> rfl

theorem callEntry_scripts (engine : Engine) (kind : HookKind) (args : List Value)
    (entry : HookEntry) (unit : ScriptUnit) (sb : Sandbox) (s : Scene) :
    (callEntry engine kind args entry unit sb s).2.1.units.scripts = sb.units.scripts := by
  rw [callEntry_sandbox]
  exact UnitTable.scripts_setMemory _ _ _

theorem callEntry_world (engine : Engine) (kind : HookKind) (args : List Value)
    (entry : HookEntry) (unit : ScriptUnit) (sb : Sandbox) (s : Scene) :
    (callEntry engine kind args entry unit sb s).2.2.world =
      (HookCall.ofState engine args entry unit sb s).result.world := by
  rw [← settle_world (sb.enter entry.unit) s entry.unit]
  unfold callEntry
  dsimp only [HookCall.ofState]
  split <;> rfl

theorem isMade_ofState (engine : Engine) (args : List Value) (entry : HookEntry)
    (unit : ScriptUnit) (sb : Sandbox) (s : Scene) (found : sb.units.get entry.unit = some unit) :
    (HookCall.ofState engine args entry unit sb s).IsMade engine args :=
  ⟨rfl, rfl, rfl, found, rfl⟩

theorem callEntries_pass (engine : Engine) (kind : HookKind) (args : List Value)
    (entries : List HookEntry) (sb : Sandbox) (s : Scene) (report : DispatchReport) :
    ∃ calls,
      Pass engine kind args entries sb s calls
        (callEntries engine kind args entries sb s report).2.1
        (callEntries engine kind args entries sb s report).2.2 ∧
      (callEntries engine kind args entries sb s report).1 =
        ⟨report.invoked + calls.length,
          report.failures ++ calls.filterMap (HookCall.failure? kind)⟩ := by
  induction entries generalizing sb s report with
  | nil =>
    refine ⟨[], .done sb s, ?_⟩
    simp only [callEntries, List.length_nil, Nat.add_zero, List.filterMap_nil, List.append_nil]
  | cons entry rest ih =>
    cases found : sb.units.get entry.unit with
    | none =>
      obtain ⟨calls, pass, counted⟩ := ih sb
        (s.say [.debug s!"Dropping {kind.name} hook for unloaded unit UnitId({entry.unit})"]) report
      simp only [callEntries, found]
      exact ⟨calls, .drop found pass, counted⟩
    | some unit =>
      have failed := callEntry_failure engine kind args entry unit sb s
      obtain ⟨calls, pass, counted⟩ := ih (callEntry engine kind args entry unit sb s).2.1
        (callEntry engine kind args entry unit sb s).2.2
        ⟨report.invoked + 1,
          report.failures ++ (callEntry engine kind args entry unit sb s).1.toList⟩
      simp only [callEntries, found]
      refine ⟨_, .call found pass, ?_⟩
      rw [counted, failed]
      congr 1
      · simp only [List.length_cons]
        omega
      · cases h : (HookCall.ofState engine args entry unit sb s).failure? kind <;> simp [h]

namespace Pass

variable {engine : Engine} {kind : HookKind} {args : List Value} {entries : List HookEntry}
  {sb sb' : Sandbox} {s s' : Scene} {calls : List HookCall}

theorem scripts_eq (pass : Pass engine kind args entries sb s calls sb' s') :
    sb'.units.scripts = sb.units.scripts := by
  induction pass with
  | done => rfl
  | drop _ _ ih => exact ih
  | call _ _ ih => exact ih.trans (callEntry_scripts _ _ _ _ _ _ _)

/-- Exactly the entries whose units exist are called, in their order. -/
theorem map_entry (pass : Pass engine kind args entries sb s calls sb' s') :
    calls.map (·.entry) = entries.filter fun e => (sb.units.get e.unit).isSome := by
  induction pass with
  | done => rfl
  | drop missing _ ih => simpa [missing] using ih
  | @call entry rest unit sb _ s _ calls found _ ih =>
    simp only [UnitTable.isSome_get (callEntry_scripts engine kind args entry unit sb s)] at ih
    simp [found, ih, HookCall.ofState]

theorem isMade (pass : Pass engine kind args entries sb s calls sb' s') :
    ∀ c ∈ calls, c.IsMade engine args := by
  induction pass with
  | done => simp
  | drop _ _ ih => exact ih
  | call found _ ih =>
    rintro c (_ | ⟨_, hc⟩)
    · exact isMade_ofState engine args _ _ _ _ found
    · exact ih c hc

theorem unit_script (pass : Pass engine kind args entries sb s calls sb' s') :
    ∀ c ∈ calls, (sb.units.get c.entry.unit).map ScriptUnit.script = some c.unit.script := by
  induction pass with
  | done => simp
  | drop _ _ ih => exact ih
  | @call entry rest unit sb _ s _ calls found _ ih =>
    rintro c (_ | ⟨_, hc⟩)
    · exact congrArg (Option.map ScriptUnit.script) found
    · rw [← UnitTable.get_script (callEntry_scripts engine kind args entry unit sb s)]
      exact ih c hc

/-- The registry grows by what the calls registered, in the order of the calls, and its owner
stays. -/
theorem hooks_eq (pass : Pass engine kind args entries sb s calls sb' s') :
    sb'.hooks = sb.hooks.extend (calls.flatMap fun c => c.result.registered c.entry.unit) := by
  induction pass with
  | done sb _ => exact (HookRegistry.extend_nil sb.hooks).symm
  | drop _ _ ih => exact ih
  | call _ _ ih =>
    rw [callEntry_sandbox] at ih
    rw [ih, List.flatMap_cons, ← HookRegistry.extend_extend]
    rfl

theorem activeScope_eq (pass : Pass engine kind args entries sb s calls sb' s') :
    sb'.activeScope = sb.activeScope := by
  induction pass with
  | done => rfl
  | drop _ _ ih => exact ih
  | call _ _ ih =>
    rw [callEntry_sandbox] at ih
    exact ih

theorem snapshot_eq (pass : Pass engine kind args entries sb s calls sb' s') (k : HookKind) :
    sb'.hooks.snapshot k = sb.hooks.snapshot k ++ calls.flatMap (HookCall.registered k) := by
  rw [pass.hooks_eq, HookRegistry.snapshot_extend, entriesOf_flatMap]
  rfl

end Pass

theorem dispatch_pass (engine : Engine) (kind : HookKind) (args : List Value) (sb : Sandbox)
    (s : Scene) :
    ∃ calls,
      Pass engine kind args (sb.hooks.snapshot kind) sb s calls
        (sb.dispatch engine kind args s).2.1 (sb.dispatch engine kind args s).2.2 ∧
      (sb.dispatch engine kind args s).1 =
        ⟨calls.length, calls.filterMap (HookCall.failure? kind)⟩ := by
  obtain ⟨calls, pass, counted⟩ :=
    callEntries_pass engine kind args (sb.hooks.snapshot kind) sb s .empty
  refine ⟨calls, pass, counted.trans ?_⟩
  simp only [DispatchReport.empty, Nat.zero_add, List.nil_append]

theorem label_failure {kind : HookKind} {calls : List HookCall} {f : ScriptError}
    (hf : f ∈ calls.filterMap (HookCall.failure? kind)) : f.label = "runtime" := by
  simp only [List.mem_filterMap, HookCall.failure?, Option.map_eq_some_iff] at hf
  obtain ⟨c, _, e, _, rfl⟩ := hf
  rfl

/-- What a dispatch does, whatever the callbacks do: it calls the entries that were registered
for the kind when it began and whose units exist, each once, in order, with the same arguments,
against the program of its unit and with that unit as owner and active scope; a failure is
recorded and stops nothing. Afterwards the owner and the active scope are as before, and every
kind has its old entries followed by those that the calls registered. -/
theorem dispatch_calls_snapshot (engine : Engine) (kind : HookKind) (args : List Value)
    (sb : Sandbox) (s : Scene) :
    ∃ report sb' s' calls, sb.dispatch engine kind args s = (report, sb', s') ∧
      Pass engine kind args (sb.hooks.snapshot kind) sb s calls sb' s' ∧
      calls.map (·.entry) =
        (sb.hooks.snapshot kind).filter (fun e => (sb.units.get e.unit).isSome) ∧
      (∀ c ∈ calls, c.IsMade engine args ∧
        (sb.units.get c.entry.unit).map ScriptUnit.script = some c.unit.script) ∧
      report.invoked = calls.length ∧
      report.failures = calls.filterMap (HookCall.failure? kind) ∧
      (∀ f ∈ report.failures, f.label = "runtime") ∧
      sb'.hooks.active = sb.hooks.active ∧ sb'.activeScope = sb.activeScope ∧
      ∀ k, sb'.hooks.snapshot k = sb.hooks.snapshot k ++ calls.flatMap (HookCall.registered k) := by
  obtain ⟨calls, pass, counted⟩ := dispatch_pass engine kind args sb s
  generalize sb.dispatch engine kind args s = left at pass counted ⊢
  obtain ⟨report, sb', s'⟩ := left
  change report = _ at counted
  subst counted
  refine ⟨_, sb', s', calls, rfl, pass, pass.map_entry,
    fun c hc => ⟨pass.isMade c hc, pass.unit_script c hc⟩, rfl, rfl,
    fun f hf => label_failure hf, ?_, pass.activeScope_eq, pass.snapshot_eq⟩
  rw [pass.hooks_eq]
  rfl

end Sandbox

end ModHost
