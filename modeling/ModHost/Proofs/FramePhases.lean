import ModHost.Proofs.Isolation
import ModHost.Proofs.PlayerHooks
import ModHost.Proofs.PlayerSlots

set_option autoImplicit false

/-!
# Phases of a frame

A frame goes through the slots twice, once before the players' steps and once after them, and then
updates. Its report adds up those of all its dispatches, and so does every report of running hooks:
there is one list of calls, which the report counts and whose failures it has in order. A report
does not say how many calls have returned, but this is what remains when the failures are taken
off, unless the program has ended in one of them.
-/

namespace ModHost

open Script (Value Ending)

def HookCall.returned (c : HookCall) : Bool :=
  match c.result.ending with
  | .value _ => true
  | .failed _ | .panicked _ | .exhausted => false

theorem HookCall.returned_iff {c : HookCall} (quiet : c.result.ending.abort? = none)
    (kind : HookKind) : c.returned = (c.failure? kind).isNone := by
  unfold HookCall.returned HookCall.failure? Ending.fault?
  cases ended : c.result.ending with
  | value | failed => rfl
  | panicked | exhausted =>
    rw [ended] at quiet
    cases quiet

namespace Sandbox

variable {engine : Engine} {kind : HookKind} {args : List Value} {entries : List HookEntry}
  {sb sb' : Sandbox} {s s' : Scene} {calls : List HookCall}

theorem Pass.slots_met (law : engine.KeepsSlots)
    (pass : Pass engine kind args entries sb s calls sb' s') :
    ∀ c ∈ calls, c.world.players.size = s.world.players.size := by
  induction pass with
  | done => simp
  | drop _ _ ih => exact ih
  | call _ _ ih =>
    refine List.forall_mem_cons.2 ⟨rfl, fun c hc => ?_⟩
    rw [ih c hc, callEntry_world]
    exact law _ _ _ _ _

end Sandbox

theorem length_filterMap_add_filter {calls : List (HookKind × HookCall)}
    (quiet : ∀ c ∈ calls, c.2.result.ending.abort? = none) :
    (calls.filterMap Sandbox.failureOf).length + (calls.filter (·.2.returned)).length =
      calls.length := by
  have kept : calls.countP (·.2.returned) =
      calls.countP fun c => decide ¬(Sandbox.failureOf c).isSome = true := by
    refine List.countP_congr fun c hc => ?_
    rw [HookCall.returned_iff (quiet c hc) c.1, Sandbox.failureOf]
    simp
  rw [List.length_filterMap_eq_countP, ← List.countP_eq_length_filter, kept]
  exact (List.length_eq_countP_add_countP fun c => (Sandbox.failureOf c).isSome).symm

namespace ScriptHost

variable {engine : Engine} {h : ScriptHost}

namespace Tally

variable {calls : List (HookKind × HookCall)} {left : DispatchReport × ScriptHost}

theorem failures_le (tally : Tally engine h calls left) :
    left.1.failures.length ≤ left.1.invoked := by
  rw [tally.counted]
  exact List.length_filterMap_le _ _

theorem succeeded_eq (tally : Tally engine h calls left) (quiet : left.2.aborted = none) :
    left.1.succeeded = (calls.filter (·.2.returned)).length := by
  have split := length_filterMap_add_filter (tally.goes quiet).2
  rw [tally.counted]
  unfold DispatchReport.succeeded
  dsimp only
  omega

end Tally

theorem HookRuns.slots_eq (law : engine.KeepsSlots) {asks : HookAsks}
    {left : DispatchReport × ScriptHost} (runs : h.HookRuns engine asks left) :
    left.2.players.size = h.players.size := by
  induction runs with
  | nothing | ignored => rfl
  | hooks kind args _ h =>
    cases live : h.session with
    | none => rw [runHooks_none engine kind args h live]
    | some session =>
      obtain ⟨calls, s', session', pass, -, -, players, -⟩ := runHooks_pass engine kind args h live
      rw [players]
      exact pass.slots_eq law
  | merge _ _ first second => exact second.trans first

theorem HookRuns.isActive {asks : HookAsks} {left : DispatchReport × ScriptHost}
    (runs : h.HookRuns engine asks left) (active : h.isActive = true) :
    left.2.isActive = true := by
  obtain ⟨session, live⟩ := Option.isSome_iff_exists.1 active
  obtain ⟨calls, tally⟩ := runs.tally
  obtain ⟨session', -, stays⟩ := tally.made session live
  rw [ScriptHost.isActive, stays]
  rfl

end ScriptHost

/-- The callback is called with the proxy of a slot and nothing else, and the slot is there. -/
structure HookCall.TakesSlot (engine : Engine) (slot : Nat) (c : HookCall) : Prop where
  made : c.IsMade engine [.player slot]
  valid : Proxy.isValid .playerState ⟨true, .held c.world.players⟩ slot = true

namespace ScriptHost

variable {engine : Engine} {h h' : ScriptHost}

theorem Rounds.slots_eq (law : engine.KeepsSlots) {kind : HookKind} {slots : List Nat}
    {rounds : List (List HookCall)} (run : Rounds engine kind slots h rounds h') :
    h'.players.size = h.players.size := by
  induction run with
  | done => rfl
  | slot _ _ _ _ ih => exact ih.trans ((hookRuns_dispatchPlayer engine kind _ _).slots_eq law)

theorem Rounds.takesSlot (law : engine.KeepsSlots) {kind : HookKind} {slots : List Nat}
    {rounds : List (List HookCall)} (run : Rounds engine kind slots h rounds h')
    (bound : ∀ slot ∈ slots, slot < h.players.size) (i : Nat) (calls : List HookCall)
    (here : rounds[i]? = some calls) :
    ∃ slot, slots[i]? = some slot ∧ ∀ c ∈ calls, c.TakesSlot engine slot := by
  induction run generalizing i with
  | done => cases here
  | @slot slot rest h _ session after s' now rounds live pass stays more ih =>
    obtain ⟨inside, others⟩ := List.forall_mem_cons.1 bound
    cases i with
    | zero =>
      obtain rfl := Option.some.inj here
      refine ⟨slot, rfl, fun c hc => ⟨pass.isMade c hc, Proxy.isValid_of_lt ?_ _⟩⟩
      rw [pass.slots_met law c hc]
      exact inside
    | succ i =>
      have size := (hookRuns_dispatchPlayer engine kind slot h).slots_eq law
      exact ih (fun slot mem => by rw [size]; exact others slot mem) i here

theorem Rounds.takesSlot_range (law : engine.KeepsSlots) {kind : HookKind} {count : Nat}
    {rounds : List (List HookCall)} (run : Rounds engine kind (List.range count) h rounds h')
    (bound : count ≤ h.players.size) (slot : Nat) (calls : List HookCall)
    (here : rounds[slot]? = some calls) : ∀ c ∈ calls, c.TakesSlot engine slot := by
  obtain ⟨found, same, takes⟩ := run.takesSlot law
    (fun slot mem => Nat.lt_of_lt_of_le (List.mem_range.1 mem) bound) slot calls here
  obtain ⟨inside, rfl⟩ := List.getElem?_eq_some_iff.1 same
  rwa [List.getElem_range] at takes

end ScriptHost

/-- The calls of a frame: a list for every slot before the players' steps, another for every slot
after them, and those of the update. -/
structure FrameCalls where
  before : List (List HookCall)
  after : List (List HookCall)
  update : List HookCall

def FrameCalls.all (f : FrameCalls) : List (HookKind × HookCall) :=
  f.before.flatten.map (.beforePlayerUpdate, ·) ++ f.after.flatten.map (.playerUpdate, ·)
    ++ f.update.map (.update, ·)

namespace ScriptHost

/-- `Phases engine h f h'`: these calls lead from one host to the other, phase by phase. -/
inductive Phases (engine : Engine) (h : ScriptHost) (f : FrameCalls) (h' : ScriptHost) : Prop
  | phases {between stepped : ScriptHost} {session after : Session} {s' : Scene}
      (before : Rounds engine .beforePlayerUpdate (List.range h.players.size) h f.before between)
      (steps : Rounds engine .playerUpdate (List.range h.players.size) between f.after stepped)
      (live : stepped.session = some session)
      (update : Sandbox.Pass engine .update [] (session.sandbox.hooks.snapshot .update)
        session.sandbox (stepped.scene session.generator) f.update after.sandbox s')
      (stays : h'.session = some after) : Phases engine h f h'

variable {engine : Engine} {h : ScriptHost}

theorem runFrame_phases (law : engine.KeepsSlots) (active : h.isActive = true) :
    ∃ f, Phases engine h f (h.runFrame engine).2 ∧ f.before.length = h.players.size ∧
      f.after.length = h.players.size ∧
      (h.runFrame engine).1 = ⟨f.all.length, f.all.filterMap Sandbox.failureOf⟩ := by
  obtain ⟨before, runBefore, lengthBefore, toldBefore⟩ :=
    dispatch_rounds engine law .beforePlayerUpdate rfl h active
  have runsBefore := hookRuns_dispatch engine .beforePlayerUpdate h
  have sameSlots := runsBefore.slots_eq law
  have activeBetween := runsBefore.isActive active
  obtain ⟨after, runAfter, lengthAfter, toldAfter⟩ :=
    dispatch_rounds engine law .playerUpdate rfl (h.dispatch engine .beforePlayerUpdate).2
      activeBetween
  have activeStepped := (hookRuns_dispatch engine .playerUpdate _).isActive activeBetween
  obtain ⟨session, live⟩ := Option.isSome_iff_exists.1 activeStepped
  obtain ⟨update, s', final, pass, toldUpdate, stays, -⟩ := runHooks_pass engine .update []
    ((h.dispatch engine .beforePlayerUpdate).2.dispatch engine .playerUpdate).2 live
  rw [sameSlots] at runAfter lengthAfter
  refine ⟨⟨before, after, update⟩, .phases runBefore runAfter live pass stays, lengthBefore,
    lengthAfter, ?_⟩
  have told : (h.runFrame engine).1 = ((h.dispatch engine .beforePlayerUpdate).1.merge
      ((h.dispatch engine .beforePlayerUpdate).2.dispatch engine .playerUpdate).1).merge
      (runHooks engine .update []
        ((h.dispatch engine .beforePlayerUpdate).2.dispatch engine .playerUpdate).2).1 := rfl
  rw [told, toldBefore, toldAfter, toldUpdate]
  simp [DispatchReport.merge, FrameCalls.all, List.filterMap_map, Function.comp_def,
    Sandbox.failureOf, Nat.add_assoc]

/-- A frame in a live session calls for each slot in turn the callbacks before the players' steps,
then for each slot in turn those after them, then those of the update; a player's callbacks get a
valid proxy of the slot whose turn it is; and the report counts all these calls, with the failures
in their order. However hooks are run, there are not more failures than calls, and the calls that
have not failed are those that have returned, if the program goes on. -/
theorem frame_in_phases (engine : Engine) (law : engine.KeepsSlots) :
    (∀ h : ScriptHost, h.isActive = true → ∃ f, Phases engine h f (h.runFrame engine).2 ∧
      f.before.length = h.players.size ∧ f.after.length = h.players.size ∧
      (∀ (slot : Nat) (calls : List HookCall), f.before[slot]? = some calls →
        ∀ c ∈ calls, c.TakesSlot engine slot) ∧
      (∀ (slot : Nat) (calls : List HookCall), f.after[slot]? = some calls →
        ∀ c ∈ calls, c.TakesSlot engine slot) ∧
      (∀ c ∈ f.update, c.IsMade engine []) ∧
      (h.runFrame engine).1 = ⟨f.all.length, f.all.filterMap Sandbox.failureOf⟩) ∧
    ∀ (h : ScriptHost) (a : HostAction), a.runsHooks = true →
      ∃ report calls, a.answer engine h = .dispatched report ∧
        Tally engine h calls (report, a.apply engine h) ∧
        report.failures.length ≤ report.invoked ∧
        ((a.apply engine h).aborted = none →
          report.succeeded = (calls.filter (·.2.returned)).length) := by
  refine ⟨fun h active => ?_, fun h a hooks => ?_⟩
  · obtain ⟨f, phases, lengthBefore, lengthAfter, told⟩ := runFrame_phases law active
    refine ⟨f, phases, lengthBefore, lengthAfter, ?_, ?_, ?_, told⟩
    all_goals cases phases with | phases before steps live update stays => ?_
    · exact before.takesSlot_range law (Nat.le_refl _)
    · exact steps.takesSlot_range law (Nat.le_of_eq (before.slots_eq law).symm)
    · exact update.isMade
  · obtain ⟨report, answered, runs⟩ := hookRuns_of_runsHooks engine h hooks
    obtain ⟨calls, tally⟩ := runs.tally
    exact ⟨report, calls, answered, tally, tally.failures_le, tally.succeeded_eq⟩

/-- A server with two players. The callbacks before their steps fail, and each of those after them
registers one for the update. -/
def staged : ScriptHost :=
  let text := "hook_event(HOOK_BEFORE_PLAYER_UPDATE, |p| p.x); "
    ++ "hook_event(HOOK_PLAYER_UPDATE, |p| hook_event(HOOK_UPDATE, || 1));"
  let config := { ScriptingConfig.default with
    maxPlayers := 2, mods := ⟨[⟨"a.rhai", true⟩], []⟩ }
  let files : Files := .ofNodes [(["a.rhai"], .file text.toUTF8 0)]
  (HostAction.start files).apply .standard (.ofConfig config)

theorem staged_runs :
    let frame := staged.runFrame .standard
    staged.isActive = true ∧ frame.2.aborted = none ∧
      frame.1.invoked = 6 ∧ frame.1.failures.length = 2 := by
  decide +kernel

theorem staged_in_phases :
    Engine.standard.KeepsSlots ∧ staged.isActive = true ∧
      (∃ f, Phases .standard staged f (staged.runFrame .standard).2 ∧ f.all.length = 6 ∧
        (f.all.filterMap Sandbox.failureOf).length = 2) ∧
      ∃ calls, Tally .standard staged calls (staged.runFrame .standard) ∧
        (staged.runFrame .standard).2.aborted = none ∧
        (calls.filter (·.2.returned)).length = 4 := by
  obtain ⟨active, goes, invoked, failed⟩ := staged_runs
  obtain ⟨frames, reports⟩ := frame_in_phases .standard Engine.standard_keepsSlots
  obtain ⟨f, phases, -, -, -, -, -, told⟩ := frames staged active
  obtain ⟨report, calls, answered, tally, -, succeeded⟩ := reports staged .runFrame rfl
  cases answered
  have returned := succeeded goes
  rw [DispatchReport.succeeded, invoked, failed] at returned
  rw [told] at invoked failed
  exact ⟨Engine.standard_keepsSlots, active, ⟨f, phases, invoked, failed⟩, calls, tally, goes,
    returned.symm⟩

end ScriptHost

end ModHost
