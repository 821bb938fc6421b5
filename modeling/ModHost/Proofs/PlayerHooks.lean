import Mathlib
import ModHost.Proofs.EngineLaws
import ModHost.Proofs.HostRuns

set_option autoImplicit false

/-!
# Player hooks

A player hook runs once for each slot, and every slot goes through a snapshot of its own.
So a slot also meets what the callbacks of the slots before it have registered. The main
theorem says what each slot calls, and that the slots call the same callbacks exactly when
no slot but the last registers for the kind.
-/

namespace ModHost

open Script (RunResult Value World)

namespace Sandbox

theorem Pass.slots_eq {engine : Engine} (law : engine.KeepsSlots) {kind : HookKind}
    {args : List Value} {entries : List HookEntry} {sb sb' : Sandbox} {s s' : Scene}
    {calls : List HookCall} (pass : Pass engine kind args entries sb s calls sb' s') :
    s'.world.players.size = s.world.players.size := by
  induction pass with
  | done => rfl
  | drop _ _ ih => exact ih
  | call _ _ ih =>
    rw [ih, callEntry_world]
    exact law _ _ _ _ _

end Sandbox

namespace ScriptHost

def registered (h : ScriptHost) (kind : HookKind) : List HookEntry :=
  match h.session with
  | some session => session.sandbox.hooks.snapshot kind
  | none => []

theorem hookCount_eq (h : ScriptHost) (kind : HookKind) :
    h.hookCount kind = (h.registered kind).length := by
  unfold hookCount registered
  cases h.session with
  | none => rfl
  | some session => exact session.sandbox.hooks.count_eq kind

/-- `Rounds engine kind slots h rounds h'`: running the hooks of a kind for one slot after the
other makes these calls, a list for each slot, and leads from one host to the other. -/
inductive Rounds (engine : Engine) (kind : HookKind) :
    List Nat → ScriptHost → List (List HookCall) → ScriptHost → Prop
  | done (h : ScriptHost) : Rounds engine kind [] h [] h
  | slot {slot : Nat} {rest : List Nat} {h h' : ScriptHost} {session after : Session}
      {s' : Scene} {calls : List HookCall} {rounds : List (List HookCall)}
      (live : h.session = some session)
      (pass : Sandbox.Pass engine kind [.player slot] (session.sandbox.hooks.snapshot kind)
        session.sandbox (h.scene session.generator) calls after.sandbox s')
      (stays : (h.dispatchPlayer engine kind slot).2.session = some after)
      (more : Rounds engine kind rest (h.dispatchPlayer engine kind slot).2 rounds h') :
      Rounds engine kind (slot :: rest) h (calls :: rounds) h'

def QuietBeforeLast (kind : HookKind) (rounds : List (List HookCall)) : Prop :=
  ∀ calls ∈ rounds.dropLast, ∀ c ∈ calls, c.registered kind = []

theorem dispatchPlayer_eq_runHooks (engine : Engine) (kind : HookKind) (h : ScriptHost)
    (takes : kind.takesPlayer = true) {session : Session} (live : h.session = some session)
    {slot : Nat} (bound : slot < h.players.size) :
    h.dispatchPlayer engine kind slot = h.runHooks engine kind [.player slot] := by
  unfold dispatchPlayer
  simp only [takes, Bool.not_true, Bool.false_eq_true, ↓reduceIte, live, bound]

theorem dispatchSlots_rounds (engine : Engine) (law : engine.KeepsSlots) (kind : HookKind)
    (takes : kind.takesPlayer = true) (slots : List Nat) (h : ScriptHost)
    (active : h.isActive = true) (bound : ∀ slot ∈ slots, slot < h.players.size)
    (report : DispatchReport) :
    ∃ rounds, Rounds engine kind slots h rounds (dispatchSlots engine kind slots h report).2 ∧
      rounds.length = slots.length ∧
      (dispatchSlots engine kind slots h report).1 =
        ⟨report.invoked + (rounds.map List.length).sum,
          report.failures ++ rounds.flatten.filterMap (HookCall.failure? kind)⟩ := by
  induction slots generalizing h report with
  | nil =>
    refine ⟨[], .done h, rfl, ?_⟩
    simp [dispatchSlots]
  | cons slot rest ih =>
    obtain ⟨session, live⟩ := Option.isSome_iff_exists.1 active
    have runs := dispatchPlayer_eq_runHooks engine kind h takes live (bound slot (by simp))
    obtain ⟨calls, s', after, pass, counted, stays, players, -⟩ :=
      runHooks_pass engine kind [.player slot] h live
    rw [← runs] at counted stays players
    have size : (h.dispatchPlayer engine kind slot).2.players.size = h.players.size := by
      rw [players]
      exact pass.slots_eq law
    obtain ⟨rounds, more, length, total⟩ := ih (h.dispatchPlayer engine kind slot).2
      (by rw [isActive, stays]; rfl)
      (fun later mem => by rw [size]; exact bound later (by simp [mem]))
      (report.merge (h.dispatchPlayer engine kind slot).1)
    refine ⟨calls :: rounds, .slot live pass stays more, by simp [length], total.trans ?_⟩
    simp only [DispatchReport.merge, counted, List.map_cons, List.sum_cons, List.flatten_cons,
      List.filterMap_append, List.append_assoc, Nat.add_assoc]

theorem dispatch_rounds (engine : Engine) (law : engine.KeepsSlots) (kind : HookKind)
    (takes : kind.takesPlayer = true) (h : ScriptHost) (active : h.isActive = true) :
    ∃ rounds, Rounds engine kind (List.range h.players.size) h rounds
        (h.dispatch engine kind).2 ∧
      rounds.length = h.players.size ∧
      (h.dispatch engine kind).1 =
        ⟨(rounds.map List.length).sum, rounds.flatten.filterMap (HookCall.failure? kind)⟩ := by
  obtain ⟨rounds, run, length, total⟩ := dispatchSlots_rounds engine law kind takes
    (List.range h.players.size) h active (fun slot mem => List.mem_range.1 mem) .empty
  unfold dispatch
  rw [if_pos takes]
  refine ⟨rounds, run, length.trans List.length_range, total.trans ?_⟩
  simp only [DispatchReport.empty, Nat.zero_add, List.nil_append]

/-- What the slots of these rounds have registered for a kind, in order. -/
def lateEntries (kind : HookKind) (rounds : List (List HookCall)) : List HookEntry :=
  rounds.flatten.flatMap (HookCall.registered kind)

/-- Every slot calls what was registered before the first slot, and then what the slots before
it have registered. -/
theorem Rounds.entries_eq {engine : Engine} {kind : HookKind} {slots : List Nat}
    {h h' : ScriptHost} {rounds : List (List HookCall)}
    (run : Rounds engine kind slots h rounds h') (owned : h.Lives Sandbox.Owned) (i : Nat)
    (calls : List HookCall) (at_i : rounds[i]? = some calls) :
    calls.map (·.entry) = h.registered kind ++ lateEntries kind (rounds.take i) := by
  induction run generalizing i with
  | done => cases at_i
  | @slot slot rest h h' session after s' first rounds live pass stays more ih =>
    have before : h.registered kind = session.sandbox.hooks.snapshot kind := by
      rw [registered, live]
    cases i with
    | zero =>
      cases at_i
      rw [pass.map_entry_of_owned (owned session live), before]
      exact (List.append_nil _).symm
    | succ i =>
      have grown : (h.dispatchPlayer engine kind slot).2.registered kind =
          h.registered kind ++ first.flatMap (HookCall.registered kind) := by
        rw [registered, stays, before]
        exact pass.snapshot_eq kind
      have stillOwned := (hookRuns_dispatchPlayer engine kind slot h).lives Sandbox.kept_owned owned
      have later := ih stillOwned i at_i
      rw [later, grown, List.append_assoc, lateEntries, lateEntries, List.take_succ_cons,
        List.flatten_cons, List.flatMap_append]

theorem lateEntries_take_eq_nil {kind : HookKind} {rounds : List (List HookCall)} :
    QuietBeforeLast kind rounds ↔
      ∀ i < rounds.length, lateEntries kind (rounds.take i) = [] := by
  simp only [QuietBeforeLast, lateEntries, List.flatMap_eq_nil_iff, List.mem_flatten,
    List.dropLast_eq_take]
  constructor
  · rintro quiet i bound c ⟨calls, mem, hc⟩
    exact quiet calls (List.take_subset_take_left rounds (by omega) mem) c hc
  · intro empty calls mem c hc
    have nonempty : rounds.length ≠ 0 := by
      intro zero
      rw [List.length_eq_zero_iff.1 zero] at mem
      cases mem
    exact empty (rounds.length - 1) (by omega) c ⟨calls, mem, hc⟩

theorem length_mul_le_sum (n : Nat) (xs : List Nat) (least : ∀ x ∈ xs, n ≤ x) :
    xs.length * n ≤ xs.sum ∧ (xs.sum = xs.length * n ↔ ∀ x ∈ xs, x = n) := by
  induction xs with
  | nil => simp
  | cons x rest ih =>
    have first := least x (by simp)
    obtain ⟨bound, exact⟩ := ih fun y hy => least y (List.mem_cons_of_mem x hy)
    rw [List.sum_cons, List.length_cons, Nat.succ_mul, List.forall_mem_cons, ← exact]
    omega

section Entries

variable {engine : Engine} {kind : HookKind} {slots : List Nat} {h h' : ScriptHost}
  {rounds : List (List HookCall)}

theorem Rounds.entries_of_mem (run : Rounds engine kind slots h rounds h')
    (owned : h.Lives Sandbox.Owned) {calls : List HookCall} (mem : calls ∈ rounds) :
    ∃ i < rounds.length,
      calls.map (·.entry) = h.registered kind ++ lateEntries kind (rounds.take i) := by
  obtain ⟨i, bound, at_i⟩ := List.getElem_of_mem mem
  exact ⟨i, bound, run.entries_eq owned i calls (List.getElem?_eq_some_iff.2 ⟨bound, at_i⟩)⟩

theorem Rounds.entries_same_iff (run : Rounds engine kind slots h rounds h')
    (owned : h.Lives Sandbox.Owned) :
    (∀ calls ∈ rounds, calls.map (·.entry) = h.registered kind) ↔
      QuietBeforeLast kind rounds := by
  rw [lateEntries_take_eq_nil]
  constructor
  · intro all i bound
    have call := run.entries_eq owned i rounds[i] (List.getElem?_eq_getElem bound)
    rw [all rounds[i] (List.getElem_mem bound)] at call
    exact List.append_cancel_left (call.symm.trans (List.append_nil _).symm)
  · intro none_late calls mem
    obtain ⟨i, bound, call⟩ := run.entries_of_mem owned mem
    rw [call, none_late i bound, List.append_nil]

theorem Rounds.sum_length_iff (run : Rounds engine kind slots h rounds h')
    (owned : h.Lives Sandbox.Owned) :
    (rounds.map List.length).sum = rounds.length * h.hookCount kind ↔
      ∀ calls ∈ rounds, calls.map (·.entry) = h.registered kind := by
  have size {calls : List HookCall} {i : Nat}
      (call : calls.map (·.entry) = h.registered kind ++ lateEntries kind (rounds.take i)) :
      calls.length = h.hookCount kind + (lateEntries kind (rounds.take i)).length := by
    rw [hookCount_eq, ← List.length_append, ← call, List.length_map]
  have lengths : ∀ n ∈ rounds.map List.length, h.hookCount kind ≤ n := by
    rw [List.forall_mem_map]
    intro calls mem
    obtain ⟨i, -, call⟩ := run.entries_of_mem owned mem
    exact Nat.le.intro (size call).symm
  have counted := (length_mul_le_sum (h.hookCount kind) (rounds.map List.length) lengths).2
  rw [List.length_map, List.forall_mem_map] at counted
  rw [counted]
  refine forall₂_congr fun calls mem => ?_
  obtain ⟨i, -, call⟩ := run.entries_of_mem owned mem
  rw [size call, call, Nat.add_eq_left, List.length_eq_zero_iff, List.append_right_eq_self]

end Entries

/-- A player hook is dispatched slot by slot. A slot calls what was registered when the dispatch
began, followed by what the slots before it have registered since. So all slots call just what
was registered when the dispatch began, and there are as many calls as slots times callbacks,
exactly when no slot but the last registers for the kind. -/
theorem player_hook_calls (engine : Engine) (law : engine.KeepsSlots) (h : ScriptHost)
    (reached : Reachable engine h) (active : h.isActive = true) (kind : HookKind)
    (takes : kind.takesPlayer = true) :
    ∃ rounds, Rounds engine kind (List.range h.players.size) h rounds
        (h.dispatch engine kind).2 ∧
      rounds.length = h.players.size ∧
      (h.dispatch engine kind).1.invoked = (rounds.map List.length).sum ∧
      (∀ (i : Nat) (calls : List HookCall), rounds[i]? = some calls →
        calls.map (·.entry) = h.registered kind ++ lateEntries kind (rounds.take i)) ∧
      ((∀ calls ∈ rounds, calls.map (·.entry) = h.registered kind) ↔
        QuietBeforeLast kind rounds) ∧
      ((h.dispatch engine kind).1.invoked = h.players.size * h.hookCount kind ↔
        QuietBeforeLast kind rounds) := by
  obtain ⟨rounds, run, length, total⟩ := dispatch_rounds engine law kind takes h active
  have owned := reached.lives Sandbox.kept_owned
  have same := run.entries_same_iff owned
  refine ⟨rounds, run, length, congrArg DispatchReport.invoked total, run.entries_eq owned, same, ?_⟩
  rw [total, ← length]
  exact (run.sum_length_iff owned).trans same

/-- A server with two players, started on a script that registers a callback of its own kind
whenever it is called. -/
def selfRegistering : ScriptHost :=
  let text := "hook_event(HOOK_PLAYER_UPDATE, |p| \x7b "
    ++ "hook_event(HOOK_PLAYER_UPDATE, |q| \x7b \x7d); \x7d);"
  let config := { ScriptingConfig.default with
    maxPlayers := 2, mods := ⟨[⟨"a.rhai", true⟩], []⟩ }
  let files : Files := .ofNodes [(["a.rhai"], .file text.toUTF8 0)]
  (HostAction.start files).apply .standard (.ofConfig config)

theorem selfRegistering_reachable : Reachable .standard selfRegistering := by
  unfold selfRegistering
  exact .step _ (.new _)

theorem selfRegistering_runs :
    selfRegistering.isActive = true ∧ selfRegistering.players.size = 2 ∧
      selfRegistering.hookCount .playerUpdate = 1 ∧
      (selfRegistering.dispatch .standard .playerUpdate).1.invoked = 3 := by
  decide +kernel

/-- One callback is registered and there are two slots, but three calls are made: the second
slot also calls what the first has registered. -/
theorem selfRegistering_calls_late :
    ∃ h, Reachable .standard h ∧ h.isActive = true ∧ h.hookCount .playerUpdate = 1 ∧
      (h.dispatch .standard .playerUpdate).1.invoked ≠
        h.players.size * h.hookCount .playerUpdate := by
  obtain ⟨active, size, count, invoked⟩ := selfRegistering_runs
  refine ⟨selfRegistering, selfRegistering_reachable, active, count, ?_⟩
  rw [invoked, size, count]
  decide

theorem selfRegistering_not_quiet :
    ∃ rounds, Rounds .standard .playerUpdate (List.range selfRegistering.players.size)
        selfRegistering rounds (selfRegistering.dispatch .standard .playerUpdate).2 ∧
      ¬ QuietBeforeLast .playerUpdate rounds := by
  obtain ⟨active, size, count, invoked⟩ := selfRegistering_runs
  obtain ⟨rounds, run, -, -, -, -, counted⟩ := player_hook_calls .standard
    Engine.standard_keepsSlots selfRegistering selfRegistering_reachable active
    .playerUpdate rfl
  refine ⟨rounds, run, fun quiet => ?_⟩
  have equal := counted.2 quiet
  rw [invoked, size, count] at equal
  cases equal

end ScriptHost

end ModHost
