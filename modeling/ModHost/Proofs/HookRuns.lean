import ModHost.Host

set_option autoImplicit false

/-!
# Runs of hooks

However callbacks are run from outside, for one kind, one slot, every slot or a whole frame, it
comes down to running the hooks of a kind a number of times, one after the other, with the reports
merged. What a single run keeps is so kept by all of them.
-/

namespace ModHost

open Script (Value)

abbrev HookAsks := HookKind → List Value → Prop

/-- The callbacks of a player's hook get the player, and others get nothing. -/
def HookKind.argsFor (kind : HookKind) (slot : Nat) : List Value :=
  if kind.takesPlayer then [.player slot] else []

def HookKind.Takes (kind : HookKind) (args : List Value) : Prop :=
  ∃ slot, args = kind.argsFor slot

namespace ScriptHost

/-- `HookRuns engine asks h (report, h')`: hooks are run any number of times from one host to the
other, each time for a kind and with arguments that are asked for, and the report merges what each
run has told. -/
inductive HookRuns (engine : Engine) (asks : HookAsks) :
    ScriptHost → DispatchReport × ScriptHost → Prop
  | nothing (h : ScriptHost) : HookRuns engine asks h (.empty, h)
  | ignored (h : ScriptHost) (warning : LogEvent) :
      HookRuns engine asks h (.empty, h.say [warning])
  | hooks (kind : HookKind) (args : List Value) (asked : asks kind args) (h : ScriptHost) :
      HookRuns engine asks h (h.runHooks engine kind args)
  | merge {h : ScriptHost} {first second : DispatchReport × ScriptHost}
      (runs : HookRuns engine asks h first) (more : HookRuns engine asks first.2 second) :
      HookRuns engine asks h (first.1.merge second.1, second.2)

variable {engine : Engine} {asks asks' : HookAsks}

theorem HookRuns.mono {h : ScriptHost} {left : DispatchReport × ScriptHost}
    (runs : HookRuns engine asks h left) (fewer : ∀ kind args, asks kind args → asks' kind args) :
    HookRuns engine asks' h left := by
  induction runs with
  | nothing h => exact .nothing h
  | ignored h warning => exact .ignored h warning
  | hooks kind args asked h => exact .hooks kind args (fewer kind args asked) h
  | merge _ _ first second => exact first.merge second

theorem hookRuns_dispatchPlayer (engine : Engine) (kind : HookKind) (slot : Nat)
    (h : ScriptHost) :
    HookRuns engine (fun k args => k = kind ∧ args = kind.argsFor slot) h
      (h.dispatchPlayer engine kind slot) := by
  unfold dispatchPlayer
  split
  · next alone =>
    rw [Bool.not_eq_true'] at alone
    exact .hooks kind [] ⟨rfl, by rw [HookKind.argsFor, alone]; rfl⟩ h
  · next player =>
    rw [Bool.not_eq_true', Bool.not_eq_false] at player
    split
    · exact .nothing h
    · split
      · exact .hooks kind [.player slot] ⟨rfl, by rw [HookKind.argsFor, player]; rfl⟩ h
      · exact .ignored h _

theorem hookRuns_dispatchSlots (engine : Engine) (kind : HookKind) (slots : List Nat)
    {start h : ScriptHost} {report : DispatchReport}
    (before : HookRuns engine (fun k args => k = kind ∧ kind.Takes args) start (report, h)) :
    HookRuns engine (fun k args => k = kind ∧ kind.Takes args) start
      (dispatchSlots engine kind slots h report) := by
  induction slots generalizing h report with
  | nil => exact before
  | cons slot rest ih =>
    refine ih (before.merge ((hookRuns_dispatchPlayer engine kind slot h).mono ?_))
    exact fun k args asked => ⟨asked.1, slot, asked.2⟩

theorem hookRuns_dispatch (engine : Engine) (kind : HookKind) (h : ScriptHost) :
    HookRuns engine (fun k args => k = kind ∧ kind.Takes args) h (h.dispatch engine kind) := by
  unfold dispatch
  split
  · exact hookRuns_dispatchSlots engine kind _ (.nothing h)
  · next alone => exact .hooks kind [] ⟨rfl, 0, (if_neg alone).symm⟩ h

theorem hookRuns_runFrame (engine : Engine) (h : ScriptHost) :
    HookRuns engine HookKind.Takes h (h.runFrame engine) := by
  have phase (kind : HookKind) (h : ScriptHost) :
      HookRuns engine HookKind.Takes h (h.dispatch engine kind) := by
    refine (hookRuns_dispatch engine kind h).mono ?_
    rintro k args ⟨rfl, takes⟩
    exact takes
  exact ((phase .beforePlayerUpdate h).merge (phase .playerUpdate _)).merge (phase .update _)

end ScriptHost

end ModHost
