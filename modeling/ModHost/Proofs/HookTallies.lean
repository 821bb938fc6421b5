import ModHost.Proofs.HostRuns

set_option autoImplicit false

/-!
# Tallies of hooks

However the host runs hooks, it makes one list of calls in its live session, and the report that it
answers is the tally of this list: as many callbacks as there are calls, and the failures of those
that failed, in order. A program that has not ended afterwards has ended in none of the calls.
-/

namespace ModHost

open Script (Value Ending)

def Script.Ending.abort? : Ending → Option String
  | .panicked message => some message
  | .exhausted => some "out of fuel"
  | .value _ | .failed _ => none

namespace Sandbox

theorem settle_aborted (sb : Sandbox) (s : Scene) (id : Nat) (r : Script.RunResult) :
    (sb.settle s id r).2.2.aborted = s.aborted.or r.ending.abort? := by
  obtain ⟨log, console, scene⟩ := receiveAll_scene
    { sb with units := sb.units.setMemory id r.memory } { s with world := r.world } r.emissions
  have received := congrArg Scene.aborted scene
  unfold settle
  cases r.ending with
  | value | failed =>
    rw [Ending.abort?, Option.or_none]
    exact received
  | panicked | exhausted =>
    refine (congrArg (· <|> some _) received).trans ?_
    cases s.aborted <;> rfl

theorem callEntry_aborted (engine : Engine) (kind : HookKind) (args : List Value)
    (entry : HookEntry) (unit : ScriptUnit) (sb : Sandbox) (s : Scene) :
    (callEntry engine kind args entry unit sb s).2.2.aborted =
      s.aborted.or (HookCall.ofState engine args entry unit sb s).result.ending.abort? := by
  rw [← settle_aborted (sb.enter entry.unit) s entry.unit]
  unfold callEntry
  dsimp only [HookCall.ofState]
  split <;> rfl

theorem Pass.aborted {engine : Engine} {kind : HookKind} {args : List Value}
    {entries : List HookEntry} {sb sb' : Sandbox} {s s' : Scene} {calls : List HookCall}
    (pass : Pass engine kind args entries sb s calls sb' s')
    (goes : s'.aborted = none) :
    s.aborted = none ∧ ∀ c ∈ calls, c.result.ending.abort? = none := by
  induction pass with
  | done => exact ⟨goes, by simp⟩
  | drop _ _ ih => exact ih goes
  | call _ _ ih =>
    obtain ⟨first, later⟩ := ih goes
    rw [callEntry_aborted] at first
    obtain ⟨before, quiet⟩ := Option.or_eq_none_iff.1 first
    exact ⟨before, List.forall_mem_cons.2 ⟨quiet, later⟩⟩

/-- `Passes engine sb calls sb'`: running hooks, of any kinds and any number of times, makes
these calls, each of the kind beside it. -/
inductive Passes (engine : Engine) : Sandbox → List (HookKind × HookCall) → Sandbox → Prop
  | done (sb : Sandbox) : Passes engine sb [] sb
  | pass {kind : HookKind} {args : List Script.Value} {sb between sb' : Sandbox}
      {s s' : Scene} {calls : List HookCall} {later : List (HookKind × HookCall)}
      (first : Pass engine kind args (sb.hooks.snapshot kind) sb s calls between s')
      (more : Passes engine between later sb') :
      Passes engine sb (calls.map (kind, ·) ++ later) sb'

def failureOf (c : HookKind × HookCall) : Option ScriptError := c.2.failure? c.1

section Passes

variable {engine : Engine} {sb sb' : Sandbox}

theorem Passes.append {between : Sandbox} {calls later : List (HookKind × HookCall)}
    (first : Passes engine sb calls between) (more : Passes engine between later sb') :
    Passes engine sb (calls ++ later) sb' := by
  induction first with
  | done => exact more
  | pass one _ ih =>
    rw [List.append_assoc]
    exact .pass one (ih more)

theorem Passes.isMade {calls : List (HookKind × HookCall)}
    (passes : Passes engine sb calls sb') : ∀ c ∈ calls, ∃ args, c.2.IsMade engine args := by
  induction passes with
  | done => simp
  | @pass kind args sb between sb' s s' now later one _ ih =>
    intro c hc
    rcases List.mem_append.1 hc with now | later
    · obtain ⟨call, hcall, rfl⟩ := List.mem_map.1 now
      exact ⟨args, one.isMade call hcall⟩
    · exact ih c later

end Passes

end Sandbox

namespace ScriptHost

/-- `Tally engine h calls (report, h')`: from one host to the other just these calls are made, each
of the kind beside it, and the report is theirs. -/
structure Tally (engine : Engine) (h : ScriptHost) (calls : List (HookKind × HookCall))
    (left : DispatchReport × ScriptHost) : Prop where
  made (session : Session) : h.session = some session →
    ∃ session', Sandbox.Passes engine session.sandbox calls session'.sandbox ∧
      left.2.session = some session'
  idle : h.session = none → calls = [] ∧ left.2.session = none
  counted : left.1 = ⟨calls.length, calls.filterMap Sandbox.failureOf⟩
  goes : left.2.aborted = none →
    h.aborted = none ∧ ∀ c ∈ calls, c.2.result.ending.abort? = none

variable {engine : Engine} {h : ScriptHost}

theorem tally_nothing {h' : ScriptHost} (session : h'.session = h.session)
    (aborted : h'.aborted = h.aborted) : Tally engine h [] (.empty, h') where
  made found live := ⟨found, .done _, session.trans live⟩
  idle dead := ⟨rfl, session.trans dead⟩
  counted := rfl
  goes quiet := ⟨aborted.symm.trans quiet, by simp⟩

theorem tally_runHooks (engine : Engine) (kind : HookKind) (args : List Value) (h : ScriptHost) :
    ∃ calls, Tally engine h calls (h.runHooks engine kind args) := by
  cases live : h.session with
  | none =>
    rw [runHooks_none engine kind args h live]
    exact ⟨[], tally_nothing rfl rfl⟩
  | some session =>
    obtain ⟨calls, s', session', pass, counted, after, -, aborted⟩ :=
      runHooks_pass engine kind args h live
    refine ⟨calls.map (kind, ·), ?made, ?idle, ?counted, ?goes⟩
    case made =>
      rintro found same
      obtain rfl := Option.some.inj (live.symm.trans same)
      have once := Sandbox.Passes.pass pass (.done _)
      rw [List.append_nil] at once
      exact ⟨session', once, after⟩
    case idle =>
      intro dead
      rw [live] at dead
      cases dead
    case counted =>
      rw [counted, List.length_map, List.filterMap_map]
      rfl
    case goes =>
      intro quiet
      obtain ⟨before, each⟩ := pass.aborted (aborted.symm.trans quiet)
      exact ⟨before, List.forall_mem_map.2 each⟩

theorem Tally.merge {first second : DispatchReport × ScriptHost}
    {calls later : List (HookKind × HookCall)} (tally : Tally engine h calls first)
    (more : Tally engine first.2 later second) :
    Tally engine h (calls ++ later) (first.1.merge second.1, second.2) where
  made session live := by
    obtain ⟨between, passes, stays⟩ := tally.made session live
    obtain ⟨session', rest, final⟩ := more.made between stays
    exact ⟨session', passes.append rest, final⟩
  idle dead := by
    obtain ⟨rfl, still⟩ := tally.idle dead
    exact more.idle still
  counted := by
    simp only [tally.counted, more.counted, DispatchReport.merge, List.length_append,
      List.filterMap_append]
  goes quiet := by
    obtain ⟨between, last⟩ := more.goes quiet
    obtain ⟨before, first⟩ := tally.goes between
    exact ⟨before, List.forall_mem_append.2 ⟨first, last⟩⟩

/-- However hooks are run, the report is that of one list of calls. -/
theorem HookRuns.tally {asks : HookAsks} {left : DispatchReport × ScriptHost}
    (runs : h.HookRuns engine asks left) :
    ∃ calls, Tally engine h calls left := by
  induction runs with
  | nothing | ignored => exact ⟨[], tally_nothing rfl rfl⟩
  | hooks kind args _ h => exact tally_runHooks engine kind args h
  | merge _ _ first second =>
    obtain ⟨calls, tally⟩ := first
    obtain ⟨later, more⟩ := second
    exact ⟨calls ++ later, tally.merge more⟩

end ScriptHost

end ModHost
