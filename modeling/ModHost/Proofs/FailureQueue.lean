import ModHost.Proofs.HostSteps

set_option autoImplicit false

/-!
# The queue of failures

A failure is told twice: by the report of the action in which it occurred, and by the queue of the
host, which keeps it until it is taken. The two always agree. What has been taken so far, followed by
what still waits, lists all failures that the reports have told, each once and in the same order.
-/

namespace ModHost

namespace HostAnswer

def told : HostAnswer → List ScriptError
  | started report => report.told
  | dispatched report => report.failures
  | nothing | ended | took _ => []

def taken : HostAnswer → List ScriptError
  | took failures => failures
  | nothing | started _ | ended | dispatched _ => []

end HostAnswer

theorem ScriptHost.HookRuns.failures {engine : Engine} {h : ScriptHost}
    {asks : HookAsks} {left : DispatchReport × ScriptHost} (runs : h.HookRuns engine asks left) :
    left.2.failures = h.failures ++ left.1.failures := by
  induction runs with
  | nothing | ignored => exact (List.append_nil _).symm
  | hooks kind args _ h =>
    unfold runHooks
    cases h.session with
    | none => exact (List.append_nil _).symm
    | some session => rfl
  | merge _ _ first second =>
    rw [second, first, List.append_assoc]
    rfl

theorem HostStep.failures {engine : Engine} {h h' : ScriptHost} {answer : HostAnswer}
    (step : HostStep engine h answer h') :
    answer.taken ++ h'.failures = h.failures ++ answer.told := by
  cases step with
  | outside _ _ failures => simpa [HostAnswer.taken, HostAnswer.told] using failures
  | @start said files _ failures =>
    rw [← failures]
    exact (ScriptHost.starts_start engine files said).failures
  | shutdown => simpa [HostAnswer.taken, HostAnswer.told] using h.shutdown_failures
  | run runs => exact runs.failures
  | take => rfl

namespace HostAction

theorem taken_append_failures (engine : Engine) (h : ScriptHost) (actions : List HostAction) :
    (answers engine h actions).flatMap HostAnswer.taken ++ (run engine h actions).failures =
      h.failures ++ (answers engine h actions).flatMap HostAnswer.told := by
  induction actions generalizing h with
  | nil => exact (List.append_nil _).symm
  | cons a rest ih =>
    have step := (a.step engine h).failures
    have later := ih (a.apply engine h)
    simp only [answers, List.flatMap_cons, List.append_assoc]
    change _ ++ (_ ++ (run engine (a.apply engine h) rest).failures) = _
    rw [later, ← List.append_assoc, step, List.append_assoc]

/-- Whatever is done with a host, no failure is lost and none is told twice: the failures taken so
far and those that still wait are, in this order, the failures that the reports have told. -/
theorem failures_told_once (engine : Engine) (config : ScriptingConfig)
    (actions : List HostAction) :
    (answers engine (.ofConfig config) actions).flatMap HostAnswer.taken ++
        (run engine (.ofConfig config) actions).failures =
      (answers engine (.ofConfig config) actions).flatMap HostAnswer.told :=
  taken_append_failures engine (.ofConfig config) actions

end HostAction

end ModHost
