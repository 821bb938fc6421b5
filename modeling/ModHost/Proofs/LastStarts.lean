import Mathlib.Data.List.Induction
import ModHost.Proofs.ProxySessions
import ModHost.Proofs.StartReports

set_option autoImplicit false

/-!
# The last start

Whether a host is active and which files it watches is decided by the last start of its history,
provided that nothing has ended the session since. A start leaves a session exactly when it reports
no setup error, and it watches what it has attempted, each script with the stamp that it had then.
What is done afterwards changes neither, until the next start or shutdown.
-/

namespace ModHost

open HostAction (run answers)

def HostAction.files? : HostAction → Option Files
  | start files | reloadIfChanged files => some files
  | _ => none

/-- The last start among the actions done with a host, which may be a reload that has found a
change. Nothing after it has started or ended a session. -/
structure LastStart (engine : Engine) (h : ScriptHost) (actions : List HostAction) where
  before : List HostAction
  action : HostAction
  after : List HostAction
  files : Files
  report : InitReport
  split : actions = before ++ action :: after
  started : action.answer engine (run engine h before) = .started report
  given : action.files? = some files
  stays : ∀ r ∈ answers engine (run engine h (before ++ [action])) after, r.endsSession = false

def LastStart.config {engine : Engine} {h : ScriptHost} {actions : List HostAction}
    (last : LastStart engine h actions) : ScriptingConfig := (run engine h last.before).config

namespace HostAction

theorem run_append (engine : Engine) (h : ScriptHost) (xs ys : List HostAction) :
    run engine h (xs ++ ys) = run engine (run engine h xs) ys := List.foldl_append

theorem answers_append (engine : Engine) (h : ScriptHost) (xs ys : List HostAction) :
    answers engine h (xs ++ ys) = answers engine h xs ++ answers engine (run engine h xs) ys := by
  induction xs generalizing h with
  | nil => rfl
  | cons a rest ih => exact congrArg (a.answer engine h :: ·) (ih (a.apply engine h))

end HostAction

namespace ScriptHost

/-- The scripts that a start has attempted, as they were then. -/
def stamps (files : Files) (report : InitReport) : List (Path × Option Files.Stamp) :=
  report.attempted.map fun path => (path, files.stamp? path)

theorem shutdown_watched (h : ScriptHost) : h.shutdown.watched = [] := by
  unfold shutdown
  split <;> rfl

theorem openSession_watched (engine : Engine) (files : Files) (session : Session) (h : ScriptHost)
    (fresh : h.watched = []) :
    (openSession engine files session h).2.watched =
      stamps files (openSession engine files session h).1 := by
  obtain ⟨attempts, sb', s', -, result⟩ := loadEntries_loading engine files
    h.config.activeMods .empty h.announced session.sandbox (h.announced.scene session.generator)
  have report : (openSession engine files session h).1.attempted = attempts.map (·.path) :=
    congrArg (fun r => InitReport.attempted (Prod.fst r)) result
  have watched : (openSession engine files session h).2.watched =
      h.watched ++ attempts.map fun a => (a.path, files.stamp? a.path) :=
    congrArg (·.2.1.watched) result
  rw [watched, fresh, stamps, report, List.map_map]
  rfl

theorem start_watched (engine : Engine) (files : Files) (h : ScriptHost) :
    (h.start engine files).2.watched = stamps files (h.start engine files).1 := by
  have fresh : h.readied.watched = [] := shutdown_watched h
  unfold start
  dsimp only
  split
  · exact fresh
  · exact openSession_watched engine files _ _ fresh

theorem start_isActive (engine : Engine) (files : Files) (h : ScriptHost) :
    (h.start engine files).2.isActive = (h.start engine files).1.isActive := by
  unfold isActive InitReport.isActive
  obtain ⟨e, report, dead⟩ | ⟨_, _, _, attempts, _, _, session, _, _, report, live, _⟩ :=
    start_cases engine files h
  · rw [report, dead]
    rfl
  · rw [report, live]
    rfl

/-- A start that finds a fault in the setup reports this fault and nothing else. -/
theorem start_refused (engine : Engine) (files : Files) (h : ScriptHost)
    (refused : (h.start engine files).1.isActive = false) :
    ∃ e, (h.start engine files).1 = { InitReport.empty with setupError := some e } := by
  obtain ⟨e, report, -⟩ | ⟨_, _, _, _, _, _, _, _, _, report, _⟩ := start_cases engine files h
  · exact ⟨e, report⟩
  · rw [report] at refused
    cases refused

theorem start_attempted (engine : Engine) (files : Files) (h : ScriptHost)
    (sound : (h.start engine files).1.isActive = true) :
    (h.start engine files).1.attempted =
      (h.config.activeMods.filter (·.enabled)).map (·.path) := by
  obtain ⟨e, report, -⟩ | ⟨_, _, _, attempts, _, _, _, _, loading, report, _⟩ :=
    start_cases engine files h
  · rw [report] at sound
    cases sound
  · rw [report, ← loading.map_path]
    rfl

theorem HookRuns.watched {engine : Engine} {h : ScriptHost} {asks : HookAsks}
    {left : DispatchReport × ScriptHost} (runs : h.HookRuns engine asks left) :
    left.2.watched = h.watched := by
  induction runs with
  | nothing | ignored => rfl
  | hooks kind args _ h =>
    unfold runHooks
    cases h.session <;> rfl
  | merge _ _ first second => exact second.trans first

theorem isActive_eq_liveId (h : ScriptHost) : h.isActive = h.liveId.isSome := by
  unfold isActive liveId
  rw [Option.isSome_map]

end ScriptHost

theorem HostStep.watched_of_stays {engine : Engine} {h h' : ScriptHost} {answer : HostAnswer}
    (step : HostStep engine h answer h') (stays : answer.endsSession = false) :
    h'.watched = h.watched := by
  cases step with
  | outside _ _ _ watched => exact watched
  | start | shutdown => cases stays
  | run runs => exact runs.watched
  | take => rfl

namespace HostAction

variable {engine : Engine} {h : ScriptHost}

theorem run_stays {actions : List HostAction}
    (stays : ∀ r ∈ answers engine h actions, r.endsSession = false) :
    (run engine h actions).watched = h.watched ∧
      (run engine h actions).isActive = h.isActive := by
  induction actions generalizing h with
  | nil => exact ⟨rfl, rfl⟩
  | cons a rest ih =>
    obtain ⟨now, later⟩ := List.forall_mem_cons.1 stays
    have step := a.step engine h
    obtain ⟨watched, active⟩ := ih later
    refine ⟨watched.trans (step.watched_of_stays now), active.trans ?_⟩
    rw [ScriptHost.isActive_eq_liveId, ScriptHost.isActive_eq_liveId, (step.liveId_of_stays now).1]

theorem started_eq {a : HostAction} {report : InitReport}
    (started : a.answer engine h = .started report) :
    ∃ files events, a.files? = some files ∧ report = ((h.say events).start engine files).1 ∧
      a.apply engine h = ((h.say events).start engine files).2 := by
  cases a with
  | start files =>
    cases started
    have same : h.say [] = h := by
      unfold ScriptHost.say
      rw [List.append_nil]
    refine ⟨files, [], rfl, ?_, ?_⟩ <;> rw [same]
    rfl
  | reloadIfChanged files =>
    simp only [answer] at started
    simp only [apply, ScriptHost.reloadIfChanged_eq]
    split at started
    · next path found =>
      cases started
      exact ⟨files, _, rfl, rfl, rfl⟩
    · cases started
  | _ => cases started

theorem ended_eq {a : HostAction} (ended : a.answer engine h = .ended) :
    a.apply engine h = h.shutdown := by
  cases a with
  | shutdown => rfl
  | reloadIfChanged files =>
    simp only [answer] at ended
    split at ended <;> cases ended
  | _ => cases ended

end HostAction

namespace LastStart

variable {engine : Engine} {h : ScriptHost} {actions : List HostAction}

/-- The last start decides whether the host is active and what it watches. -/
theorem decides (last : LastStart engine h actions) :
    (run engine h actions).isActive = last.report.isActive ∧
      (run engine h actions).watched = ScriptHost.stamps last.files last.report := by
  obtain ⟨watched, active⟩ := HostAction.run_stays last.stays
  have whole : run engine h actions =
      run engine (run engine h (last.before ++ [last.action])) last.after := by
    rw [← HostAction.run_append, List.append_assoc]
    exact congrArg (run engine h) last.split
  obtain ⟨files, events, given, report, left⟩ := HostAction.started_eq last.started
  obtain rfl : last.files = files := Option.some.inj (last.given.symm.trans given)
  rw [HostAction.run_append] at watched active whole
  change _ = (last.action.apply engine (run engine h last.before)).isActive at active
  change _ = (last.action.apply engine (run engine h last.before)).watched at watched
  rw [whole, active, watched, left, report]
  exact ⟨ScriptHost.start_isActive engine last.files _, ScriptHost.start_watched engine last.files _⟩

theorem attempted_eq (last : LastStart engine h actions) (sound : last.report.isActive = true) :
    last.report.attempted = (last.config.activeMods.filter (·.enabled)).map (·.path) := by
  obtain ⟨files, events, -, report, -⟩ := HostAction.started_eq last.started
  rw [report] at sound ⊢
  exact ScriptHost.start_attempted engine files _ sound

/-- Without an action that starts or ends a session, the last start is still the last. -/
def extend (last : LastStart engine h actions) (a : HostAction)
    (stays : (a.answer engine (run engine h actions)).endsSession = false) :
    LastStart engine h (actions ++ [a]) where
  before := last.before
  action := last.action
  after := last.after ++ [a]
  files := last.files
  report := last.report
  split := (congrArg (· ++ [a]) last.split).trans (List.append_assoc _ _ _)
  started := last.started
  given := last.given
  stays := by
    have whole : run engine (run engine h (last.before ++ [last.action])) last.after =
        run engine h actions := by
      rw [← HostAction.run_append, List.append_assoc]
      exact congrArg (run engine h) last.split.symm
    rw [HostAction.answers_append, List.forall_mem_append, whole]
    exact ⟨last.stays, by simpa [answers] using stays⟩

end LastStart

/-- A new host that was never started, or whose session was ended since, is inactive and watches
nothing. -/
theorem HostAction.lastStart_or (engine : Engine) (config : ScriptingConfig)
    (actions : List HostAction) :
    Nonempty (LastStart engine (.ofConfig config) actions) ∨
      (run engine (.ofConfig config) actions).isActive = false ∧
        (run engine (.ofConfig config) actions).watched = [] := by
  induction actions using List.reverseRecOn with
  | nil => exact .inr ⟨rfl, rfl⟩
  | append_singleton actions a ih =>
    have last : run engine (.ofConfig config) (actions ++ [a]) =
        a.apply engine (run engine (.ofConfig config) actions) := run_append engine _ actions [a]
    have step := a.step engine (run engine (.ofConfig config) actions)
    cases answered : a.answer engine (run engine (.ofConfig config) actions) with
    | started report =>
      obtain ⟨files, -, given, -⟩ := started_eq answered
      exact .inl ⟨⟨actions, a, [], files, report, rfl, answered, given, nofun⟩⟩
    | ended =>
      rw [last, ended_eq answered]
      refine .inr ⟨?_, ScriptHost.shutdown_watched _⟩
      rw [ScriptHost.isActive, ScriptHost.shutdown_session]
      rfl
    | nothing | dispatched | took =>
      have stays : (a.answer engine (run engine (.ofConfig config) actions)).endsSession = false := by
        rw [answered]
        rfl
      obtain ⟨⟨earlier⟩⟩ | ⟨dead, blind⟩ := ih
      · exact .inl ⟨earlier.extend a stays⟩
      · have quiet : ∀ r ∈ answers engine (run engine (.ofConfig config) actions) [a],
            r.endsSession = false := by
          simpa [answers] using stays
        obtain ⟨watched, active⟩ := run_stays quiet
        rw [last]
        exact .inr ⟨active.trans dead, watched.trans blind⟩

theorem HostAction.watched_of_inactive {engine : Engine} {config : ScriptingConfig}
    {actions : List HostAction} (dead : (run engine (.ofConfig config) actions).isActive = false) :
    (run engine (.ofConfig config) actions).watched = [] := by
  obtain ⟨⟨last⟩⟩ | ⟨-, blind⟩ := lastStart_or engine config actions
  · obtain ⟨active, watched⟩ := last.decides
    obtain ⟨files, events, -, report, -⟩ := started_eq last.started
    obtain ⟨e, refused⟩ := ScriptHost.start_refused engine files _
      (report ▸ active.symm.trans dead)
    rw [watched, report, refused]
    rfl
  · exact blind

end ModHost
