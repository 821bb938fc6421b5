import ModHost.Proofs.HostRuns

set_option autoImplicit false

/-!
# Steps of a host

What an action answers, and the few ways in which it can change the host: it starts a session, it
ends one, it runs hooks, it takes the failures, or it leaves all of this alone. A reload that finds a
change starts a session like any other start; the report, which the caller of a reload does not see,
is counted among the answers all the same.
-/

namespace ModHost

inductive HostAnswer where
  | nothing
  | started (report : InitReport)
  | ended
  | dispatched (report : DispatchReport)
  | took (failures : List ScriptError)

namespace InitReport

def told (r : InitReport) : List ScriptError := r.setupError.toList ++ r.failures

end InitReport

namespace ScriptHost

theorem shutdown_sessions (h : ScriptHost) : h.shutdown.sessions = h.sessions := by
  unfold shutdown
  split <;> rfl

theorem shutdown_failures (h : ScriptHost) : h.shutdown.failures = h.failures := by
  unfold shutdown
  split <;> rfl

theorem buildSession_id {engine : Engine} {h : ScriptHost} {session : Session}
    {log : List LogEvent} (built : buildSession engine h = (.ok session, log)) :
    session.id = h.sessions := by
  obtain ⟨_, _, -, rfl⟩ := buildSession_eq built
  rfl

/-- What a start leaves: no session, or one under the next number; and the failures that it
reports, behind those that wait already. -/
structure Starts (h : ScriptHost) (report : InitReport) (h' : ScriptHost) : Prop where
  session : h'.session = none ∧ h'.sessions = h.sessions ∨
    ∃ session, h'.session = some session ∧ session.id = h.sessions ∧ h'.sessions = h.sessions + 1
  failures : h'.failures = h.failures ++ report.told

/-- The host as it begins to load scripts into a new session. -/
def announced (h : ScriptHost) : ScriptHost :=
  { h with sessions := h.sessions + 1 }.say
    [.info s!"Loading scripts ({h.config.role.label} role):"]

theorem starts_openSession (engine : Engine) (files : Files) (session : Session) (h : ScriptHost)
    (next : session.id = h.sessions) :
    h.Starts (openSession engine files session h).1 (openSession engine files session h).2 := by
  obtain ⟨attempts, sb', s', -, result⟩ := loadEntries_loading engine files
    h.config.activeMods .empty h.announced session.sandbox (h.announced.scene session.generator)
  have report := congrArg Prod.fst result
  have host := congrArg (·.2.1) result
  refine ⟨.inr ⟨_, rfl, next, congrArg ScriptHost.sessions host⟩, ?_⟩
  exact (congrArg ScriptHost.failures host).trans
    (congrArg (fun r => h.failures ++ InitReport.told r) report).symm

theorem starts_start (engine : Engine) (files : Files) (h : ScriptHost) :
    h.Starts (h.start engine files).1 (h.start engine files).2 := by
  have sessions : h.readied.sessions = h.sessions := shutdown_sessions h
  have failures : h.readied.failures = h.failures := shutdown_failures h
  unfold start
  dsimp only
  split
  · next e log _ =>
    refine ⟨.inl ⟨readied_session h, sessions⟩, ?_⟩
    exact congrArg (· ++ [e]) failures
  · next session log built =>
    have opened := starts_openSession engine files session (h.readied.say log)
      (buildSession_id built)
    refine ⟨?_, ?_⟩
    · rw [← sessions]
      exact opened.session
    · rw [← failures]
      exact opened.failures

/-- The first watched path that is no longer as it was seen. -/
def changed? (files : Files) (h : ScriptHost) : Option Path :=
  (h.watched.find? fun (path, seen) => files.stamp? path ≠ seen).map (·.1)

def sayChanged (path : Path) (h : ScriptHost) : ScriptHost :=
  h.say [.info s!"Detected change in {path}, reloading scripts"]

theorem reloadIfChanged_eq (engine : Engine) (files : Files) (h : ScriptHost) :
    h.reloadIfChanged engine files =
      match h.changed? files with
      | some path => (true, ((h.sayChanged path).start engine files).2)
      | none => (false, h) := by
  unfold reloadIfChanged changed?
  cases h.watched.find? fun (path, seen) => files.stamp? path ≠ seen <;> rfl

end ScriptHost

namespace HostAction

open ScriptHost

def answer (engine : Engine) (h : ScriptHost) : HostAction → HostAnswer
  | configure _ | bind _ | assign _ _ | resize _ | takeLogs => .nothing
  | start files => .started (h.start engine files).1
  | shutdown => .ended
  | dispatch kind => .dispatched (h.dispatch engine kind).1
  | dispatchPlayer kind slot => .dispatched (h.dispatchPlayer engine kind slot).1
  | tick => .dispatched (h.tick engine).1
  | runFrame => .dispatched (h.runFrame engine).1
  | reloadIfChanged files =>
    match h.changed? files with
    | some path => .started ((h.sayChanged path).start engine files).1
    | none => .nothing
  | takeFailures => .took h.takeFailures.1

def run (engine : Engine) (h : ScriptHost) (actions : List HostAction) : ScriptHost :=
  actions.foldl (apply engine) h

def answers (engine : Engine) : ScriptHost → List HostAction → List HostAnswer
  | _, [] => []
  | h, a :: rest => a.answer engine h :: answers engine (a.apply engine h) rest

end HostAction

/-- `HostStep engine h answer h'`: the ways in which one action leads from a host to the next. -/
inductive HostStep (engine : Engine) (h : ScriptHost) : HostAnswer → ScriptHost → Prop
  | outside {h' : ScriptHost} (session : h'.session = h.session)
      (sessions : h'.sessions = h.sessions) (failures : h'.failures = h.failures)
      (watched : h'.watched = h.watched) : HostStep engine h .nothing h'
  | start {said : ScriptHost} (files : Files) (sessions : said.sessions = h.sessions)
      (failures : said.failures = h.failures) :
      HostStep engine h (.started (said.start engine files).1) (said.start engine files).2
  | shutdown : HostStep engine h .ended h.shutdown
  | run {asks : HookAsks} {left : DispatchReport × ScriptHost}
      (runs : h.HookRuns engine asks left) :
      HostStep engine h (.dispatched left.1) left.2
  | take : HostStep engine h (.took h.failures) { h with failures := [] }

theorem HostAction.step (engine : Engine) (h : ScriptHost) (a : HostAction) :
    HostStep engine h (a.answer engine h) (a.apply engine h) := by
  cases a with
  | configure | bind | assign | resize | takeLogs => exact .outside rfl rfl rfl rfl
  | start files => exact .start files rfl rfl
  | shutdown => exact .shutdown
  | dispatch kind => exact .run (ScriptHost.hookRuns_dispatch engine kind h)
  | dispatchPlayer kind slot => exact .run (ScriptHost.hookRuns_dispatchPlayer engine kind slot h)
  | tick => exact .run (ScriptHost.hookRuns_dispatch engine .update h)
  | runFrame => exact .run (ScriptHost.hookRuns_runFrame engine h)
  | reloadIfChanged files =>
    simp only [answer, apply, ScriptHost.reloadIfChanged_eq]
    cases h.changed? files with
    | some path => exact .start files rfl rfl
    | none => exact .outside rfl rfl rfl rfl
  | takeFailures => exact .take

end ModHost
