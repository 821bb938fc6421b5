import ModHost.Proofs.Isolation
import ModHost.Proofs.LastStarts

set_option autoImplicit false

/-!
# Active and inactive hosts

A host has a session or none, and there is nothing between. It has one exactly when its last start
reported no setup error and nothing has ended the session since. Without a session there is nothing
to be asked, nothing is watched, and no dispatch does anything. A start that fails in its setup
leaves such a host, whatever was live before, and tells its one error.
-/

namespace ModHost

open HostAction (run answers)

namespace ScriptHost

/-- What a host without a session is: nothing of a session can be seen, and nothing that only a
session would run has any effect. -/
structure Inactive (engine : Engine) (h : ScriptHost) : Prop where
  hookCount (kind : HookKind) : h.hookCount kind = 0
  loadedScripts : h.loadedScripts = []
  scriptGlobal (path : Path) (name : String) : h.scriptGlobal path name = none
  hostGlobal (name : String) : h.hostGlobal name = none
  watched : h.watched = []
  dispatch (a : HostAction) : a.runsHooks = true →
    a.answer engine h = .dispatched .empty ∧ a.apply engine h = h
  reload (files : Files) : h.reloadIfChanged engine files = (false, h)

section Dead

variable (engine : Engine) {h : ScriptHost} (dead : h.session = none)

include dead

theorem dispatchPlayer_none (kind : HookKind) (slot : Nat) :
    h.dispatchPlayer engine kind slot = (.empty, h) := by
  unfold dispatchPlayer
  split
  · exact runHooks_none engine kind [] h dead
  · rw [dead]

theorem dispatchSlots_none (kind : HookKind) (slots : List Nat) (report : DispatchReport) :
    dispatchSlots engine kind slots h report = (report, h) := by
  induction slots with
  | nil => rfl
  | cons slot rest ih =>
    have merged : report.merge .empty = report := by
      simp only [DispatchReport.merge, DispatchReport.empty, Nat.add_zero, List.append_nil]
    rw [dispatchSlots, dispatchPlayer_none engine dead]
    dsimp only
    rw [merged, ih]

theorem dispatch_none (kind : HookKind) : h.dispatch engine kind = (.empty, h) := by
  unfold ScriptHost.dispatch
  split
  · exact dispatchSlots_none engine dead kind _ .empty
  · exact runHooks_none engine kind [] h dead

theorem runFrame_none : h.runFrame engine = (.empty, h) := by
  simp only [runFrame, tick, dispatch_none engine dead]
  rfl

theorem runsHooks_none {a : HostAction} (hooks : a.runsHooks = true) :
    a.answer engine h = .dispatched .empty ∧ a.apply engine h = h := by
  cases a with
  | dispatch kind =>
    simp only [HostAction.answer, HostAction.apply, dispatch_none engine dead, and_self]
  | dispatchPlayer kind slot =>
    simp only [HostAction.answer, HostAction.apply, dispatchPlayer_none engine dead, and_self]
  | tick =>
    simp only [HostAction.answer, HostAction.apply, tick, dispatch_none engine dead, and_self]
  | runFrame =>
    simp only [HostAction.answer, HostAction.apply, runFrame_none engine dead, and_self]
  | _ => cases hooks

theorem inactive_of_dead (blind : h.watched = []) : h.Inactive engine where
  hookCount kind := by rw [ScriptHost.hookCount, dead]
  loadedScripts := by rw [ScriptHost.loadedScripts, dead]
  scriptGlobal path name := by rw [ScriptHost.scriptGlobal, dead, Option.bind_none]
  hostGlobal name := by rw [ScriptHost.hostGlobal, dead, Option.bind_none]
  watched := blind
  dispatch _ hooks := runsHooks_none engine dead hooks
  reload files := by
    rw [reloadIfChanged_eq, changed?, blind]
    rfl

end Dead

theorem not_isActive {h : ScriptHost} : h.isActive = false ↔ h.session = none := by
  rw [isActive, Option.isSome_eq_false_iff, Option.isNone_iff_eq_none]

end ScriptHost

theorem HostAction.refused {engine : Engine} {h : ScriptHost} {a : HostAction} {report : InitReport}
    {e : ScriptError} (started : a.answer engine h = .started report)
    (failed : report.setupError = some e) :
    report = { InitReport.empty with setupError := some e } ∧
      (a.apply engine h).isActive = false ∧
      (a.apply engine h).failures = h.failures ++ [e] := by
  obtain ⟨files, events, -, rfl, left⟩ := started_eq started
  have refused : ((h.say events).start engine files).1.isActive = false := by
    rw [InitReport.isActive, failed]
    rfl
  have queue := (ScriptHost.starts_start engine files (h.say events)).failures
  have active := ScriptHost.start_isActive engine files (h.say events)
  obtain ⟨e', whole⟩ := ScriptHost.start_refused engine files (h.say events) refused
  rw [whole] at failed
  cases failed
  rw [left, active, queue, whole]
  exact ⟨rfl, rfl, rfl⟩

/-- A host is active exactly when its last start has reported no setup error and nothing has ended
the session since; when it is not, nothing of a session is left and nothing runs; and a start that
fails in its setup, also when a reload makes it, tells its error once and leaves the host inactive. -/
theorem active_iff_started (engine : Engine) (config : ScriptingConfig)
    (actions : List HostAction) :
    let h := run engine (.ofConfig config) actions
    (h.isActive = true ↔
      ∃ last : LastStart engine (.ofConfig config) actions, last.report.isActive = true) ∧
    (h.isActive = false → h.Inactive engine) ∧
    ∀ (a : HostAction) (report : InitReport) (e : ScriptError),
      a.answer engine h = .started report → report.setupError = some e →
      report = { InitReport.empty with setupError := some e } ∧
        (a.apply engine h).isActive = false ∧
        (a.apply engine h).failures = h.failures ++ [e] := by
  refine ⟨?_, fun dead => ?_, fun a report e started failed => HostAction.refused started failed⟩
  · constructor
    · intro active
      obtain ⟨⟨last⟩⟩ | ⟨dead, -⟩ := HostAction.lastStart_or engine config actions
      · exact ⟨last, last.decides.1.symm.trans active⟩
      · exact absurd active (Bool.eq_false_iff.1 dead)
    · rintro ⟨last, sound⟩
      exact last.decides.1.trans sound
  · exact ScriptHost.inactive_of_dead engine (ScriptHost.not_isActive.1 dead)
      (HostAction.watched_of_inactive dead)

def withLibrary (config : ScriptingConfig) (name : String) : ScriptingConfig :=
  { config with libraries := config.libraries ++ [name] }

/-- A session is live, and the next start finds a fault in the configuration. -/
def spoiled : List HostAction :=
  [.start Files.empty, .configure (withLibrary ScriptingConfig.default "fs"), .start Files.empty]

theorem spoiled_refused :
    let h := run .standard (.ofConfig ScriptingConfig.default) (spoiled.take 2)
    h.isActive = true ∧ ∃ report e,
      (HostAction.start Files.empty).answer .standard h = .started report ∧
        report.setupError = some e ∧
        (run .standard (.ofConfig ScriptingConfig.default) spoiled).failures = h.failures ++ [e] ∧
        (run .standard (.ofConfig ScriptingConfig.default) spoiled).Inactive .standard := by
  have active : (run .standard (.ofConfig ScriptingConfig.default) (spoiled.take 2)).isActive =
      true := by decide +kernel
  obtain ⟨e, failed⟩ : ∃ e, ((run .standard (.ofConfig ScriptingConfig.default)
      (spoiled.take 2)).start .standard Files.empty).1.setupError = some e :=
    Option.isSome_iff_exists.1 (by decide +kernel)
  obtain ⟨-, -, refused⟩ := active_iff_started .standard ScriptingConfig.default (spoiled.take 2)
  obtain ⟨-, dead, queue⟩ := refused (.start Files.empty) _ e rfl failed
  obtain ⟨-, inactive, -⟩ := active_iff_started .standard ScriptingConfig.default spoiled
  exact ⟨active, _, e, rfl, failed, queue, inactive dead⟩

end ModHost
