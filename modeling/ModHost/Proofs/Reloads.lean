import ModHost.Proofs.EarlierLogs
import ModHost.Proofs.LastStarts

set_option autoImplicit false

/-!
# Reloads

A reload looks at the scripts that the last start has attempted, whatever came of them, and starts
the host again when one of them is no longer as that start met it: edited, removed, or there when it
was missing. Files that nobody touches never cause a second reload.
-/

namespace ModHost

open HostAction (run answers)

/-- A script that was enabled at the last start, and so attempted, has another stamp now. -/
def LastStart.Outdated {engine : Engine} {h : ScriptHost} {actions : List HostAction}
    (last : LastStart engine h actions) (files : Files) : Prop :=
  ∃ e ∈ last.config.activeMods, e.enabled = true ∧ e.path ∈ last.report.attempted ∧
    files.stamp? e.path ≠ last.files.stamp? e.path

namespace ScriptHost

theorem reloadIfChanged_iff (engine : Engine) (files : Files) (h : ScriptHost) :
    (h.reloadIfChanged engine files).1 = true ↔ ∃ w ∈ h.watched, files.stamp? w.1 ≠ w.2 := by
  have found : (h.changed? files).isSome = true ↔ ∃ w ∈ h.watched, files.stamp? w.1 ≠ w.2 := by
    unfold changed?
    rw [Option.isSome_map, List.find?_isSome]
    simp
  rw [reloadIfChanged_eq, ← found]
  cases h.changed? files <;> simp

theorem reloadIfChanged_same {engine : Engine} {files : Files} {h : ScriptHost}
    (same : (h.reloadIfChanged engine files).1 = false) :
    (h.reloadIfChanged engine files).2 = h := by
  rw [reloadIfChanged_eq] at same ⊢
  split at same
  · cases same
  · rfl

theorem reloadIfChanged_start {engine : Engine} {files : Files} {h : ScriptHost}
    (changed : (h.reloadIfChanged engine files).1 = true) :
    ∃ (path : Path) (added : List LogEvent),
      (h.start engine files).2.log = h.log ++ added ∧
      (h.reloadIfChanged engine files).2 =
        { (h.start engine files).2 with
          log := h.log ++
            .info s!"Detected change in {path}, reloading scripts" :: added } := by
  rw [reloadIfChanged_eq] at changed ⊢
  split at changed
  · next path _ =>
    obtain ⟨-, added, log, left⟩ := start_say engine files h
      [.info s!"Detected change in {path}, reloading scripts"]
    exact ⟨path, added, log, left⟩
  · cases changed

theorem not_reload_of_stamps {engine : Engine} {files : Files} {h : ScriptHost}
    {report : InitReport} (watched : h.watched = stamps files report) :
    (h.reloadIfChanged engine files).1 = false := by
  rw [← Bool.not_eq_true, reloadIfChanged_iff, watched]
  rintro ⟨w, mem, differs⟩
  obtain ⟨path, -, rfl⟩ := List.mem_map.1 mem
  exact differs rfl

theorem not_reload_again (engine : Engine) (files : Files) (h : ScriptHost) :
    ((h.reloadIfChanged engine files).2.reloadIfChanged engine files).1 = false := by
  cases changed : (h.reloadIfChanged engine files).1 with
  | false => rwa [reloadIfChanged_same changed]
  | true =>
    obtain ⟨path, added, -, left⟩ := reloadIfChanged_start changed
    have watched : (h.reloadIfChanged engine files).2.watched =
        stamps files (h.start engine files).1 := by
      rw [left]
      exact start_watched engine files h
    exact not_reload_of_stamps watched

end ScriptHost

theorem LastStart.outdated_iff {engine : Engine} {h : ScriptHost} {actions : List HostAction}
    (last : LastStart engine h actions) (sound : last.report.isActive = true) (files : Files) :
    last.Outdated files ↔ ∃ w ∈ ScriptHost.stamps last.files last.report, files.stamp? w.1 ≠ w.2 := by
  have attempted := last.attempted_eq sound
  constructor
  · rintro ⟨e, -, -, mem, differs⟩
    exact ⟨_, List.mem_map_of_mem mem, differs⟩
  · rintro ⟨w, mem, differs⟩
    obtain ⟨path, there, rfl⟩ := List.mem_map.1 mem
    rw [attempted] at there
    obtain ⟨e, listed, rfl⟩ := List.mem_map.1 there
    obtain ⟨entry, enabled⟩ := List.mem_filter.1 listed
    exact ⟨e, entry, enabled, attempted ▸ there, differs⟩

/-- Whatever was done with a host and with the files meanwhile: a reload answers that it has started
the host again exactly when the host is active and a script that its last start has attempted, even
if it was missing or failed, has another stamp than it had then. It leaves the host that a start
would leave, with one more line in the log; when it finds no change it changes nothing; and with the
same files the next one finds none. -/
theorem reloads_outdated (engine : Engine) (config : ScriptingConfig) (actions : List HostAction)
    (files : Files) :
    let h := run engine (.ofConfig config) actions
    let reloaded := h.reloadIfChanged engine files
    let started := h.start engine files
    (reloaded.1 = true ↔ h.isActive = true ∧
      ∃ last : LastStart engine (.ofConfig config) actions, last.Outdated files) ∧
    (reloaded.1 = true → ∃ (path : Path) (added : List LogEvent),
      started.2.log = h.log ++ added ∧
      reloaded.2 = { started.2 with
        log := h.log ++ .info s!"Detected change in {path}, reloading scripts" :: added }) ∧
    (reloaded.1 = false → reloaded.2 = h) ∧
    (reloaded.2.reloadIfChanged engine files).1 = false := by
  refine ⟨?_, ScriptHost.reloadIfChanged_start, ScriptHost.reloadIfChanged_same,
    ScriptHost.not_reload_again engine files _⟩
  rw [ScriptHost.reloadIfChanged_iff]
  constructor
  · rintro ⟨w, mem, differs⟩
    cases active : (run engine (.ofConfig config) actions).isActive with
    | false =>
      rw [HostAction.watched_of_inactive active] at mem
      cases mem
    | true =>
      obtain ⟨⟨last⟩⟩ | ⟨dead, -⟩ := HostAction.lastStart_or engine config actions
      · obtain ⟨sound, watched⟩ := last.decides
        rw [active] at sound
        rw [watched] at mem
        exact ⟨rfl, last, (last.outdated_iff sound.symm files).2 ⟨w, mem, differs⟩⟩
      · rw [active] at dead
        cases dead
  · rintro ⟨active, last, outdated⟩
    obtain ⟨sound, watched⟩ := last.decides
    rw [active] at sound
    rw [watched]
    exact (last.outdated_iff sound.symm files).1 outdated

def awaiting : ScriptingConfig :=
  { ScriptingConfig.default with
    maxPlayers := 0, mods := ⟨[⟨"a.rhai", true⟩, ⟨"b.rhai", true⟩], []⟩ }

def awaitingFiles : Files := .ofNodes [(["a.rhai"], .file "throw 1;".toUTF8 0)]

def arrivedFiles : Files :=
  { awaitingFiles with
    nodes := awaitingFiles.nodes ++ [(["b.rhai"], .file "let x = 1;".toUTF8 5)], rootChanges := 1 }

theorem awaiting_starts :
    let h := run .standard (.ofConfig awaiting) [.start awaitingFiles, .tick]
    h.isActive = true ∧ h.loadedScripts = ["a.rhai"] ∧
      "b.rhai" ∈ ((ScriptHost.ofConfig awaiting).start .standard awaitingFiles).1.attempted ∧
      arrivedFiles.stamp? "b.rhai" ≠ awaitingFiles.stamp? "b.rhai" := by
  decide +kernel

/-- The missing script counts as changed when it is there, and only then. -/
theorem awaiting_reloads :
    let h := run .standard (.ofConfig awaiting) [.start awaitingFiles, .tick]
    (h.reloadIfChanged .standard arrivedFiles).1 = true ∧
      ((h.reloadIfChanged .standard arrivedFiles).2.reloadIfChanged .standard arrivedFiles).1 =
        false := by
  obtain ⟨active, -, attempted, differs⟩ := awaiting_starts
  obtain ⟨changed, -, -, again⟩ :=
    reloads_outdated .standard awaiting [.start awaitingFiles, .tick] arrivedFiles
  refine ⟨changed.2 ⟨active, ?_⟩, again⟩
  exact ⟨⟨[], .start awaitingFiles, [.tick], awaitingFiles, _, rfl, rfl, rfl, by simp [answers,
    HostAction.answer, HostAnswer.endsSession]⟩, ⟨"b.rhai", true⟩, by decide, rfl, attempted,
    differs⟩

end ModHost
