import ModHost.Proofs.HostSteps

set_option autoImplicit false

/-!
# Earlier logs

No code of the host reads its log. So what was logged before a start stands in front of what the
start logs, and makes no other difference: a start that is told beforehand to the log leaves the
host as it would have left it, with that line in the log.
-/

namespace ModHost

open Script (Program RunResult Emission)

/-- The scene with more that was said before. -/
def Scene.following (earlier : List LogEvent) (s : Scene) : Scene := { s with log := earlier ++ s.log }

def Sandbox.following {α : Type} (earlier : List LogEvent) (x : α × Sandbox × Scene) :
    α × Sandbox × Scene := (x.1, x.2.1, x.2.2.following earlier)

def ScriptHost.following (earlier : List LogEvent) (h : ScriptHost) : ScriptHost :=
  { h with log := earlier ++ h.log }

variable (engine : Engine) (earlier : List LogEvent)

theorem Scene.say_following (s : Scene) (events : List LogEvent) :
    (s.following earlier).say events = (s.say events).following earlier := by
  simp only [following, say, List.append_assoc]

namespace Sandbox

theorem receive_following (sb : Sandbox) (s : Scene) (e : Emission) :
    sb.receive (s.following earlier) e =
      ((sb.receive s e).1, (sb.receive s e).2.following earlier) := by
  cases e with
  | output text | debug text => simp only [receive, Scene.print, Scene.following, List.append_assoc]
  | hook kind name given =>
    simp only [receive]
    split <;> rfl

theorem receiveAll_following (sb : Sandbox) (s : Scene) (es : List Emission) :
    sb.receiveAll (s.following earlier) es =
      ((sb.receiveAll s es).1, (sb.receiveAll s es).2.following earlier) := by
  induction es generalizing sb s with
  | nil => rfl
  | cons e rest ih =>
    simp only [receiveAll]
    rw [receive_following]
    exact ih _ _

theorem settle_following (sb : Sandbox) (s : Scene) (id : Nat) (r : RunResult) :
    sb.settle (s.following earlier) id r = following earlier (sb.settle s id r) := by
  let remembered : Sandbox := { sb with units := sb.units.setMemory id r.memory }
  have received : remembered.receiveAll { s.following earlier with world := r.world } r.emissions =
      _ := receiveAll_following earlier remembered { s with world := r.world } r.emissions
  unfold settle
  dsimp only [remembered] at received ⊢
  rw [received]
  cases r.ending <;> rfl

theorem runUnit_following (sb : Sandbox) (s : Scene) (path : Path) (program : Program) :
    runUnit engine sb (s.following earlier) path program =
      following earlier (runUnit engine sb s path program) := by
  have world : (s.following earlier).world = s.world := rfl
  unfold runUnit
  dsimp only
  rw [settle_following, world]
  generalize settle _ s _ _ = settled
  obtain ⟨fault, left, told⟩ := settled
  cases fault with
  | none => rfl
  | some e =>
    dsimp only [following]
    rw [Scene.say_following]

theorem load_following (files : Files) (sb : Sandbox) (s : Scene) (path : Path) :
    sb.load engine files (s.following earlier) path =
      following earlier (sb.load engine files s path) := by
  unfold load
  split
  · rfl
  · split
    · rfl
    · exact runUnit_following engine earlier sb s path _

end Sandbox

namespace ScriptHost

theorem say_following (h : ScriptHost) (events : List LogEvent) :
    (h.following earlier).say events = (h.say events).following earlier := by
  simp only [following, say, List.append_assoc]

theorem loadEntries_following (files : Files) (entries : List ModEntry) (report : InitReport)
    (h : ScriptHost) (sb : Sandbox) (s : Scene) :
    loadEntries engine files entries report (h.following earlier) sb (s.following earlier) =
      let left := loadEntries engine files entries report h sb s
      (left.1, left.2.1.following earlier, left.2.2.1, left.2.2.2.following earlier) := by
  induction entries generalizing report h sb s with
  | nil => rfl
  | cons entry rest ih =>
    cases enabled : entry.enabled with
    | false =>
      simp only [loadEntries, enabled, Bool.not_false, ↓reduceIte]
      rw [Scene.say_following]
      exact ih _ h sb _
    | true =>
      simp only [loadEntries, enabled, Bool.not_true, Bool.false_eq_true, ↓reduceIte]
      rw [Scene.say_following, Sandbox.load_following]
      generalize sb.load engine files _ entry.path = loaded
      obtain ⟨outcome, left, told⟩ := loaded
      cases outcome with
      | ok => exact ih _ { h with watched := _ } left told
      | error e =>
        dsimp only [Sandbox.following]
        rw [Scene.say_following]
        exact ih _ { h with watched := _, failures := _ } left _

theorem shutdown_following (h : ScriptHost) :
    (h.following earlier).shutdown = h.shutdown.following earlier := by
  have session : (h.following earlier).session = h.session := rfl
  unfold shutdown
  rw [session]
  split
  · rfl
  · exact say_following earlier { h with watched := [], session := none } _

theorem readied_following (h : ScriptHost) :
    (h.following earlier).readied = h.readied.following earlier := by
  unfold readied
  rw [shutdown_following]
  exact say_following earlier { h.shutdown with players := _ } _

/-- The host once the scripts of a new session are loaded. -/
def concluded (session : Session) (left : InitReport × ScriptHost × Sandbox × Scene) :
    InitReport × ScriptHost :=
  let (report, h, sb, s) := left
  let s := s.say [.info (s!"Loaded {report.loaded.length}/{report.attempted.length} script(s),"
    ++ s!" {sb.hooks.total} hook(s) registered")]
  (report, { h.takeBack s with
    session := some { session with sandbox := sb, generator := s.world.generator } })

theorem openSession_eq (files : Files) (session : Session) (h : ScriptHost) :
    openSession engine files session h =
      concluded session (loadEntries engine files h.config.activeMods .empty h.announced
        session.sandbox (h.announced.scene session.generator)) := rfl

theorem openSession_following (files : Files) (session : Session) (h : ScriptHost) :
    openSession engine files session (h.following earlier) =
      ((openSession engine files session h).1,
        (openSession engine files session h).2.following earlier) := by
  have announced : (h.following earlier).announced = h.announced.following earlier :=
    say_following earlier { h with sessions := h.sessions + 1 } _
  have config : (h.following earlier).config = h.config := rfl
  have loaded := loadEntries_following engine earlier files h.config.activeMods .empty h.announced
    session.sandbox (h.announced.scene session.generator)
  rw [openSession_eq, openSession_eq, announced, config]
  change concluded session (loadEntries engine files h.config.activeMods .empty
    (h.announced.following earlier) session.sandbox
    ((h.announced.scene session.generator).following earlier)) = _
  rw [loaded]
  generalize loadEntries engine files _ _ h.announced _ _ = left
  obtain ⟨report, host, sb, s⟩ := left
  dsimp only [concluded]
  rw [Scene.say_following]
  rfl

theorem start_following (files : Files) (h : ScriptHost) :
    (h.following earlier).start engine files =
      ((h.start engine files).1, (h.start engine files).2.following earlier) := by
  have built : buildSession engine (h.readied.following earlier) = buildSession engine h.readied := rfl
  unfold start
  dsimp only
  rw [readied_following, built]
  split
  · next e log _ =>
    rw [say_following]
    rfl
  · next session log _ =>
    rw [say_following]
    exact openSession_following engine earlier files session _

/-- A start after something was logged reports the same and leaves the same host, in whose log the
lines stand between those before the start and those that the start has added. -/
theorem start_say (files : Files) (h : ScriptHost) (events : List LogEvent) :
    ((h.say events).start engine files).1 = (h.start engine files).1 ∧
      ∃ added, (h.start engine files).2.log = h.log ++ added ∧
        ((h.say events).start engine files).2 =
          { (h.start engine files).2 with log := h.log ++ (events ++ added) } := by
  let silent : ScriptHost := { h with log := [] }
  have before : h = silent.following h.log := by
    change h = { h with log := h.log ++ [] }
    rw [List.append_nil]
  have told : h.say events = silent.following (h.log ++ events) := by
    change h.say events = { h with log := h.log ++ events ++ [] }
    rw [List.append_nil]
    rfl
  have plain := start_following engine h.log files silent
  rw [← before] at plain
  rw [told, start_following, plain]
  refine ⟨rfl, (silent.start engine files).2.log, rfl, ?_⟩
  rw [← List.append_assoc]
  rfl

end ScriptHost

end ModHost
