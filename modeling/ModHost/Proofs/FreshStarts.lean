import ModHost.Proofs.HostSteps

set_option autoImplicit false

/-!
# Fresh starts

What a session does depends on nothing that was there before it except the players. Two hosts are
alike when they have the same configuration, bindings and players, watch the same files, and have
sessions with the same units, hooks and generator; what they have logged and printed, which failures
wait, and how many sessions they have had may differ. Starting makes hosts alike whose
configuration, bindings and players are equal, and no action tells alike hosts apart.
-/

namespace ModHost

open Script (Program Value)

namespace Sandbox

/-- Results that differ at most in what was said and printed. -/
structure SameRun {α : Type} (x y : α × Sandbox × Scene) : Prop where
  answer : x.1 = y.1
  sandbox : x.2.1 = y.2.1
  world : x.2.2.world = y.2.2.world

variable (engine : Engine) {s s' : Scene}

theorem callEntry_sameRun (kind : HookKind) (args : List Value) (entry : HookEntry)
    (unit : ScriptUnit) (sb : Sandbox) (worlds : s.world = s'.world) :
    SameRun (callEntry engine kind args entry unit sb s)
      (callEntry engine kind args entry unit sb s') := by
  have call : HookCall.ofState engine args entry unit sb s =
      HookCall.ofState engine args entry unit sb s' := by
    unfold HookCall.ofState
    rw [worlds]
  constructor
  · rw [callEntry_failure, callEntry_failure, call]
  · rw [callEntry_sandbox, callEntry_sandbox, call]
  · rw [callEntry_world, callEntry_world, call]

theorem callEntries_sameRun (kind : HookKind) (args : List Value) (entries : List HookEntry)
    (sb : Sandbox) (report : DispatchReport) (worlds : s.world = s'.world) :
    SameRun (callEntries engine kind args entries sb s report)
      (callEntries engine kind args entries sb s' report) := by
  induction entries generalizing sb s s' report with
  | nil => exact ⟨rfl, rfl, worlds⟩
  | cons entry rest ih =>
    cases found : sb.units.get entry.unit with
    | none =>
      simp only [callEntries, found]
      exact ih sb report worlds
    | some unit =>
      have call := callEntry_sameRun engine kind args entry unit sb worlds
      simp only [callEntries, found]
      rw [call.answer, call.sandbox]
      exact ih _ _ call.world

theorem dispatch_sameRun (kind : HookKind) (args : List Value) (sb : Sandbox)
    (worlds : s.world = s'.world) :
    SameRun (sb.dispatch engine kind args s) (sb.dispatch engine kind args s') :=
  callEntries_sameRun engine kind args _ sb .empty worlds

theorem runUnit_sameRun (sb : Sandbox) (path : Path) (program : Program)
    (worlds : s.world = s'.world) :
    SameRun (runUnit engine sb s path program) (runUnit engine sb s' path program) := by
  have run : topLevelRun engine sb s path program = topLevelRun engine sb s' path program := by
    unfold topLevelRun
    rw [worlds]
  constructor
  · rw [runUnit_outcome, runUnit_outcome, run]
  · rw [runUnit_sandbox, runUnit_sandbox, run]
  · rw [runUnit_world, runUnit_world, run]

theorem load_sameRun (files : Files) (sb : Sandbox) (path : Path) (worlds : s.world = s'.world) :
    SameRun (sb.load engine files s path) (sb.load engine files s' path) := by
  unfold load
  split
  · exact ⟨rfl, rfl, worlds⟩
  · split
    · exact ⟨rfl, rfl, worlds⟩
    · exact runUnit_sameRun engine sb path _ worlds

end Sandbox

/-- What scripts can tell of a session. -/
def Session.content (s : Session) : Sandbox × Generator := (s.sandbox, s.generator)

/-- Two hosts that differ at most in what was said, in the failures that wait, and in how many
sessions there were. -/
structure ScriptHost.Alike (h h' : ScriptHost) : Prop where
  config : h.config = h'.config
  players : h.players = h'.players
  bindings : h.bindings = h'.bindings
  watched : h.watched = h'.watched
  session : h.session.map Session.content = h'.session.map Session.content

namespace ScriptHost

variable (engine : Engine) {h h' : ScriptHost}

theorem Alike.say (alike : h.Alike h') (events events' : List LogEvent) :
    (h.say events).Alike (h'.say events') :=
  ⟨alike.config, alike.players, alike.bindings, alike.watched, alike.session⟩

theorem Alike.changed? (alike : h.Alike h') (files : Files) :
    h.changed? files = h'.changed? files := by
  unfold ScriptHost.changed?
  rw [alike.watched]

theorem Alike.session_cases (alike : h.Alike h') :
    (h.session = none ∧ h'.session = none) ∨
      ∃ id id' sandbox generator, h.session = some ⟨id, sandbox, generator⟩ ∧
        h'.session = some ⟨id', sandbox, generator⟩ := by
  have same := alike.session
  cases live : h.session with
  | none =>
    rw [live, Option.map_none, eq_comm, Option.map_eq_none_iff] at same
    exact .inl ⟨rfl, same⟩
  | some session =>
    rw [live, Option.map_some, eq_comm, Option.map_eq_some_iff] at same
    obtain ⟨⟨id', sandbox, generator⟩, live', content⟩ := same
    cases content
    exact .inr ⟨session.id, id', _, _, rfl, live'⟩

/-- Both give the same answer and leave alike hosts. -/
structure AlikeLeft {α : Type} (x y : α × ScriptHost) : Prop where
  answer : x.1 = y.1
  hosts : x.2.Alike y.2

theorem Alike.runHooks (alike : h.Alike h') (kind : HookKind) (args : List Value) :
    AlikeLeft (h.runHooks engine kind args) (h'.runHooks engine kind args) := by
  obtain ⟨dead, dead'⟩ | ⟨id, id', sandbox, generator, live, live'⟩ := alike.session_cases
  · rw [runHooks_none engine kind args h dead, runHooks_none engine kind args h' dead']
    exact ⟨rfl, alike⟩
  · have worlds : (h.scene generator).world = (h'.scene generator).world :=
      congrArg (Script.World.mk · generator) alike.players
    have ran := Sandbox.dispatch_sameRun engine kind args sandbox worlds
    unfold ScriptHost.runHooks
    rw [live, live']
    refine ⟨ran.answer, alike.config, congrArg Script.World.players ran.world, alike.bindings,
      alike.watched, ?_⟩
    exact congrArg some (Prod.ext ran.sandbox (congrArg Script.World.generator ran.world))

theorem Alike.dispatchPlayer (alike : h.Alike h') (kind : HookKind) (slot : Nat) :
    AlikeLeft (h.dispatchPlayer engine kind slot) (h'.dispatchPlayer engine kind slot) := by
  unfold ScriptHost.dispatchPlayer
  split
  · exact alike.runHooks engine kind []
  · obtain ⟨dead, dead'⟩ | ⟨id, id', sandbox, generator, live, live'⟩ := alike.session_cases
    · rw [dead, dead']
      exact ⟨rfl, alike⟩
    · rw [live, live', ← alike.players]
      by_cases bound : slot < h.players.size
      · simp only [bound, if_true]
        exact alike.runHooks engine kind _
      · simp only [bound, if_false]
        exact ⟨rfl, alike.say _ _⟩

theorem AlikeLeft.merge {first first' second second' : DispatchReport × ScriptHost}
    (left : AlikeLeft first first') (later : AlikeLeft second second') :
    AlikeLeft (first.1.merge second.1, second.2) (first'.1.merge second'.1, second'.2) :=
  ⟨by rw [left.answer, later.answer], later.hosts⟩

theorem Alike.dispatchSlots (alike : h.Alike h') (kind : HookKind) (slots : List Nat)
    (report : DispatchReport) :
    AlikeLeft (dispatchSlots engine kind slots h report)
      (dispatchSlots engine kind slots h' report) := by
  induction slots generalizing h h' report with
  | nil => exact ⟨rfl, alike⟩
  | cons slot rest ih =>
    have left := alike.dispatchPlayer engine kind slot
    simp only [ScriptHost.dispatchSlots]
    rw [left.answer]
    exact ih left.hosts _

theorem Alike.dispatch (alike : h.Alike h') (kind : HookKind) :
    AlikeLeft (h.dispatch engine kind) (h'.dispatch engine kind) := by
  unfold ScriptHost.dispatch
  rw [alike.players]
  split
  · exact alike.dispatchSlots engine kind _ .empty
  · exact alike.runHooks engine kind []

theorem Alike.runFrame (alike : h.Alike h') :
    AlikeLeft (h.runFrame engine) (h'.runFrame engine) := by
  have before := alike.dispatch engine .beforePlayerUpdate
  have after := before.hosts.dispatch engine .playerUpdate
  have update := after.hosts.dispatch engine .update
  exact (before.merge after).merge update

theorem Alike.afterLoads (alike : h.Alike h') (files : Files) {attempts attempts' : List LoadAttempt}
    (paths : attempts.map (·.path) = attempts'.map (·.path)) :
    (h.afterLoads files attempts).Alike (h'.afterLoads files attempts') := by
  refine ⟨alike.config, alike.players, alike.bindings, ?_, alike.session⟩
  have stamps := congrArg (List.map fun path => (path, files.stamp? path)) paths
  rw [List.map_map, List.map_map] at stamps
  change h.watched ++ _ = h'.watched ++ _
  rw [alike.watched]
  exact congrArg (h'.watched ++ ·) stamps

theorem Alike.loadEntries (alike : h.Alike h') (files : Files) {entries entries' : List ModEntry}
    (list : entries = entries') (report : InitReport) (sb : Sandbox) {s s' : Scene}
    (worlds : s.world = s'.world) :
    let left := loadEntries engine files entries report h sb s
    let left' := loadEntries engine files entries' report h' sb s'
    Sandbox.SameRun (left.1, left.2.2) (left'.1, left'.2.2) ∧ left.2.1.Alike left'.2.1 := by
  subst list
  induction entries generalizing h h' report sb s s' with
  | nil => exact ⟨⟨rfl, rfl, worlds⟩, alike⟩
  | cons entry rest ih =>
    cases enabled : entry.enabled with
    | false =>
      rw [loadEntries_disabled engine files entry rest report h sb s enabled,
        loadEntries_disabled engine files entry rest report h' sb s' enabled]
      exact ih alike _ sb worlds
    | true =>
      let said := s.say [.info s!"    {entry.path}"]
      let said' := s'.say [.info s!"    {entry.path}"]
      have loaded : Sandbox.SameRun (sb.load engine files said entry.path)
          (sb.load engine files said' entry.path) :=
        Sandbox.load_sameRun engine files sb entry.path worlds
      have after : (afterLoad (sb.load engine files said entry.path)).world =
          (afterLoad (sb.load engine files said' entry.path)).world := by
        rw [afterLoad_world, afterLoad_world, loaded.world]
      rw [loadEntries_enabled engine files entry rest report h sb s said enabled rfl _ rfl,
        loadEntries_enabled engine files entry rest report h' sb s' said' enabled rfl _ rfl,
        loaded.answer, loaded.sandbox]
      generalize (sb.load engine files said' entry.path).1 = outcome
      have hosts : (h.afterLoads files [⟨entry.path, sb, said, outcome⟩]).Alike
          (h'.afterLoads files [⟨entry.path, sb, said', outcome⟩]) :=
        alike.afterLoads files rfl
      have reports : report.extend [entry] [⟨entry.path, sb, said, outcome⟩] =
          report.extend [entry] [⟨entry.path, sb, said', outcome⟩] := by
        cases outcome <;> rfl
      rw [reports]
      exact ih hosts _ _ after

theorem seedConstants_congr (rules : Rules) (host : HostNamespace) {s s' : Scene}
    (maxPlayers : Nat) (worlds : s.world = s'.world) :
    seedConstants engine rules host s maxPlayers = seedConstants engine rules host s' maxPlayers := by
  unfold seedConstants
  rw [worlds]

theorem Alike.buildSession (alike : h.Alike h') :
    (buildSession engine h).1.map Session.content =
      (buildSession engine h').1.map Session.content := by
  have rules : sessionRules h = sessionRules h' := by
    unfold sessionRules
    rw [alike.config, alike.bindings]
  have worlds (generator : Generator) : (h.scene generator).world = (h'.scene generator).world :=
    congrArg (Script.World.mk · generator) alike.players
  unfold ScriptHost.buildSession
  rw [rules]
  split
  · rfl
  · dsimp only
    rw [alike.config, alike.players, seedConstants_congr engine _ _ _ (worlds _)]
    split <;> rfl

theorem Alike.openSession (alike : h.Alike h') (files : Files) {session session' : Session}
    (same : session.content = session'.content) :
    AlikeLeft (openSession engine files session h) (openSession engine files session' h') := by
  obtain ⟨id, sandbox, generator⟩ := session
  obtain ⟨id', sandbox', generator'⟩ := session'
  cases same
  have named : h.announced.Alike h'.announced :=
    ⟨alike.config, alike.players, alike.bindings, alike.watched, alike.session⟩
  have worlds : (h.announced.scene generator).world = (h'.announced.scene generator).world :=
    congrArg (Script.World.mk · generator) alike.players
  have mods : h.announced.config.activeMods = h'.announced.config.activeMods :=
    congrArg ScriptingConfig.activeMods alike.config
  obtain ⟨run, hosts⟩ := named.loadEntries engine files mods .empty sandbox worlds
  refine ⟨run.answer, hosts.config, congrArg Script.World.players run.world, hosts.bindings,
    hosts.watched, ?_⟩
  exact congrArg some (Prod.ext run.sandbox (congrArg Script.World.generator run.world))

/-- What a start keeps of the host before it: hosts of which this is the same start alike. -/
structure SameBasis (h h' : ScriptHost) : Prop where
  config : h.config = h'.config
  players : h.players = h'.players
  bindings : h.bindings = h'.bindings

theorem Alike.basis (alike : h.Alike h') : h.SameBasis h' :=
  ⟨alike.config, alike.players, alike.bindings⟩

theorem shutdown_eq (h : ScriptHost) :
    ∃ log, h.shutdown = { h with watched := [], session := none, log := log } := by
  unfold shutdown
  split
  · next dead =>
    cases h
    cases dead
    exact ⟨_, rfl⟩
  · exact ⟨_, rfl⟩

theorem SameBasis.shutdown (same : h.SameBasis h') : h.shutdown.Alike h'.shutdown := by
  obtain ⟨log, ended⟩ := shutdown_eq h
  obtain ⟨log', ended'⟩ := shutdown_eq h'
  rw [ended, ended']
  exact ⟨same.config, same.players, same.bindings, rfl, rfl⟩

theorem SameBasis.readied (same : h.SameBasis h') : h.readied.Alike h'.readied := by
  have ended := same.shutdown
  refine ⟨ended.config, ?_, ended.bindings, ended.watched, ended.session⟩
  change (h.shutdown.players.resize h.shutdown.config.maxPlayers).1 = _
  rw [ended.players, ended.config]
  rfl

theorem SameBasis.start (same : h.SameBasis h') (files : Files) :
    AlikeLeft (h.start engine files) (h'.start engine files) := by
  have ready := same.readied
  have built := ready.buildSession engine
  unfold ScriptHost.start
  dsimp only
  generalize buildSession engine h.readied = made at built ⊢
  generalize buildSession engine h'.readied = made' at built ⊢
  obtain ⟨result, log⟩ := made
  obtain ⟨result', log'⟩ := made'
  cases result with
  | error e =>
    cases result' with
    | error e' =>
      obtain rfl : e = e' := Except.error.inj built
      exact ⟨rfl, ready.config, ready.players, ready.bindings, ready.watched, ready.session⟩
    | ok => cases built
  | ok session =>
    cases result' with
    | error => cases built
    | ok session' => exact (ready.say log log').openSession engine files (Except.ok.inj built)

end ScriptHost

namespace HostAction

open ScriptHost

variable (engine : Engine) {h h' : ScriptHost}

/-- No action tells alike hosts apart, except that the queues of failures may differ. -/
theorem apply_alike (alike : h.Alike h') (a : HostAction) :
    (a.apply engine h).Alike (a.apply engine h') := by
  cases a with
  | configure => exact { alike with config := rfl }
  | bind => exact { alike with bindings := rfl }
  | assign slot player =>
    exact { alike with players := congrArg (·.setIfInBounds slot player) alike.players }
  | resize count =>
    exact { alike with players := congrArg (fun t => (PlayerTable.resize t count).1) alike.players }
  | takeLogs | takeFailures => exact { alike with }
  | start files => exact (alike.basis.start engine files).hosts
  | shutdown => exact alike.basis.shutdown
  | dispatch kind => exact (alike.dispatch engine kind).hosts
  | dispatchPlayer kind slot => exact (alike.dispatchPlayer engine kind slot).hosts
  | tick => exact (alike.dispatch engine .update).hosts
  | runFrame => exact (alike.runFrame engine).hosts
  | reloadIfChanged files =>
    simp only [apply, reloadIfChanged_eq, alike.changed? files]
    cases h'.changed? files with
    | some path => exact ((alike.say _ _).basis.start engine files).hosts
    | none => exact alike

theorem answer_alike (alike : h.Alike h') {a : HostAction} (keeps : a ≠ .takeFailures) :
    a.answer engine h = a.answer engine h' := by
  cases a with
  | configure | bind | assign | resize | takeLogs | shutdown => rfl
  | start files => exact congrArg HostAnswer.started (alike.basis.start engine files).answer
  | dispatch kind => exact congrArg HostAnswer.dispatched (alike.dispatch engine kind).answer
  | dispatchPlayer kind slot =>
    exact congrArg HostAnswer.dispatched (alike.dispatchPlayer engine kind slot).answer
  | tick => exact congrArg HostAnswer.dispatched (alike.dispatch engine .update).answer
  | runFrame => exact congrArg HostAnswer.dispatched (alike.runFrame engine).answer
  | reloadIfChanged files =>
    simp only [answer, alike.changed? files]
    cases h'.changed? files with
    | some path =>
      exact congrArg HostAnswer.started ((alike.say _ _).basis.start engine files).answer
    | none => rfl
  | takeFailures => exact absurd rfl keeps

theorem run_alike (alike : h.Alike h') (actions : List HostAction)
    (keep : ∀ a ∈ actions, a ≠ .takeFailures) :
    answers engine h actions = answers engine h' actions ∧
      (run engine h actions).Alike (run engine h' actions) := by
  induction actions generalizing h h' with
  | nil => exact ⟨rfl, alike⟩
  | cons a rest ih =>
    obtain ⟨first, others⟩ := List.forall_mem_cons.1 keep
    obtain ⟨same, hosts⟩ := ih (apply_alike engine alike a) others
    refine ⟨?_, hosts⟩
    rw [answers, answers, answer_alike engine alike first, same]

end HostAction

namespace ScriptHost

open HostAction (run answers)

/-- What can be asked of two hosts has the same answers, and the next numbers drawn are the same. -/
structure SameView (h h' : ScriptHost) : Prop where
  players : h.players = h'.players
  hookCount (kind : HookKind) : h.hookCount kind = h'.hookCount kind
  loadedScripts : h.loadedScripts = h'.loadedScripts
  hostGlobal (name : String) : h.hostGlobal name = h'.hostGlobal name
  scriptGlobal (path : Path) (name : String) : h.scriptGlobal path name = h'.scriptGlobal path name
  generator : h.session.map Session.generator = h'.session.map Session.generator

theorem Alike.sameView {h h' : ScriptHost} (alike : h.Alike h') : h.SameView h' := by
  obtain ⟨dead, dead'⟩ | ⟨id, id', sandbox, generator, live, live'⟩ := alike.session_cases
  · constructor
    · exact alike.players
    all_goals
      intros
      simp only [ScriptHost.hookCount, ScriptHost.loadedScripts, ScriptHost.hostGlobal,
        ScriptHost.scriptGlobal, dead, dead']
  · constructor
    · exact alike.players
    all_goals
      intros
      simp only [ScriptHost.hookCount, ScriptHost.loadedScripts, ScriptHost.hostGlobal,
        ScriptHost.scriptGlobal, live, live', Option.bind_some, Option.map_some]

/-- Two hosts that may differ in all of their histories but have the same setup now. The seed fixes
the generator of their sessions. -/
structure SameSetup (h h' : ScriptHost) : Prop extends SameBasis h h' where
  seeded : h.config.seed.isSome = true

/-- A start forgets what was before it. Whatever has been done with two hosts, when they have the
same setup they report the same start, and whatever is done with both afterwards, the reports are
the same and so is all that can be asked of them. -/
theorem start_forgets_history (engine : Engine) (files : Files) (h h' : ScriptHost)
    (same : h.SameSetup h') :
    (h.start engine files).1 = (h'.start engine files).1 ∧
    ∀ actions : List HostAction, (∀ a ∈ actions, a ≠ .takeFailures) →
      answers engine (h.start engine files).2 actions =
        answers engine (h'.start engine files).2 actions ∧
      SameView (run engine (h.start engine files).2 actions)
        (run engine (h'.start engine files).2 actions) := by
  have started := same.toSameBasis.start engine files
  refine ⟨started.answer, fun actions keep => ?_⟩
  obtain ⟨reports, alike⟩ := HostAction.run_alike engine started.hosts actions keep
  exact ⟨reports, alike.sameView⟩

theorem resize_zero (t : PlayerTable) : (t.resize 0).1 = #[] := by
  unfold PlayerTable.resize grantedSlots
  by_cases some : 0 < t.size
  · simp [some]
  · have none : t = #[] := Array.eq_empty_of_size_eq_zero (by omega)
    simp [none, PlayerTable.freshSlots]

def diceConfig : ScriptingConfig :=
  { ScriptingConfig.default with
    maxPlayers := 2, seed := some 7, mods := ⟨[⟨"a.rhai", true⟩], []⟩ }

def diceFiles : Files :=
  let text := "hook_event(HOOK_UPDATE, || random_range(1, 6));"
  .ofNodes [(["a.rhai"], .file text.toUTF8 0)]

def setUp (h : ScriptHost) : ScriptHost :=
  run .standard h [.configure diceConfig, .bind .stock, .resize 0]

theorem sameSetup_setUp (h h' : ScriptHost) : h.setUp.SameSetup h'.setUp where
  config := rfl
  players := (resize_zero h.players).trans (resize_zero h'.players).symm
  bindings := rfl
  seeded := rfl

def newcomer : ScriptHost := (ofConfig ScriptingConfig.default).setUp

/-- A host that has been through a session before. -/
def veteran : ScriptHost :=
  (run .standard newcomer [.start diceFiles, .tick, .shutdown]).setUp

theorem veteran_starts_as_newcomer :
    newcomer.sessions = 0 ∧ veteran.sessions = 1 ∧
      (newcomer.start .standard diceFiles).1 = (veteran.start .standard diceFiles).1 ∧
      (run .standard (veteran.start .standard diceFiles).2 [.tick]).hookCount .update = 1 := by
  obtain ⟨reports, later⟩ := start_forgets_history .standard diceFiles newcomer veteran
    (sameSetup_setUp _ _)
  obtain ⟨-, views⟩ := later [.tick] (by simp)
  refine ⟨by decide +kernel, by decide +kernel, reports, ?_⟩
  rw [← views.hookCount]
  decide +kernel

end ScriptHost

end ModHost
