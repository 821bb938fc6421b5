import ModHost.Proofs.Isolation
import ModHost.Proofs.LastStarts
import ModHost.Proofs.PlayerSlots

set_option autoImplicit false

/-!
# Histories of a player table

What a host does with its table over any history of actions, and of writes through proxies from
outside of all runs, also through such whose session is over. A start sizes the table before it
loads the first script. So the slots always carry their numbers, and only the host's own sizing
adds or removes any.
-/

namespace ModHost

open Script (Value)

namespace ScriptHost

theorem shutdown_players (h : ScriptHost) : h.shutdown.players = h.players := by
  unfold shutdown
  split <;> rfl

theorem readied_players (h : ScriptHost) :
    h.readied.players = (h.players.resize h.config.maxPlayers).1 := by
  rw [← shutdown_players h, ← shutdown_config h]
  rfl

theorem readied_resized {h : ScriptHost} (numbered : h.players.Numbered) :
    PlayerTable.Resized h.config.maxPlayers h.players h.readied.players := by
  rw [readied_players]
  exact PlayerTable.resized_resize numbered.bounded h.config.maxPlayers

/-- `TableStart engine files h (report, h')`: no session can be built and the table stays as it was
sized, or the scripts of the list are loaded into a new session, of which the first meets the table
as it was sized and the last leaves the table of the host. -/
inductive TableStart (engine : Engine) (files : Files) (h : ScriptHost) :
    InitReport × ScriptHost → Prop
  | refused {e : ScriptError} {h' : ScriptHost} (dead : h'.session = none)
      (players : h'.players = h.readied.players) :
      TableStart engine files h ({ InitReport.empty with setupError := some e }, h')
  | loads {session : Session} {log : List LogEvent} {attempts : List LoadAttempt} {sb' : Sandbox}
      {s s' : Scene} {h' : ScriptHost}
      (built : buildSession engine h.readied = (.ok session, log))
      (first : s.world.players = h.readied.players)
      (loading : Loading engine files h.config.activeMods session.sandbox s attempts sb' s')
      (live : h'.session = some ⟨session.id, sb', s'.world.generator⟩)
      (players : h'.players = s'.world.players) :
      TableStart engine files h (InitReport.empty.extend h.config.activeMods attempts, h')

theorem tableStart_start (engine : Engine) (files : Files) (h : ScriptHost) :
    h.TableStart engine files (h.start engine files) := by
  unfold start
  dsimp only
  split
  · exact .refused (readied_session h) rfl
  · next session log built =>
    let said := h.readied.say log
    obtain ⟨attempts, sb', s', loading, result⟩ := loadEntries_loading engine files
      said.config.activeMods .empty said.announced session.sandbox
      (said.announced.scene session.generator)
    have mods : said.config.activeMods = h.config.activeMods :=
      congrArg ScriptingConfig.activeMods (readied_config h)
    rw [mods] at loading
    have report : (openSession engine files session said).1 =
        InitReport.empty.extend h.config.activeMods attempts := by
      rw [← mods]
      exact congrArg Prod.fst result
    have left : openSession engine files session said =
        (InitReport.empty.extend h.config.activeMods attempts,
          (openSession engine files session said).2) := Prod.ext report rfl
    rw [left]
    refine .loads built rfl loading ?_ ?_
    · exact congrArg
        (fun left => some (Session.mk session.id left.2.2.1 left.2.2.2.world.generator)) result
    · exact congrArg (fun left => left.2.2.2.world.players) result

theorem TableStart.written {engine : Engine} (law : engine.WritesByProxy) {files : Files}
    {h : ScriptHost} {left : InitReport × ScriptHost} (start : h.TableStart engine files left) :
    h.readied.players.Written left.2.players := by
  cases start with
  | refused _ players =>
    rw [players]
    exact .refl
  | loads _ first loading _ players =>
    rw [players, ← first]
    exact loading.written law

theorem start_numbered {engine : Engine} (law : engine.WritesByProxy) (files : Files)
    {h : ScriptHost} (numbered : h.players.Numbered) :
    (h.start engine files).2.players.Numbered := by
  have sized : h.readied.players.Numbered := by
    rw [readied_players]
    exact (PlayerTable.resized_resize numbered.bounded _).numbered numbered
  exact sized.of_numbers ((tableStart_start engine files h).written law).numbers_eq

def writeThrough (p : ObjectProxy) (field : String) (v : Value) (h : ScriptHost) : ScriptHost :=
  match (p.set h.surroundings field v).2.storage 0 with
  | .held players => { h with players := players }
  | .lent _ | .borrowed | .released => h

theorem written_writeThrough (p : ObjectProxy) (field : String) (v : Value) (h : ScriptHost) :
    h.players.Written (h.writeThrough p field v).players := by
  have held : h.surroundings.storage 0 = .held h.players := rfl
  unfold writeThrough ObjectProxy.set
  cases stored : Proxy.set p.kind (p.around h.surroundings) p.slot field v with
  | error e =>
    simp only [held]
    exact .refl
  | ok players =>
    by_cases own : p.table = 0
    · obtain ⟨_, _, _, _, _, -, -, -, live, -⟩ := Proxy.set_eq_ok stored
      change h.surroundings.live p.session = true at live
      rw [ObjectProxy.around, own, live, held] at stored
      simp only [Surroundings.put, own, ↓reduceIte]
      exact .single ⟨p.slot, field, v, stored⟩
    · simp only [Surroundings.put, Ne.symm own, ↓reduceIte, held]
      exact .refl

end ScriptHost

/-- The host assigns a record only to the slot whose number it carries. -/
def HostAction.AssignsInPlace : HostAction → Prop
  | .assign slot player => player.index.toNat = slot
  | _ => True

inductive TableEvent where
  | act (a : HostAction) (inPlace : a.AssignsInPlace)
  | write (p : ObjectProxy) (field : String) (v : Value)

namespace TableEvent

def apply (engine : Engine) (h : ScriptHost) : TableEvent → ScriptHost
  | act a _ => a.apply engine h
  | write p field v => h.writeThrough p field v

def run (engine : Engine) (h : ScriptHost) (events : List TableEvent) : ScriptHost :=
  events.foldl (apply engine) h

end TableEvent

theorem PlayerTable.Numbered.assign {t : PlayerTable} (numbered : t.Numbered) {slot : Nat}
    {player : PlayerState} (inPlace : player.index.toNat = slot) :
    Numbered (t.setIfInBounds slot player) where
  bounded := by
    rw [Array.size_setIfInBounds]
    exact numbered.bounded
  index i p found := by
    rw [Array.getElem?_setIfInBounds] at found
    split at found
    · next here =>
      split at found
      · cases found
        exact inPlace.trans here
      · cases found
    · exact numbered.index i p found

theorem HostAction.written_of_runsHooks {engine : Engine} (law : engine.WritesByProxy)
    (h : ScriptHost) {a : HostAction} (hooks : a.runsHooks = true) :
    h.players.Written (a.apply engine h).players := by
  obtain ⟨report, -, runs⟩ := ScriptHost.hookRuns_of_runsHooks engine h hooks
  exact runs.written law

theorem HostAction.keeps_numbered {engine : Engine} (law : engine.WritesByProxy) {h : ScriptHost}
    (numbered : h.players.Numbered) {a : HostAction} (inPlace : a.AssignsInPlace) :
    (a.apply engine h).players.Numbered := by
  cases a with
  | configure | bind | takeLogs | takeFailures => exact numbered
  | assign slot player => exact numbered.assign inPlace
  | resize count => exact (PlayerTable.resized_resize numbered.bounded count).numbered numbered
  | start files => exact ScriptHost.start_numbered law files numbered
  | shutdown =>
    change h.shutdown.players.Numbered
    rwa [ScriptHost.shutdown_players]
  | dispatch | dispatchPlayer | tick | runFrame =>
    exact numbered.of_numbers (written_of_runsHooks law h rfl).numbers_eq
  | reloadIfChanged files =>
    simp only [apply, ScriptHost.reloadIfChanged_eq]
    split
    · exact ScriptHost.start_numbered law files numbered
    · exact numbered

theorem TableEvent.keeps_numbered {engine : Engine} (law : engine.WritesByProxy) {h : ScriptHost}
    (numbered : h.players.Numbered) (e : TableEvent) : (e.apply engine h).players.Numbered := by
  cases e with
  | act a inPlace => exact a.keeps_numbered law numbered inPlace
  | write p field v => exact numbered.of_numbers (h.written_writeThrough p field v).numbers_eq

theorem TableEvent.run_numbered {engine : Engine} (law : engine.WritesByProxy) {h : ScriptHost}
    (numbered : h.players.Numbered) (events : List TableEvent) :
    (run engine h events).players.Numbered := by
  induction events generalizing h with
  | nil => exact numbered
  | cons e rest ih => exact ih (e.keeps_numbered law numbered)

/-- What a host does with its table next, whatever that is. -/
structure KeepsTable (engine : Engine) (h : ScriptHost) : Prop where
  numbered : h.players.Numbered
  hooks {a : HostAction} : a.runsHooks = true →
    (a.apply engine h).players.numbers = h.players.numbers
  sized (count : Nat) : PlayerTable.Resized count h.players (h.players.resize count).1
  regrown {fewer count slot : Nat} : fewer ≤ slot → slot < min count maxPlayerSlots →
    ((h.players.resize fewer).1.resize count).1[slot]? = some (.fresh slot)
  /-- A start, or a reload that has found a change, first sizes the table, then loads scripts, which
  only write to it. -/
  starts {a : HostAction} {report : InitReport} : a.answer engine h = .started report →
    ∃ files events, (h.say events).TableStart engine files (report, a.apply engine h) ∧
      PlayerTable.Resized h.config.maxPlayers h.players (h.say events).readied.players ∧
      (h.say events).readied.players.Written (a.apply engine h).players

theorem ScriptHost.keepsTable {engine : Engine} (law : engine.WritesByProxy) {h : ScriptHost}
    (numbered : h.players.Numbered) : KeepsTable engine h where
  numbered := numbered
  hooks hooks := (HostAction.written_of_runsHooks law h hooks).numbers_eq
  sized := PlayerTable.resized_resize numbered.bounded
  regrown := PlayerTable.fresh_resize_resize numbered.bounded
  starts started := by
    obtain ⟨files, events, -, rfl, left⟩ := HostAction.started_eq started
    have start := tableStart_start engine files (h.say events)
    have sized := readied_resized (h := h.say events) numbered
    rw [left]
    exact ⟨files, events, start, sized, start.written law⟩

/-- No run of a script's code changes how many slots there are or the number of any, and no history
leads to a table with more slots than a byte can number, or with a record in another slot than its
number says. Sizing the table, also as part of a start, keeps the records of the slots that stay,
and adds fresh ones. -/
theorem table_numbered {engine : Engine} (law : engine.WritesByProxy) :
    (∀ {sb sb' : Sandbox} {run : UnitRun}, sb.Runs engine run sb' →
      run.result.world.players.numbers = run.world.players.numbers) ∧
    ∀ (config : ScriptingConfig) (events : List TableEvent),
      KeepsTable engine (TableEvent.run engine (.ofConfig config) events) := by
  refine ⟨fun ran => (ran.written law).numbers_eq, fun config events => ?_⟩
  have new : (ScriptHost.ofConfig config).players.Numbered :=
    PlayerTable.numbered_ofCount config.maxPlayers
  exact ScriptHost.keepsTable law (TableEvent.run_numbered law new events)

def hurting : ScriptHost :=
  .ofConfig { ScriptingConfig.default with maxPlayers := 2, mods := ⟨[⟨"a.rhai", true⟩], []⟩ }

/-- The script runs, and a slot is removed and added again. -/
def hurtAndRegrown : List TableEvent :=
  let text := "for p in gPlayerStates \x7b p.health = 1; \x7d"
  [.act (.start (.ofNodes [(["a.rhai"], .file text.toUTF8 0)])) trivial, .act (.resize 1) trivial,
    .act (.resize 300) trivial, .act (.resize 3) trivial]

theorem hurtAndRegrown_keeps :
    Engine.standard.WritesByProxy ∧
      KeepsTable .standard (TableEvent.run .standard hurting hurtAndRegrown) ∧
      (TableEvent.run .standard hurting hurtAndRegrown).players.toList.map
        (fun p => (p.index, p.health)) = [(0, 1), (1, 8), (2, 8)] :=
  ⟨Engine.standard_writesByProxy,
    (table_numbered Engine.standard_writesByProxy).2 hurting.config hurtAndRegrown,
    by decide +kernel⟩

end ModHost
