import ModHost.Proofs.HostGlobals
import ModHost.Proofs.TableHistories

set_option autoImplicit false

/-!
# Players as they are published

The number of player slots reaches scripts in two ways beside the table itself: as a constant of
the host, and as the length of a list with a view of every slot. Both are made when the table has
its size already, and scripts only get copies of them. So after a start they fit the table that the
host then has, whatever the scripts have done in the meantime.
-/

namespace ModHost

open Script (Run Machine Env Value Variable Memory)

theorem hostConstants_distinct (maxPlayers : Nat) :
    ((hostConstants maxPlayers).map (·.name)).Nodup := by
  change ((hostConstants 0).map (·.name)).Nodup
  decide +kernel

theorem get_seedConstants {rules : Rules} {host constants : HostNamespace} {s : Scene}
    {maxPlayers : Nat} (seeded : seedConstants .standard rules host s maxPlayers = .ok constants)
    {c : HostConstant} (mem : c ∈ hostConstants maxPlayers) :
    constants.get c.name = some (.int c.value) := by
  rw [seedConstants_eq seeded]
  refine HostNamespace.get_absorb_of_mem host (e := (c.name, .int c.value)) ?_
    (List.mem_map_of_mem mem)
  rw [List.map_map]
  exact hostConstants_distinct maxPlayers

namespace ScriptHost

theorem Loading.host_eq {engine : Engine} {files : Files} {entries : List ModEntry}
    {sb sb' : Sandbox} {s s' : Scene} {attempts : List LoadAttempt}
    (loading : Loading engine files entries sb s attempts sb' s') : sb'.host = sb.host := by
  induction loading with
  | done => rfl
  | skip _ _ ih => exact ih
  | @load entry _ sb _ _ _ said _ _ _ _ ih =>
    obtain same | ⟨program, -, left⟩ := Sandbox.load_sandbox engine files sb said entry.path
    · rwa [same] at ih
    · rwa [left] at ih

theorem buildSession_host {h : ScriptHost} {session : Session} {log : List LogEvent}
    (built : buildSession .standard h = (.ok session, log)) :
    session.sandbox.host.get "MAX_PLAYERS" = some (.int (Int64.ofNat h.players.size)) ∧
      session.sandbox.host.get playerStatesGlobal = some (playerStates h.players) := by
  obtain ⟨rules, constants, seeded, rfl⟩ := buildSession_eq built
  refine ⟨?_, HostNamespace.get_define_same _ _ _⟩
  have slots : (⟨4, "MAX_PLAYERS", Int64.ofNat h.players.size⟩ : HostConstant) ∈
      hostConstants h.players.size := by
    simp [hostConstants]
  exact (HostNamespace.get_define_other _ (by decide) _).trans (get_seedConstants seeded slots)

/-- The host has so many slots and publishes them: their number, and a list with a valid view of
each, in order, through which it tells its own number. -/
structure Publishes (h : ScriptHost) (count : Nat) : Prop where
  slots : h.players.size = count
  constant : h.hostGlobal "MAX_PLAYERS" = some (.int (Int64.ofNat count))
  views : ∃ items, h.hostGlobal playerStatesGlobal = some (.array items) ∧ items.length = count ∧
    ∀ i < count, ∃ v p, items[i]? = some v ∧ h.proxyOf v = some p ∧
      p.kind = .playerState ∧ p.table = 0 ∧ p.slot = i ∧ p.isValid h.surroundings = true ∧
      p.get h.surroundings Field.index.name = .ok (.int (Int64.ofNat i))

theorem view_slot {h : ScriptHost} {session : Session} (live : h.session = some session)
    (numbered : h.players.Numbered) {slot : Nat} (bound : slot < h.players.size) :
    let p : ObjectProxy := ⟨.playerState, 0, slot, session.id⟩
    p.isValid h.surroundings = true ∧
      p.get h.surroundings Field.index.name = .ok (.int (Int64.ofNat slot)) := by
  intro p
  have found : h.players[slot]? = some h.players[slot] := Array.getElem?_eq_getElem bound
  have index : h.players[slot].index.toNat = slot := numbered.index slot _ found
  have around : p.around h.surroundings = ⟨true, .held h.players⟩ := by
    have alive : h.surroundings.live session.id = true := by simp [surroundings, live]
    change Surrounding.mk (h.surroundings.live session.id) (.held h.players) = _
    rw [alive]
  constructor
  · unfold ObjectProxy.isValid
    rw [around]
    exact Proxy.isValid_of_lt bound _
  · unfold ObjectProxy.get
    rw [Proxy.get_eq, around, Proxy.resolve_live_held, Proxy.recordAt_of_some found]
    change Except.ok (Value.int (Int64.ofNat h.players[slot].index.toNat)) = _
    rw [index]

theorem TableStart.publishes {files : Files} {h : ScriptHost} {left : InitReport × ScriptHost}
    (start : h.TableStart .standard files left) (numbered : h.players.Numbered)
    (sound : left.1.setupError = none) :
    left.2.Publishes (min h.config.maxPlayers maxPlayerSlots) := by
  have sized := readied_resized numbered
  have kept := (start.written Engine.standard_writesByProxy).numbers_eq
  have now : left.2.players.Numbered := (sized.numbered numbered).of_numbers kept
  have slots : left.2.players.size = min h.config.maxPlayers maxPlayerSlots :=
    (PlayerTable.size_of_numbers kept).trans sized.size
  cases start with
  | refused => cases sound
  | @loads session log attempts sb' s s' h' built _ loading live players =>
    obtain ⟨constant, views⟩ := buildSession_host built
    rw [← loading.host_eq] at constant views
    rw [sized.size] at constant
    change h'.players.size = _ at slots
    refine ⟨slots, (hostGlobal_of_live live _).trans constant, _,
      (hostGlobal_of_live live _).trans views, ?_, fun i bound => ?_⟩
    · rw [List.length_map, List.length_range, sized.size]
    · have listed : ((List.range h.readied.players.size).map Value.player)[i]? =
          some (.player i) := by
        rw [List.getElem?_map, List.getElem?_range (by rw [sized.size]; exact bound)]
        rfl
      have handed : h'.proxyOf (.player i) = some ⟨.playerState, 0, i, session.id⟩ := by
        simp only [proxyOf, live]
      obtain ⟨valid, told⟩ := view_slot live now (slots ▸ bound : i < h'.players.size)
      exact ⟨_, _, listed, handed, rfl, rfl, rfl, valid, told⟩

/-- After any history, a start without a setup error publishes the slots that the configuration asks
for, at most as many as a byte can number, whatever the scripts do when they are loaded. -/
theorem start_publishes (config : ScriptingConfig) (events : List TableEvent) (a : HostAction)
    (report : InitReport) :
    let h := TableEvent.run .standard (.ofConfig config) events
    a.answer .standard h = .started report → report.setupError = none →
      (a.apply .standard h).Publishes (min h.config.maxPlayers maxPlayerSlots) := by
  intro h started sound
  have new : (ScriptHost.ofConfig config).players.Numbered :=
    PlayerTable.numbered_ofCount config.maxPlayers
  have numbered : h.players.Numbered :=
    TableEvent.run_numbered Engine.standard_writesByProxy new events
  obtain ⟨files, events, -, rfl, left⟩ := HostAction.started_eq started
  rw [left]
  exact (tableStart_start .standard files (h.say events)).publishes numbered sound

def usurping : HostAction :=
  let text := "MAX_PLAYERS = 9; gPlayerStates = [];"
  .start (.ofNodes [(["a.rhai"], .file text.toUTF8 0)])

def crowded : ScriptingConfig :=
  { ScriptingConfig.default with maxPlayers := 300, mods := ⟨[⟨"a.rhai", true⟩], []⟩ }

/-- The script is loaded and sees its own values, and the host those of the table. -/
theorem usurping_published :
    let h := TableEvent.run .standard (.ofConfig crowded) [.act (.resize 2) trivial]
    ∃ report, usurping.answer .standard h = .started report ∧ report.setupError = none ∧
      (usurping.apply .standard h).Publishes 256 ∧
      ((usurping.apply .standard h).scriptGlobal "a.rhai" "MAX_PLAYERS").map Value.debugText =
        some "9" :=
  ⟨_, rfl, by decide +kernel, start_publishes crowded [.act (.resize 2) trivial] usurping _ rfl
    (by decide +kernel), by decide +kernel⟩

end ScriptHost

end ModHost
