import ModHost.Proofs.EngineLaws
import ModHost.Proofs.HostSteps
import ModHost.Proofs.ProxyWrites

set_option autoImplicit false

/-!
# Slots of players

The table of players has the slots that the host asks for, at most as many as a byte can number,
and every record carries the number of its slot. Scripts reach the table through proxies only, and
a write through a proxy changes neither the number of a record nor how many there are. So only the
host sizes the table: a slot that stays keeps its record, and one that is added gets a fresh one,
also when the table has had it before.
-/

namespace ModHost

open Script (Value Memory World Env Machine)

theorem PlayerState.index_of_write {p q : PlayerState} {f : Field} {value : FieldValue}
    (written : p.writeField f.name value = .ok q) : q.index = p.index := by
  cases f with
  | index => cases written
  | health | coins | lives | stars | action | flags | faceYaw =>
    obtain ⟨m, -, rfl⟩ := eq_ok_of_map written
    rfl
  | forwardVel | posX | posY | posZ | velX | velY | velZ =>
    obtain rfl := Except.ok.inj written
    rfl

namespace PlayerTable

/-- The numbers that the records carry, slot by slot. -/
def numbers (t : PlayerTable) : Array UInt8 := t.map (·.index)

theorem numbers_eq {t t' : PlayerTable}
    (same : ∀ slot : Nat, t'[slot]?.map (·.index) = t[slot]?.map (·.index)) :
    t'.numbers = t.numbers := by
  apply Array.ext_getElem?
  intro slot
  rw [numbers, numbers, Array.getElem?_map, Array.getElem?_map, same]

theorem getElem?_of_numbers {t t' : PlayerTable} (same : t'.numbers = t.numbers) (slot : Nat) :
    t'[slot]?.map (·.index) = t[slot]?.map (·.index) := by
  have found := congrArg (fun a : Array UInt8 => a[slot]?) same
  simpa only [numbers, Array.getElem?_map] using found

theorem size_of_numbers {t t' : PlayerTable} (same : t'.numbers = t.numbers) :
    t'.size = t.size := by
  have sizes := congrArg Array.size same
  rwa [numbers, numbers, Array.size_map, Array.size_map] at sizes

/-- One table comes from another by writes through proxies, of any number. -/
def Written : PlayerTable → PlayerTable → Prop :=
  Relation.ReflTransGen fun t t' =>
    ∃ slot field v, Proxy.set .playerState ⟨true, .held t⟩ slot field v = .ok t'

end PlayerTable

theorem Proxy.numbers_of_set {kind : ObjectKind} {live : Bool} {players players' : PlayerTable}
    {slot : Nat} {name : String} {v : Value}
    (written : set kind ⟨live, .held players⟩ slot name v = .ok players') :
    players'.numbers = players.numbers := by
  obtain ⟨f, value, table, p, p', -, -, -, -, held, found, stored, rfl⟩ := set_eq_ok written
  cases held
  refine PlayerTable.numbers_eq fun i => ?_
  rw [Array.getElem?_setIfInBounds]
  split
  · next here =>
    subst here
    split
    · rw [found]
      exact congrArg some (PlayerState.index_of_write stored)
    · next outside =>
      rw [Array.getElem?_eq_none (by omega)]
  · rfl

theorem Proxy.isValid_of_lt {players : PlayerTable} {slot : Nat} (bound : slot < players.size)
    (kind : ObjectKind) : isValid kind ⟨true, .held players⟩ slot = true := by
  have found : players[slot]? = some players[slot] := Array.getElem?_eq_getElem bound
  unfold isValid
  rw [resolve_live_held, recordAt_of_some found]
  rfl

namespace PlayerTable

variable {t t' : PlayerTable}

theorem Written.numbers_eq (written : Written t t') : t'.numbers = t.numbers := by
  induction written with
  | refl => rfl
  | tail _ once ih =>
    obtain ⟨slot, field, v, once⟩ := once
    exact (Proxy.numbers_of_set once).trans ih

/-- There are at most as many slots as a byte can number, and every record carries the number of
its slot. -/
structure Numbered (t : PlayerTable) : Prop where
  bounded : t.size ≤ maxPlayerSlots
  index : ∀ (slot : Nat) (p : PlayerState), t[slot]? = some p → p.index.toNat = slot

theorem Numbered.of_numbers (numbered : t.Numbered) (same : t'.numbers = t.numbers) :
    t'.Numbered where
  bounded := by
    rw [size_of_numbers same]
    exact numbered.bounded
  index slot p found := by
    have indices := getElem?_of_numbers same slot
    rw [found] at indices
    obtain ⟨q, there, alike⟩ := Option.map_eq_some_iff.1 indices.symm
    change q.index = p.index at alike
    rw [← alike]
    exact numbered.index slot q there

/-- What becomes of a table for which so many slots are requested: no more than a byte can number
are granted, those that were there keep their records, and all others are fresh. -/
structure Resized (count : Nat) (t t' : PlayerTable) : Prop where
  size : t'.size = min count maxPlayerSlots
  kept : ∀ slot < min count t.size, t'[slot]? = t[slot]?
  fresh : ∀ slot, t.size ≤ slot → slot < t'.size → t'[slot]? = some (.fresh slot)

theorem size_freshSlots (first count : Nat) : (freshSlots first count).toArray.size = count := by
  rw [List.size_toArray, freshSlots, List.length_map, List.length_range']

theorem getElem?_freshSlots {first count i : Nat} (bound : i < count) :
    (freshSlots first count).toArray[i]? = some (.fresh (first + i)) := by
  rw [List.getElem?_toArray, freshSlots, List.getElem?_map, List.getElem?_range' bound, Nat.one_mul]
  rfl

theorem resize_eq (t : PlayerTable) (count : Nat) :
    (t.resize count).1 =
      if min count maxPlayerSlots < t.size then t.extract 0 (min count maxPlayerSlots)
      else t ++ (freshSlots t.size (min count maxPlayerSlots - t.size)).toArray := rfl

theorem resized_resize (bounded : t.size ≤ maxPlayerSlots) (count : Nat) :
    Resized count t (t.resize count).1 := by
  rw [resize_eq]
  split
  · next fewer =>
    refine ⟨?_, fun slot stays => ?_, fun slot new there => ?_⟩
    · rw [Array.size_extract]
      omega
    · rw [Array.getElem?_extract, if_pos (by omega), Nat.zero_add]
    · rw [Array.size_extract] at there
      omega
  · next more =>
    refine ⟨?_, fun slot stays => ?_, fun slot new there => ?_⟩
    · rw [Array.size_append, size_freshSlots]
      omega
    · rw [Array.getElem?_append_left (by omega)]
    · rw [Array.size_append, size_freshSlots] at there
      rw [Array.getElem?_append_right new, getElem?_freshSlots (by omega), Nat.add_sub_cancel' new]

theorem index_fresh {slot : Nat} (granted : slot < maxPlayerSlots) :
    (PlayerState.fresh slot).index.toNat = slot :=
  UInt8.toNat_ofNat_of_lt' granted

theorem Resized.numbered {count : Nat} (resized : Resized count t t') (numbered : t.Numbered) :
    t'.Numbered where
  bounded := by
    rw [resized.size]
    exact Nat.min_le_right _ _
  index slot p found := by
    have there : slot < t'.size := (Array.getElem?_eq_some_iff.1 found).1
    have granted := there
    rw [resized.size] at granted
    by_cases old : slot < t.size
    · rw [resized.kept slot (by omega)] at found
      exact numbered.index slot p found
    · rw [resized.fresh slot (by omega) there, Option.some.injEq] at found
      rw [← found]
      exact index_fresh (by omega)

theorem numbered_empty : Numbered #[] where
  bounded := Nat.zero_le _
  index slot p found := by simp at found

theorem ofCount_eq_resize (count : Nat) : ofCount count = resize #[] count := by
  simp [ofCount, resize]

theorem numbered_ofCount (count : Nat) : (ofCount count).1.Numbered := by
  rw [ofCount_eq_resize]
  exact (resized_resize numbered_empty.bounded count).numbered numbered_empty

/-- Slots that are added after the table was smaller are fresh, whatever was in them before. -/
theorem fresh_resize_resize (bounded : t.size ≤ maxPlayerSlots) {fewer count slot : Nat}
    (removed : fewer ≤ slot) (added : slot < min count maxPlayerSlots) :
    ((t.resize fewer).1.resize count).1[slot]? = some (.fresh slot) := by
  have shrunk := resized_resize bounded fewer
  have small : (t.resize fewer).1.size ≤ maxPlayerSlots := by
    rw [shrunk.size]
    exact Nat.min_le_right _ _
  have grown := resized_resize small count
  refine grown.fresh slot ?_ ?_
  · rw [shrunk.size]
    omega
  · rw [grown.size]
    exact added

end PlayerTable

namespace Script

theorem Machine.Change.written {m m' : Machine} (change : m.Change m') :
    m.players.Written m'.players := by
  cases change with
  | own players =>
    rw [players]
    exact .refl
  | generator | emission => exact .refl
  | players stored => exact .single ⟨_, _, _, stored⟩

theorem Machine.Leads.written {m m' : Machine} (leads : m.Leads m') :
    m.players.Written m'.players := by
  induction leads with
  | refl => exact .refl
  | tail _ change ih => exact ih.trans change.written

theorem runTopLevel_written (env : Env) (memory : Memory) (world : World) :
    PlayerTable.Written world.players (runTopLevel env memory world).world.players := by
  unfold runTopLevel
  rw [finish_players]
  exact ((evalLeads runFuel).stmts env.program.body env
    (machineFor memory.vars memory.cells env.source world)).written

theorem runCallback_written (env : Env) (memory : Memory) (world : World) (name : String)
    (given args : List Value) :
    PlayerTable.Written world.players
      (runCallback env memory world name given args).world.players := by
  obtain ⟨m, leads, left⟩ := runCallback_leads env memory world name given args
  rw [left]
  exact leads.written

end Script

/-- Scripts change the table of players by writes through proxies and in no other way. -/
structure Engine.WritesByProxy (engine : Engine) : Prop where
  topLevel (env : Env) (memory : Memory) (world : World) :
    PlayerTable.Written world.players (engine.runTopLevel env memory world).world.players
  call (env : Env) (memory : Memory) (world : World) (callback : Callback) (args : List Value) :
    PlayerTable.Written world.players (engine.call env memory world callback args).world.players

theorem Engine.standard_writesByProxy : Engine.standard.WritesByProxy where
  topLevel := Script.runTopLevel_written
  call env memory world callback args :=
    Script.runCallback_written env memory world callback.name callback.given args

namespace Sandbox

variable {engine : Engine} {sb sb' : Sandbox} {s s' : Scene}

theorem Runs.written (law : engine.WritesByProxy) {run : UnitRun} (ran : sb.Runs engine run sb') :
    PlayerTable.Written run.world.players run.result.world.players := by
  cases ran with
  | topLevel => exact law.topLevel _ _ _
  | callback => exact law.call _ _ _ _ _

theorem Pass.written (law : engine.WritesByProxy) {kind : HookKind} {args : List Value}
    {entries : List HookEntry} {calls : List HookCall}
    (pass : Pass engine kind args entries sb s calls sb' s') :
    PlayerTable.Written s.world.players s'.world.players := by
  induction pass with
  | done => exact .refl
  | drop _ _ ih => exact ih
  | call _ _ ih =>
    rw [callEntry_world] at ih
    exact (law.call _ _ _ _ _).trans ih

theorem load_written (law : engine.WritesByProxy) (files : Files) (sb : Sandbox) (s : Scene)
    (path : Path) :
    PlayerTable.Written s.world.players (sb.load engine files s path).2.2.world.players := by
  obtain ⟨-, loaded⟩ | ⟨-, message, -, loaded⟩ | ⟨-, program, -, loaded⟩ :=
    load_cases engine files sb s path
  · rw [loaded]
    exact .refl
  · rw [loaded]
    exact .refl
  · rw [loaded, runUnit_world]
    exact law.topLevel _ _ _

end Sandbox

namespace ScriptHost

variable {engine : Engine}

theorem Loading.written (law : engine.WritesByProxy) {files : Files} {entries : List ModEntry}
    {sb sb' : Sandbox} {s s' : Scene} {attempts : List LoadAttempt}
    (loading : Loading engine files entries sb s attempts sb' s') :
    PlayerTable.Written s.world.players s'.world.players := by
  induction loading with
  | done => exact .refl
  | skip _ _ ih => exact ih
  | @load entry _ sb _ s _ said _ _ announced _ ih =>
    rw [afterLoad_world] at ih
    have once := Sandbox.load_written law files sb said entry.path
    rw [announced] at once ih
    exact once.trans ih

theorem HookRuns.written (law : engine.WritesByProxy) {h : ScriptHost}
    {asks : HookAsks} {left : DispatchReport × ScriptHost} (runs : h.HookRuns engine asks left) :
    h.players.Written left.2.players := by
  induction runs with
  | nothing | ignored => exact .refl
  | hooks kind args _ h =>
    cases live : h.session with
    | none =>
      rw [runHooks_none engine kind args h live]
      exact .refl
    | some session =>
      obtain ⟨calls, s', session', pass, -, -, players, -⟩ := runHooks_pass engine kind args h live
      rw [players]
      exact pass.written law
  | merge _ _ first second => exact first.trans second

end ScriptHost

end ModHost
