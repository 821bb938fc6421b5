import ModHost.Engine
import ModHost.Proofs.EvalChanges

set_option autoImplicit false

/-!
# Laws of engines

What the host relies on when it hands its world to a script, and that the interpreter of this
library is so.
-/

namespace ModHost

open Script (Machine)

/-- No call of a script changes how many player slots there are: scripts are given the fields
of the records, and nothing that adds or removes a record. -/
def Engine.KeepsSlots (engine : Engine) : Prop :=
  ∀ env memory world callback args,
    (engine.call env memory world callback args).world.players.size = world.players.size

theorem eq_ok_of_bind {ε α β : Type} {x : Except ε α} {f : α → Except ε β} {b : β}
    (h : x >>= f = .ok b) : ∃ a, x = .ok a ∧ f a = .ok b := by
  cases x with
  | ok a => exact ⟨a, rfl, h⟩
  | error e => cases h

namespace Proxy

theorem resolve_held {kind : ObjectKind} {writing : Bool} {players table : PlayerTable}
    {slot : Nat} {p : PlayerState}
    (found : resolve kind writing ⟨true, .held players⟩ slot = .ok (table, p)) :
    table = players := by
  obtain ⟨_, -, found⟩ := eq_ok_of_bind found
  obtain ⟨_, reached, found⟩ := eq_ok_of_bind found
  obtain ⟨_, -, found⟩ := eq_ok_of_bind found
  cases reached
  cases found
  rfl

theorem size_of_set {kind : ObjectKind} {players players' : PlayerTable} {slot : Nat}
    {name : String} {v : Script.Value}
    (written : set kind ⟨true, .held players⟩ slot name v = .ok players') :
    players'.size = players.size := by
  obtain ⟨f, -, written⟩ := eq_ok_of_bind written
  split at written
  · cases written
  · obtain ⟨value, -, written⟩ := eq_ok_of_bind written
    obtain ⟨⟨table, p⟩, found, written⟩ := eq_ok_of_bind written
    obtain ⟨p', -, written⟩ := eq_ok_of_bind written
    cases written
    rw [Array.size_setIfInBounds, resolve_held found]

end Proxy

namespace Script

theorem Machine.Change.players_size {m m' : Machine} (change : m.Change m') :
    m'.players.size = m.players.size := by
  cases change with
  | own players => rw [players]
  | generator => rfl
  | players written => exact Proxy.size_of_set written
  | emission => rfl

theorem Machine.Leads.players_size {m m' : Machine} (leads : m.Leads m') :
    m'.players.size = m.players.size := by
  induction leads with
  | refl => rfl
  | tail _ change ih => exact change.players_size.trans ih

theorem finish_players (topLevel : Bool) (vars : Machine → List Variable) (r : Run Value)
    (env : Env) (m : Machine) :
    (finish topLevel vars (r env m)).world.players = (r.left env m).players := by
  unfold finish Run.left
  cases r env m <;> rfl

theorem runCallback_leads (env : Env) (memory : Memory) (world : World) (name : String)
    (given args : List Value) :
    ∃ m : Machine, (machineFor [] memory.cells none world).Leads m ∧
      (runCallback env memory world name given args).world.players = m.players := by
  have tame := ((evalLeads runFuel).pointer name given args none .unknown).bind
    fun result => Run.tame_flat result.1
  exact ⟨_, tame env _, finish_players _ _ _ env _⟩

theorem runCallback_players_size (env : Env) (memory : Memory) (world : World) (name : String)
    (given args : List Value) :
    (runCallback env memory world name given args).world.players.size = world.players.size := by
  obtain ⟨m, leads, left⟩ := runCallback_leads env memory world name given args
  rw [left]
  exact leads.players_size

end Script

theorem Engine.standard_keepsSlots : Engine.standard.KeepsSlots := by
  intro env memory world callback args
  exact Script.runCallback_players_size env memory world callback.name callback.given args

end ModHost
