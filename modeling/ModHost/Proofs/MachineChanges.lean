import Mathlib.Logic.Relation
import ModHost.Script.HostFunctions

set_option autoImplicit false

/-!
# What runs can change

A run changes a machine in few ways: its own part of it, which is all but the host's, the
host's generator, a field of a player record, and what it tells the host. So what each such
change keeps, a run keeps, however it ends. Names come into scope and leave it with the blocks
and the calls that the run makes.
-/

namespace ModHost.Script

/-- A single change of a machine. -/
inductive Machine.Change : Machine → Machine → Prop
  | own {m m' : Machine} (players : m'.players = m.players)
      (generator : m'.generator = m.generator) (emissions : m'.emissions = m.emissions) :
      Change m m'
  | generator (m : Machine) (g : Generator) : Change m { m with generator := g }
  | players (m : Machine) {slot : Nat} {field : String} {v : Value} {players : PlayerTable}
      (written : Proxy.set .playerState ⟨true, .held m.players⟩ slot field v = .ok players) :
      Change m { m with players := players }
  | emission (m : Machine) (e : Emission) : Change m { m with emissions := e :: m.emissions }

/-- One machine comes from another by such changes. -/
def Machine.Leads : Machine → Machine → Prop := Relation.ReflTransGen Machine.Change

/-- The names of the variables in scope, innermost first. -/
def Machine.names (m : Machine) : List String := m.vars.map (·.name)

theorem Machine.names_set {m : Machine} {i : Nat} {v : Variable} (found : m.vars[i]? = some v)
    (value : Value) : (m.vars.set i { v with value := value }).map (·.name) = m.names := by
  obtain ⟨bound, rfl⟩ := List.getElem?_eq_some_iff.1 found
  rw [List.map_set, names]
  refine (congrArg _ ?_).trans (List.set_getElem_self (by rwa [List.length_map]))
  change m.vars[i].name = _
  rw [List.getElem_map]

/-- The relation holds across any number of changes, as long as the same names stay in scope. -/
class Machine.Steady (R : Machine → Machine → Prop) : Prop where
  refl (m : Machine) : R m m
  trans {m₁ m₂ m₃ : Machine} : R m₁ m₂ → R m₂ m₃ → R m₁ m₃
  change {m m' : Machine} : m.Change m' → m'.names = m.names → R m m'

/-- The relation holds also when variables are added. -/
class Machine.Growing (S : Machine → Machine → Prop) : Prop extends Machine.Steady S where
  push (m : Machine) (v : Variable) : S m { m with vars := v :: m.vars }

/-- What holds by `S` across statements, which may add variables, holds by `R` across the block or
the call with which these variables end. -/
class Machine.Nested (R S : Machine → Machine → Prop) : Prop where
  inner {m m' : Machine} : R m m' → S m m'
  block {m m' : Machine} : S m m' →
    R m { m' with vars := m'.vars.drop (m'.vars.length - m.vars.length) }
  call (m : Machine) {m' : Machine} (vars : List Variable) (this : Option Value) (level : Nat)
    (source : Option String) :
    S { m with vars := vars, this := this, level := level, source := source } m' →
    R m { m' with vars := m.vars, this := m.this, level := m.level, source := m.source }

instance : Machine.Growing Machine.Leads where
  refl _ := .refl
  trans := .trans
  change single _ := .single single
  push _ _ := .single (.own rfl rfl rfl)

instance : Machine.Nested Machine.Leads Machine.Leads where
  inner := id
  block inside := inside.trans (.single (.own rfl rfl rfl))
  call _ _ _ _ _ _ inside := (Relation.ReflTransGen.single (.own rfl rfl rfl)).trans
    (inside.trans (.single (.own rfl rfl rfl)))

namespace Run

/-- The machine that a run leaves, however it ends. -/
def left {α : Type} (r : Run α) (env : Env) (m : Machine) : Machine :=
  match r env m with
  | .ok _ m' => m'
  | .error _ m' => m'

/-- However the run ends, it leaves a machine that is related to the one it began with. -/
def Tame (R : Machine → Machine → Prop) {α : Type} (r : Run α) : Prop :=
  ∀ (env : Env) (m : Machine), R m (r.left env m)

variable {α β : Type} {R S : Machine → Machine → Prop}

theorem Tame.inner [Machine.Nested R S] {r : Run α} (tame : r.Tame R) : r.Tame S :=
  fun env m => Machine.Nested.inner (tame env m)

theorem left_bind (r : Run α) (f : α → Run β) (env : Env) (m : Machine) :
    (r >>= f).left env m =
      match r env m with
      | .ok a m' => (f a).left env m'
      | .error _ m' => m' := by
  rw [left, run_bind]
  cases r env m <;> rfl

theorem left_get (f : Machine → Run α) (env : Env) (m : Machine) :
    (get >>= f).left env m = (f m).left env m := rfl

theorem left_modify (change : Machine → Machine) (f : Unit → Run α) (env : Env) (m : Machine) :
    (modify change >>= f).left env m = (f ()).left env (change m) := rfl

theorem run_attempt (r : Run α) (env : Env) (m : Machine) :
    ∃ result, attempt r env m = .ok result (r.left env m) := by
  unfold attempt left
  cases r env m <;> exact ⟨_, rfl⟩

theorem Tame.attempt {r : Run α} (tame : r.Tame R) : (attempt r).Tame R := by
  intro env m
  have before := tame env m
  unfold left at before ⊢
  unfold Run.attempt
  cases ended : r env m <;> rw [ended] at before <;> exact before

theorem Tame.placed {r : Run α} (pos : Position) (tame : r.Tame R) : (placed pos r).Tame R := by
  intro env m
  have before := tame env m
  unfold left at before ⊢
  unfold Run.placed
  cases ended : r env m with
  | ok a m' =>
    rw [ended] at before
    exact before
  | error s m' =>
    rw [ended] at before
    cases s <;> exact before

theorem tame_push [Machine.Growing S] (name : String) (value : Value) (isConst : Bool) :
    (push name value isConst).Tame S :=
  fun _ m => Machine.Growing.push m ⟨name, value, isConst⟩

theorem Tame.inBlock [Machine.Nested R S] {r : Run α} (tame : r.Tame S) :
    (inBlock r).Tame R := by
  intro env m
  obtain ⟨result, ended⟩ := run_attempt r env m
  unfold Run.inBlock
  rw [left_get, left_bind, ended]
  dsimp only
  rw [left_modify]
  cases result <;> exact Machine.Nested.block (tame env m)

variable [Machine.Steady R]

theorem tame_pure (a : α) : (pure a : Run α).Tame R := fun _ m => Machine.Steady.refl m

theorem tame_throw (s : Signal) : (throw s : Run α).Tame R := fun _ m => Machine.Steady.refl m

theorem tame_fault (cause : Cause) (pos : Position) : (fault cause pos : Run α).Tame R :=
  fun _ m => Machine.Steady.refl m

theorem tame_read : (read : Run Env).Tame R := fun _ m => Machine.Steady.refl m

theorem tame_get : (get : Run Machine).Tame R := fun _ m => Machine.Steady.refl m

theorem tame_ofExcept (pos : Position) (r : Except Cause α) : (ofExcept pos r).Tame R := by
  cases r with
  | ok a => exact tame_pure a
  | error c => exact tame_fault c pos

theorem Tame.bind {r : Run α} {f : α → Run β} (first : r.Tame R)
    (after : ∀ a, (f a).Tame R) : (r >>= f).Tame R := by
  intro env m
  have before := first env m
  rw [left_bind]
  unfold left at before
  cases ended : r env m with
  | ok a m' =>
    rw [ended] at before
    exact Machine.Steady.trans before (after a env m')
  | error s m' =>
    rw [ended] at before
    exact before

theorem tame_modify {change : Machine → Machine}
    (single : ∀ m : Machine, m.Change (change m)) (names : ∀ m, (change m).names = m.names) :
    (modify change : Run Unit).Tame R :=
  fun _ m => Machine.Steady.change (single m) (names m)

theorem tame_tick (pos : Position) : (tick pos).Tame R := by
  refine tame_read.bind fun env => tame_get.bind fun m => ?_
  refine Tame.bind (tame_modify (fun _ => .own rfl rfl rfl) fun _ => rfl) fun _ => ?_
  split
  · exact tame_fault _ _
  · exact tame_pure _

theorem tame_emit (e : Emission) : (emit e).Tame R :=
  tame_modify (fun m => .emission m e) fun _ => rfl

theorem tame_cellAt (c : Nat) : (cellAt c).Tame R := tame_get.bind fun _ => tame_pure _

theorem tame_flat (v : Value) : (flat v).Tame R := by
  unfold flat
  split
  · exact (tame_cellAt _).bind fun _ => tame_pure _
  · exact tame_pure _

theorem tame_variableNamed? (name : String) : (variableNamed? name).Tame R := by
  refine tame_get.bind fun m => ?_
  dsimp only
  split
  · exact tame_pure _
  · split
    · exact tame_pure _
    · split
      · exact (tame_cellAt _).bind fun _ => tame_pure _
      · exact tame_pure _

theorem tame_setVariable (i : Nat) (value : Value) : (setVariable i value).Tame R := by
  intro env m
  unfold setVariable
  rw [left_get]
  dsimp only
  split
  · exact Machine.Steady.change (.own rfl rfl rfl) rfl
  · exact Machine.Steady.change (.own rfl rfl rfl) (Machine.names_set ‹_› _)
  · exact Machine.Steady.refl m

theorem tame_setThis (value : Value) : (setThis value).Tame R := by
  refine tame_get.bind fun m => ?_
  split <;> exact tame_modify (fun _ => .own rfl rfl rfl) fun _ => rfl

theorem tame_share (name : String) (pos : Position) : (share name pos).Tame R := by
  intro env m
  unfold share
  rw [left_get]
  split
  · exact Machine.Steady.refl m
  · split
    · split
      · exact Machine.Steady.refl m
      · exact Machine.Steady.change (.own rfl rfl rfl) (Machine.names_set ‹_› _)
    · exact Machine.Steady.refl m

theorem Tame.repeatUntil {step : Run (Option Value)} (tame : step.Tame R) (fuel : Nat) :
    (repeatUntil step fuel).Tame R := by
  induction fuel with
  | zero => exact tame_throw _
  | succ fuel ih =>
    refine tame.bind fun result => ?_
    split
    · exact tame_pure _
    · exact ih

theorem tame_eachItem {step : Nat → Value → Run (Option Value)}
    (tame : ∀ i v, (step i v).Tame R) (items : List Value) (i : Nat) :
    (eachItem step items i).Tame R := by
  induction items generalizing i with
  | nil => exact tame_pure _
  | cons v rest ih =>
    refine (tame i v).bind fun result => ?_
    split
    · exact tame_pure _
    · exact ih (i + 1)

theorem tame_eachInt {step : Nat → Value → Run (Option Value)}
    (tame : ∀ i v, (step i v).Tame R) (count : Nat) (next : Int) (i : Nat) :
    (eachInt step count next i).Tame R := by
  induction count generalizing next i with
  | zero => exact tame_pure _
  | succ count ih =>
    refine (tame i _).bind fun result => ?_
    split
    · exact tame_pure _
    · exact ih (next + 1) (i + 1)

theorem Tame.loopBody {body : Run Value} (tame : body.Tame R) : (loopBody body).Tame R := by
  refine tame.attempt.bind fun result => ?_
  split
  · exact tame_pure _
  · exact tame_pure _
  · exact tame_pure _
  · exact tame_throw _

theorem tame_mapM {f : α → Run β} (tame : ∀ a, (f a).Tame R) (as : List α) :
    (as.mapM f).Tame R := by
  induction as with
  | nil => exact tame_pure _
  | cons a rest ih =>
    rw [List.mapM_cons]
    exact (tame a).bind fun _ => ih.bind fun _ => tame_pure _

theorem tame_forIn {f : α → β → Run (ForInStep β)} (tame : ∀ a b, (f a b).Tame R)
    (as : List α) (b : β) : (forIn as b f).Tame R := by
  induction as generalizing b with
  | nil => exact tame_pure _
  | cons a rest ih =>
    rw [List.forIn_cons]
    refine (tame a b).bind fun result => ?_
    split
    · exact tame_pure _
    · exact ih _

end Run

open Run

variable {R : Machine → Machine → Prop}

theorem tame_of_provided {provided : Bool} {f g : HostFunction}
    (found : (if provided then some g else none) = some f) (tame : g.run.Tame R) :
    f.run.Tame R := by
  rw [Option.ite_none_right_eq_some, Option.some.injEq] at found
  rw [← found.2]
  exact tame

variable [Machine.Steady R]

theorem tame_surrounding : surrounding.Tame R := tame_get.bind fun _ => tame_pure _

theorem tame_refused {α : Type} (e : ProxyError) (pos : Position) :
    (refused e pos : Run α).Tame R := tame_fault _ _

theorem tame_readPlayer (slot : Nat) (field : String) (pos : Position) :
    (readPlayer slot field pos).Tame R := by
  refine tame_surrounding.bind fun s => ?_
  split
  · exact tame_pure _
  · exact tame_refused _ _

theorem left_surrounding {α : Type} (f : Surrounding → Run α) (env : Env) (m : Machine) :
    (surrounding >>= f).left env m = (f ⟨true, .held m.players⟩).left env m := rfl

theorem tame_writePlayer (slot : Nat) (field : String) (v : Value) (pos : Position) :
    (writePlayer slot field v pos).Tame R := by
  intro env m
  unfold writePlayer
  rw [left_surrounding]
  split
  · exact Machine.Steady.change (.players m ‹_›) rfl
  · exact Machine.Steady.refl m

theorem tame_registerHook (kind : Int64) (name : String) (given : List Value)
    (pos : Position) : (registerHook kind name given pos).Tame R := by
  unfold registerHook
  split
  · refine tame_read.bind fun _ => ?_
    split
    · exact (tame_emit _).bind fun _ => tame_pure _
    · exact tame_fault _ _
  · exact tame_fault _ _

theorem tame_randomInt (low high : Int64) : (randomInt low high).Tame R := by
  unfold randomInt
  split
  · exact tame_pure _
  · refine tame_get.bind fun m => ?_
    exact Tame.bind (tame_modify (fun m => .generator m _) fun _ => rfl) fun _ => tame_pure _

theorem tame_randomFloat (low high : Float) : (randomFloat low high).Tame R := by
  unfold randomFloat
  split
  · exact tame_pure _
  · split
    · exact tame_throw _
    · split
      · exact tame_throw _
      · refine tame_get.bind fun m => ?_
        exact Tame.bind (tame_modify (fun m => .generator m _) fun _ => rfl) fun _ => tame_pure _

theorem tame_randomRange? {low high : Value} {f : HostFunction}
    (found : randomRange? low high = some f) : f.run.Tame R := by
  unfold randomRange? at found
  split at found
  · cases found
    exact tame_randomInt _ _
  · cases found
    exact tame_randomFloat _ _
  · cases found

theorem tame_hostFunction? {env : Env} {name : String} {args : List Value} {pos : Position}
    {f : HostFunction} (found : hostFunction? env name args pos = some f) : f.run.Tame R := by
  unfold hostFunction? at found
  dsimp only at found
  split at found
  · exact tame_of_provided found (tame_registerHook _ _ _ _)
  · obtain ⟨g, range, found⟩ := Option.bind_eq_some_iff.1 found
    exact tame_of_provided found (tame_randomRange? range)
  · exact tame_of_provided found (tame_pure _)
  · exact tame_of_provided found (tame_surrounding.bind fun _ => tame_pure _)
  · exact tame_of_provided found (tame_pure _)
  · exact tame_of_provided found (tame_pure _)
  · exact tame_of_provided found (tame_pure _)
  · exact tame_of_provided found (tame_pure _)
  · exact tame_of_provided found (tame_pure _)
  · cases found

theorem tame_of_bound {env : Env} {name : String} {args : List Value} {pos : Position}
    {f : HostFunction}
    (found : (env.bindings.find? name args.length).map (fun b => HostFunction.value do
      match b.call args with
      | .ok v => pure v
      | .error message => Run.fault (.thrown (.str message)) pos) = some f) :
    f.run.Tame R := by
  obtain ⟨b, -, rfl⟩ := Option.map_eq_some_iff.1 found
  change (match b.call args with
    | .ok v => (pure v : Run Value)
    | .error message => Run.fault (.thrown (.str message)) pos).Tame R
  split
  · exact tame_pure _
  · exact tame_fault _ _

theorem tame_anyHostFunction? {env : Env} {name : String} {args : List Value}
    {pos : Position} {f : HostFunction} (found : anyHostFunction? env name args pos = some f) :
    f.run.Tame R := by
  unfold anyHostFunction? at found
  dsimp only at found
  split at found
  · split at found
    · cases found
      exact (tame_emit _).bind fun _ => tame_pure _
    · exact tame_of_bound found
  · split at found
    · cases found
      exact tame_of_bound ‹_›
    · split at found
      · cases found
      · split at found
        · cases found
          exact (tame_emit _).bind fun _ => tame_pure _
        · cases found
          exact tame_get.bind fun _ => (tame_emit _).bind fun _ => tame_pure _
        · cases found

end ModHost.Script
