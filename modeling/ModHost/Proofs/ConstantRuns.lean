import ModHost.Constants

set_option autoImplicit false

/-!
# Runs of the host's constants

A run that does nothing but make operations at known places can be stopped by its limit alone,
and then at the first place that the limit leaves no operation for. The constants of a session
are such a run: each definition makes one operation for itself and one for its literal. So they
are evaluated exactly when the limit has room for all their operations.
-/

namespace ModHost

open Script (Run Machine Env Signal Variable Position Value Memory World EvalError)

namespace Script.Run

variable {α β : Type} {env : Env}

/-- How a run from a machine has ended when it makes its operations at these places: it has made
them all, or the limit has stopped it at the place of the first operation beyond. -/
inductive Spent (env : Env) (places : List Position) (m : Machine) :
    EStateM.Result Signal Machine α → Prop
  | all (a : α) {m' : Machine} (room : env.limit = 0 ∨ m'.operations ≤ env.limit)
      (made : m'.operations = m.operations + places.length) : Spent env places m (.ok a m')
  | stopped {p : Position} (m' : Machine) (limited : env.limit ≠ 0)
      (beyond : places[env.limit - m.operations]? = some p) :
      Spent env places m (.error (.fault (.raised .tooManyOperations p)) m')

/-- In this environment the run makes its operations at these places, from any machine that has
not made too many before. -/
def Costs (env : Env) (places : List Position) (r : Run α) : Prop :=
  ∀ m, env.limit = 0 ∨ m.operations ≤ env.limit → Spent env places m (r env m)

theorem costs_pure (a : α) : Costs env [] (pure a) := fun _ room => .all a room rfl

theorem costs_get : Costs env [] (get : Run Machine) := fun m room => .all m room rfl

theorem costs_modify {change : Machine → Machine}
    (free : ∀ m, (change m).operations = m.operations) :
    Costs env [] (modify change : Run Unit) := by
  intro m room
  rw [← free m] at room
  exact .all () room (free m)

theorem costs_tick (pos : Position) : Costs env [pos] (tick pos) := by
  intro m room
  rw [run_tick]
  dsimp only
  split
  · next within => exact .all () within rfl
  · next exceeded =>
    have spent : env.limit - m.operations = 0 := by omega
    exact .stopped _ (by omega) (by rw [spent]; rfl)

theorem Costs.bind {first second : List Position} {r : Run α} {f : α → Run β}
    (before : Costs env first r) (after : ∀ a, Costs env second (f a)) :
    Costs env (first ++ second) (r >>= f) := by
  intro m room
  have ended := before m room
  rw [run_bind]
  generalize r env m = left at ended
  cases ended with
  | stopped m' limited beyond =>
    exact .stopped m' limited
      ((List.getElem?_append_left (List.getElem?_eq_some_iff.1 beyond).1).trans beyond)
  | @all a m' room' made =>
    have rest := after a m' room'
    change Spent env (first ++ second) m (f a env m')
    generalize f a env m' = left at rest
    cases rest with
    | all b room'' more =>
      exact .all b room'' (by rw [more, made, List.length_append, Nat.add_assoc])
    | stopped m'' limited beyond =>
      have behind : first.length ≤ env.limit - m.operations := by omega
      have same : env.limit - m.operations - first.length = env.limit - m'.operations := by omega
      refine .stopped m'' limited ?_
      rw [List.getElem?_append_right behind, same]
      exact beyond

theorem costs_push (name : String) (value : Value) (isConst : Bool) :
    Costs env [] (push name value isConst) := costs_modify fun _ => rfl

theorem costs_flat (v : Value) : Costs env [] (flat v) := by
  unfold flat
  split
  · exact (costs_get.bind fun _ => costs_pure _).bind fun _ => costs_pure _
  · exact costs_pure _

end Script.Run

/-- Where the definition of a constant makes its operations: one at its beginning and one at its
literal. -/
def HostConstant.places (c : HostConstant) : List Position :=
  [⟨c.line, 1⟩, ⟨c.line, c.name.length + 10⟩]

namespace Script

open Run

theorem costs_definition (env : Env) (fuel : Nat) (c : HostConstant) :
    Costs env c.places (evalStmt (fuel + 3) c.definition) := by
  have literal : Costs env [⟨c.line, c.name.length + 10⟩]
      (evalExpr (fuel + 2) (.const (.int c.value) ⟨c.line, c.name.length + 10⟩)) := by
    unfold evalExpr evalRaw
    exact ((costs_tick _).bind fun _ => costs_pure _).bind fun v => costs_flat v
  have kept (v : Value) : Costs env [] (do push c.name v true; pure Value.unit) :=
    (costs_push c.name v true).bind fun _ => costs_pure _
  unfold evalStmt HostConstant.definition
  exact (costs_tick _).bind fun _ => literal.bind kept

theorem costs_definitions (env : Env) (cs : List HostConstant) (fuel : Nat)
    (enough : cs.length + 3 ≤ fuel) :
    Costs env (cs.flatMap HostConstant.places)
      (evalStmts fuel (cs.map HostConstant.definition)) := by
  obtain ⟨spare, rfl⟩ := Nat.exists_eq_add_of_le' enough
  clear enough
  induction cs with
  | nil =>
    unfold evalStmts
    exact costs_pure _
  | cons c rest ih =>
    have first := costs_definition env (spare + rest.length) c
    cases rest with
    | nil =>
      unfold evalStmts
      exact first
    | cons d rest =>
      unfold evalStmts
      exact first.bind fun _ => ih

end Script

namespace Script.Run

variable {α β : Type} {P : α → Prop} {Q : β → Prop} {first second : List Variable}

/-- When the run has a value, it is one of `P`, and these variables have been added, one after the
other. -/
def Defines (added : List Variable) (r : Run α) (P : α → Prop) : Prop :=
  ∀ env m a m', r env m = .ok a m' → P a ∧ m'.vars = added.reverse ++ m.vars

theorem defines_pure {a : α} (holds : P a) : Defines [] (pure a) P := by
  intro env m b m' ended
  cases ended
  exact ⟨holds, rfl⟩

theorem defines_exhausted : Defines first (throw .exhausted : Run α) P := by
  intro env m b m' ended
  cases ended

theorem defines_tick (pos : Position) : Defines [] (tick pos) fun _ => True := by
  intro env m b m' ended
  rw [run_tick] at ended
  dsimp only at ended
  split at ended <;> cases ended
  exact ⟨trivial, rfl⟩

theorem defines_push (name : String) (value : Value) (isConst : Bool) :
    Defines [⟨name, value, isConst⟩] (push name value isConst) fun _ => True := by
  intro env m b m' ended
  cases ended
  exact ⟨trivial, rfl⟩

theorem Defines.bind {r : Run α} {f : α → Run β} (before : Defines first r P)
    (after : ∀ a, P a → Defines second (f a) Q) : Defines (first ++ second) (r >>= f) Q := by
  intro env m b m'' ended
  rw [run_bind] at ended
  cases reached : r env m with
  | ok a m' =>
    rw [reached] at ended
    obtain ⟨holds, grown⟩ := before env m a m' reached
    obtain ⟨last, more⟩ := after a holds env m' b m'' ended
    exact ⟨last, by rw [more, grown, List.reverse_append, List.append_assoc]⟩
  | error s m' =>
    rw [reached] at ended
    cases ended

end Script.Run

def HostConstant.variable (c : HostConstant) : Variable := ⟨c.name, .int c.value, true⟩

namespace Script

open Run

theorem defines_literal (fuel : Nat) (n : Int64) (pos : Position) :
    Defines [] (evalExpr fuel (.const (.int n) pos)) (· = .int n) := by
  cases fuel with
  | zero =>
    unfold evalExpr
    exact defines_exhausted
  | succ fuel =>
    have literal : Defines [] (evalRaw fuel (.const (.int n) pos)) (· = .int n) := by
      cases fuel with
      | zero =>
        unfold evalRaw
        exact defines_exhausted
      | succ fuel =>
        unfold evalRaw
        exact (defines_tick _).bind fun _ _ => defines_pure rfl
    unfold evalExpr
    refine literal.bind ?_
    rintro _ rfl
    exact defines_pure rfl

theorem defines_definition (fuel : Nat) (c : HostConstant) :
    Defines [c.variable] (evalStmt fuel c.definition) fun _ => True := by
  cases fuel with
  | zero =>
    unfold evalStmt
    exact defines_exhausted
  | succ fuel =>
    unfold evalStmt HostConstant.definition
    refine (defines_tick _).bind fun _ _ => ?_
    refine (defines_literal fuel c.value _).bind ?_
    rintro _ rfl
    exact (defines_push _ _ _).bind fun _ _ => defines_pure trivial

theorem defines_definitions (fuel : Nat) (cs : List HostConstant) :
    Defines (cs.map HostConstant.variable) (evalStmts fuel (cs.map HostConstant.definition))
      fun _ => True := by
  induction cs generalizing fuel with
  | nil =>
    unfold evalStmts
    split
    · exact defines_exhausted
    · exact defines_pure trivial
  | cons c rest ih =>
    cases fuel with
    | zero =>
      unfold evalStmts
      exact defines_exhausted
    | succ fuel =>
      cases rest with
      | nil =>
        unfold evalStmts
        exact defines_definition fuel c
      | cons d rest =>
        unfold evalStmts
        exact (defines_definition fuel c).bind fun _ _ => ih fuel

end Script

/-- Where the constants of a session make their operations, in order. -/
def constantPlaces : List Position := (hostConstants 0).flatMap HostConstant.places

theorem flatMap_places (maxPlayers : Nat) :
    (hostConstants maxPlayers).flatMap HostConstant.places = constantPlaces := rfl

theorem length_constantPlaces : constantPlaces.length = 40 := by decide

def budgetFault (p : Position) : ScriptError :=
  let fault := EvalError.raised .tooManyOperations p
  .setup s!"host constants failed to evaluate: {fault.text}"

def constantsRun (rules : Rules) (host : HostNamespace) (s : Scene) (maxPlayers : Nat) :
    EStateM.Result Script.Signal Script.Machine Script.Value :=
  Script.evalStmts Script.runFuel ((hostConstants maxPlayers).map HostConstant.definition)
    (constantsEnv rules host maxPlayers) (Script.machineFor [] #[] none s.world)

/-- The constants run to their end and are taken over, or the limit stops them. -/
theorem seedConstants_cases (rules : Rules) (host : HostNamespace) (s : Scene)
    (maxPlayers : Nat) :
    (constantPlaces.length ≤ rules.limit ∨ rules.limit = 0) ∧
        (∃ v m, constantsRun rules host s maxPlayers = .ok v m ∧
          seedConstants .standard rules host s maxPlayers =
            .ok (host.absorb (m.vars.reverse.map fun v => (v.name, v.value)))) ∨
      rules.limit ≠ 0 ∧ ∃ p, constantPlaces[rules.limit]? = some p ∧
        seedConstants .standard rules host s maxPlayers = .error (budgetFault p) := by
  let env := constantsEnv rules host maxPlayers
  let fresh := Script.machineFor [] #[] none s.world
  have spent := Script.costs_definitions env (hostConstants maxPlayers) Script.runFuel
    (by change 23 ≤ Script.runFuel; decide) fresh (.inr (Nat.zero_le _))
  rw [flatMap_places] at spent
  have ran : Engine.standard.runTopLevel env Memory.empty s.world =
      Script.finish true (·.vars) (constantsRun rules host s maxPlayers) := rfl
  change Run.Spent _ _ _ (constantsRun rules host s maxPlayers) at spent
  unfold seedConstants
  dsimp only
  rw [ran]
  generalize constantsRun rules host s maxPlayers = left at spent
  cases spent with
  | @all v m room made =>
    have start : fresh.operations = 0 := rfl
    have limit : env.limit = rules.limit := rfl
    exact .inl ⟨by omega, v, m, rfl, rfl⟩
  | @stopped p m limited beyond => exact .inr ⟨limited, p, beyond, rfl⟩

/-- The constants are taken over, unless the limit stops them: then this is told, with the place
of the first operation for which there was no room. -/
theorem seedConstants_error (rules : Rules) (host : HostNamespace) (s : Scene) (maxPlayers : Nat)
    (e : ScriptError) :
    seedConstants .standard rules host s maxPlayers = .error e ↔
      rules.limit ≠ 0 ∧ ∃ p, constantPlaces[rules.limit]? = some p ∧ e = budgetFault p := by
  obtain ⟨room, v, m, -, taken⟩ | ⟨limited, p, place, stopped⟩ :=
    seedConstants_cases rules host s maxPlayers
  · rw [taken]
    refine iff_of_false (fun failed => nomatch failed) ?_
    rintro ⟨limited, p, beyond, -⟩
    have inside := (List.getElem?_eq_some_iff.1 beyond).1
    omega
  · rw [stopped, Except.error.injEq]
    constructor
    · intro same
      exact ⟨limited, p, place, same.symm⟩
    · rintro ⟨-, q, same, rfl⟩
      rw [place, Option.some.injEq] at same
      rw [same]

theorem seedConstants_eq {rules : Rules} {host constants : HostNamespace} {s : Scene}
    {maxPlayers : Nat}
    (seeded : seedConstants .standard rules host s maxPlayers = .ok constants) :
    constants = host.absorb ((hostConstants maxPlayers).map fun c => (c.name, .int c.value)) := by
  obtain ⟨-, v, m, ran, taken⟩ | ⟨-, p, -, stopped⟩ := seedConstants_cases rules host s maxPlayers
  · rw [taken] at seeded
    obtain rfl := Except.ok.inj seeded
    have defined := Script.defines_definitions Script.runFuel (hostConstants maxPlayers)
      (constantsEnv rules host maxPlayers) (Script.machineFor [] #[] none s.world)
    obtain ⟨-, vars⟩ := defined v m ran
    have none_before : (Script.machineFor [] #[] none s.world).vars = [] := rfl
    rw [vars, none_before, List.append_nil, List.reverse_reverse, List.map_map]
    rfl
  · rw [stopped] at seeded
    cases seeded

end ModHost
