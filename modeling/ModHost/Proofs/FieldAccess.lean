import ModHost.Proofs.HostCalls
import ModHost.Proofs.NameResolution
import ModHost.Proofs.ProxyFaults

set_option autoImplicit false

/-!
# Fields as properties and by name

A script can write `p.f` or `p["f"]` for a field of a player. The first goes to an accessor of the
field, if the field has one, and else to the indexer that the second goes to at once. Both come to
the same access of the proxy, whatever the proxy meets there. They differ in how many operations
they take, in the place that an error is given, and, for a constant that is assigned to, in which
of the two is said not to be there for constants.
-/

namespace ModHost

namespace Script

open Run

/-- The machine can make so many operations more. -/
def Room (env : Env) (m : Machine) (n : Nat) : Prop := env.limit = 0 ∨ m.operations + n ≤ env.limit

variable {α β : Type} {env : Env} {m m' : Machine} {n : Nat}

theorem Room.counted (room : Room env m (n + 1)) : Room env m.counted n := by
  refine room.imp_right fun below => ?_
  change m.operations + 1 + n ≤ env.limit
  omega

theorem Room.le {k : Nat} (room : Room env m n) (less : k ≤ n) : Room env m k :=
  room.imp_right fun below => by omega

theorem Room.ticks (room : Room env m (n + 1)) (pos : Position) :
    tick pos env m = .ok () m.counted := by
  rw [run_tick]
  exact if_pos (room.imp_right fun below => by omega)

theorem Room.tick (room : Room env m (n + 1)) (pos : Position) (r : Run α) :
    (do tick pos; r) env m = r env m.counted := by
  rw [run_bind, room.ticks]

/-- The machine without its count of operations. -/
def Machine.uncounted (m : Machine) : Machine := { m with operations := 0 }

/-- `Comes m outcome r`: from the machine `m` a run has come to a value and a player table, with
all else as it was, or to a fault, with everything as it was. How many operations it took and which
place the fault has is left open. -/
inductive Comes (m : Machine) :
    Except Cause (α × PlayerTable) → EStateM.Result Signal Machine α → Prop
  | value {a : α} {players : PlayerTable} {m' : Machine}
      (same : m'.uncounted = { m.uncounted with players := players }) :
      Comes m (.ok (a, players)) (.ok a m')
  | fault {c : Cause} {pos : Position} {m' : Machine} (same : m'.uncounted = m.uncounted) :
      Comes m (.error c) (.error (.fault (.raised c pos)) m')

namespace Comes

variable {outcome : Except Cause (α × PlayerTable)} {r : EStateM.Result Signal Machine α}

theorem of_uncounted (comes : Comes m' outcome r) (same : m'.uncounted = m.uncounted) :
    Comes m outcome r := by
  cases comes with
  | value kept => exact .value (same ▸ kept)
  | fault kept => exact .fault (kept.trans same)

theorem of_counted (comes : Comes m.counted outcome r) : Comes m outcome r :=
  comes.of_uncounted rfl

theorem placed {r : Run α} (pos : Position) (comes : Comes m outcome (r env m')) :
    Comes m outcome (Run.placed pos r env m') := by
  unfold Run.placed
  generalize r env m' = ended at comes
  cases comes with
  | value same => exact .value same
  | @fault c place m' same =>
    change Comes m _ (.error (.fault (EvalError.fillPos pos (.raised c place))) m')
    unfold EvalError.fillPos
    split
    · exact .fault same
    · exact .fault same

theorem bind {r : Run α} {f : α → Run β} {g : α → β} (comes : Comes m outcome (r env m'))
    (after : ∀ a players, outcome = .ok (a, players) → ∀ m', f a env m' = .ok (g a) m') :
    Comes m (outcome.map (Prod.map g id)) ((r >>= f) env m') := by
  rw [run_bind]
  generalize r env m' = ended at comes
  cases comes with
  | value same =>
    dsimp only
    rw [after _ _ rfl]
    exact .value same
  | fault same => exact .fault same

end Comes

def refusalCause (e : ProxyError) : Cause := .thrown (.str e.message)

def readOutcome (s : Surrounding) (players : PlayerTable) (slot : Nat) (name : String) :
    Except Cause (Value × PlayerTable) :=
  match Proxy.get .playerState s slot name with
  | .ok v => .ok (v, players)
  | .error e => .error (refusalCause e)

def writeOutcome (answer : α) (s : Surrounding) (slot : Nat) (name : String) (v : Value) :
    Except Cause (α × PlayerTable) :=
  match Proxy.set .playerState s slot name v with
  | .ok players => .ok (answer, players)
  | .error e => .error (refusalCause e)

/-- What comes of assigning to a field. What is constant is refused for the cause that is given. -/
def assignOutcome (answer : α) (isConst : Bool) (constant : Cause) (s : Surrounding) (slot : Nat)
    (name : String) (v : Value) : Except Cause (α × PlayerTable) :=
  if isConst then .error constant else writeOutcome answer s slot name v

theorem map_assignOutcome (f : α → β) (answer : α) (isConst : Bool) (constant : Cause)
    (s : Surrounding) (slot : Nat) (name : String) (v : Value) :
    (assignOutcome answer isConst constant s slot name v).map (Prod.map f id) =
      assignOutcome (f answer) isConst constant s slot name v := by
  unfold assignOutcome writeOutcome
  cases isConst with
  | true => rfl
  | false => cases Proxy.set .playerState s slot name v <;> rfl

theorem answer_of_assigned {answer a : α} {isConst : Bool} {constant : Cause} {s : Surrounding}
    {slot : Nat} {name : String} {v : Value} {players : PlayerTable}
    (came : assignOutcome answer isConst constant s slot name v = .ok (a, players)) :
    a = answer := by
  unfold assignOutcome writeOutcome at came
  split at came
  · cases came
  · split at came <;> cases came
    rfl

abbrev Around := PlayerTable → Surrounding

def inSession : Around := fun players => ⟨true, .held players⟩

variable (around : Around) (slot : Nat) (name : String)

def readAround (pos : Position) : Run Value := do
  match Proxy.get .playerState (around (← get).players) slot name with
  | .ok v => pure v
  | .error e => refused e pos

def writeAround (v : Value) (pos : Position) : Run Unit := do
  match Proxy.set .playerState (around (← get).players) slot name v with
  | .ok players => modify fun m => { m with players := players }
  | .error e => refused e pos

/-- `p.f`: the getter of the field, or the indexer if there is none. -/
def readByProperty (pos dot : Position) : Run Value := do
  tick pos
  if (Field.ofName? name).isSome then readAround around slot name pos
  else
    tick dot
    readAround around slot name dot

def readByName (pos : Position) : Run Value := do
  tick pos
  readAround around slot name pos

/-- `p.f = v`: the setter of the field, or the indexer if there is none. -/
def writeByProperty (isConst : Bool) (v : Value) (pos dot : Position) : Run Unit := do
  tick pos
  if (Field.ofName? name).any (·.writable) then
    if isConst then fault (.constantProperty name) pos
    else writeAround around slot name v pos
  else
    tick dot
    if isConst then fault .constantIndexer dot
    else writeAround around slot name v dot

def writeByName (isConst : Bool) (v : Value) (pos : Position) : Run Unit := do
  tick pos
  if isConst then fault .constantIndexer pos
  else writeAround around slot name v pos

theorem comes_readAround (pos : Position) :
    Comes m (readOutcome (around m.players) m.players slot name)
      (readAround around slot name pos env m) := by
  change Comes m _ ((match Proxy.get .playerState (around m.players) slot name with
    | .ok v => pure v
    | .error e => refused e pos : Run Value) env m)
  unfold readOutcome
  cases Proxy.get .playerState (around m.players) slot name with
  | ok v => exact .value rfl
  | error e => exact .fault rfl

theorem comes_writeAround (v : Value) (pos : Position) :
    Comes m (writeOutcome () (around m.players) slot name v)
      (writeAround around slot name v pos env m) := by
  change Comes m _ ((match Proxy.set .playerState (around m.players) slot name v with
    | .ok players => modify fun m => { m with players := players }
    | .error e => refused e pos : Run Unit) env m)
  unfold writeOutcome
  cases Proxy.set .playerState (around m.players) slot name v with
  | ok players => exact .value rfl
  | error e => exact .fault rfl

theorem comes_assignAround (isConst : Bool) (constant : Cause) (v : Value) (pos : Position) :
    Comes m (assignOutcome () isConst constant (around m.players) slot name v)
      ((if isConst then fault constant pos else writeAround around slot name v pos : Run Unit)
        env m) := by
  cases isConst with
  | true => exact .fault rfl
  | false => exact comes_writeAround around slot name v pos

theorem comes_readByProperty (room : Room env m 2) (pos dot : Position) :
    Comes m (readOutcome (around m.players) m.players slot name)
      (readByProperty around slot name pos dot env m) := by
  unfold readByProperty
  rw [room.tick]
  refine Comes.of_counted ?_
  split
  · exact comes_readAround around slot name pos
  · rw [room.counted.tick]
    exact (comes_readAround around slot name dot).of_counted

theorem comes_readByName (room : Room env m 1) (pos : Position) :
    Comes m (readOutcome (around m.players) m.players slot name)
      (readByName around slot name pos env m) := by
  unfold readByName
  rw [room.tick]
  exact (comes_readAround around slot name pos).of_counted

/-- Why a constant is not written: for a field with a setter, and for a name without one. -/
def constantCause (name : String) : Cause :=
  if (Field.ofName? name).any (·.writable) then .constantProperty name else .constantIndexer

theorem comes_writeByProperty (room : Room env m 2) (isConst : Bool) (v : Value)
    (pos dot : Position) :
    Comes m (assignOutcome () isConst (constantCause name) (around m.players) slot name v)
      (writeByProperty around slot name isConst v pos dot env m) := by
  unfold writeByProperty constantCause
  rw [room.tick]
  refine Comes.of_counted ?_
  cases (Field.ofName? name).any (·.writable) with
  | true => exact comes_assignAround around slot name isConst _ v pos
  | false =>
    simp only [Bool.false_eq_true, ↓reduceIte]
    rw [room.counted.tick]
    exact (comes_assignAround around slot name isConst _ v dot).of_counted

theorem comes_writeByName (room : Room env m 1) (isConst : Bool) (v : Value) (pos : Position) :
    Comes m (assignOutcome () isConst .constantIndexer (around m.players) slot name v)
      (writeByName around slot name isConst v pos env m) := by
  unfold writeByName
  rw [room.tick]
  exact (comes_assignAround around slot name isConst _ v pos).of_counted

theorem run_tick_congr {pos : Position} {r r' : Run α} (each : ∀ m, r env m = r' env m) :
    (do tick pos; r) env m = (do tick pos; r') env m := by
  rw [run_tick_of each, run_tick_bind]

section Session

variable {slot name} (provided : env.facilities.proxyApi = true)

include provided

theorem readProperty_player (pos dot : Position) :
    readProperty (.player slot) name pos dot env m =
      readByProperty inSession slot name pos dot env m := by
  unfold readProperty readByProperty
  refine run_tick_congr fun m' => ?_
  rw [run_bind, run_read]
  dsimp only
  rw [provided]
  rfl

theorem readIndex_player (pos : Position) :
    readIndex (.player slot) (.str name) pos env m = readByName inSession slot name pos env m := by
  unfold readIndex readByName
  refine run_tick_congr fun m' => ?_
  dsimp only
  rw [run_bind, run_read]
  dsimp only
  rw [provided]
  rfl

theorem writeProperty_player (isConst : Bool) (v : Value) (pos dot : Position) :
    writeProperty (.player slot) isConst name v pos dot env m =
      writeByProperty inSession slot name isConst v pos dot env m := by
  unfold writeProperty writeByProperty
  refine run_tick_congr fun m' => ?_
  rw [run_bind, run_read]
  dsimp only
  rw [provided]
  rfl

theorem writeIndex_player (isConst : Bool) (v : Value) (pos : Position) :
    writeIndex (.player slot) isConst (.str name) v pos env m =
      writeByName inSession slot name isConst v pos env m := by
  unfold writeIndex writeByName
  refine run_tick_congr fun m' => ?_
  dsimp only
  rw [run_bind, run_read]
  dsimp only
  rw [provided]
  rfl

end Session

theorem means?_congr (same : m'.uncounted = m.uncounted) (env : Env) (name : String)
    (isLocal : Bool) : m'.means? env name isLocal = m.means? env name isLocal := by
  have told := congrArg (fun m : Machine => m.means? env name isLocal) same
  exact told

/-- The code knows a player's proxy under the name, as a variable or as a constant. -/
def Machine.Knows (m : Machine) (env : Env) (name : String) (isLocal : Bool) (slot : Nat)
    (isConst : Bool) : Prop :=
  ∃ v place, m.means? env name isLocal = some ⟨v, isConst, place⟩ ∧ m.content v = .player slot

def Visit.of (v : Value) : Visit := ⟨v, none⟩

theorem map_result_of (outcome : Except Cause (Value × PlayerTable)) :
    (outcome.map (Prod.map Visit.of id)).map (Prod.map Visit.result id) = outcome := by
  cases outcome <;> rfl

theorem changed_of_mapped {outcome : Except Cause (Value × PlayerTable)} {visit : Visit}
    {players : PlayerTable} (came : outcome.map (Prod.map Visit.of id) = .ok (visit, players)) :
    visit.changed = none := by
  cases outcome with
  | error c => cases came
  | ok reached => cases came; rfl

section Chains

variable {slot name} (dot q : Position)

/-- `.f`, with the places of the dot and of the name -/
def propertyLink (name : String) : Link := .property name false dot q

/-- `["f"]`, with the places of the text and of the bracket -/
def nameLink (name : String) : Link := .index (.const (.str name) dot) false q

theorem run_propertyLink (fuel : Nat) :
    evalLinkArgs (fuel + 2) [propertyLink dot q name] true env m =
      .ok [(propertyLink dot q name, [])] m := by
  unfold evalLinkArgs
  dsimp only [propertyLink]
  simp only [List.isEmpty_nil, Bool.and_self, Bool.not_true, Bool.false_eq_true, ↓reduceIte]
  unfold evalLinkArgs
  rfl

theorem run_nameLink (room : Room env m 2) (fuel : Nat) :
    evalLinkArgs (fuel + 2) [nameLink dot q name] true env m =
      .ok [(nameLink dot q name, [.str name])] m.counted.counted := by
  unfold evalLinkArgs
  dsimp only [nameLink]
  simp only [List.isEmpty_nil, Bool.and_false, Bool.not_false, ↓reduceIte]
  rw [room.tick]
  unfold evalArg evalLinkArgs
  dsimp only [Expr.literal?]
  rw [run_bind, run_bind, room.counted.ticks]
  rfl

variable (slot name)

theorem comes_walk_property (provided : env.facilities.proxyApi = true) (room : Room env m 2)
    (fuel : Nat) (root : Root) (isConst : Bool) :
    Comes m ((readOutcome (inSession m.players) m.players slot name).map
        (Prod.map Visit.of id))
      (walk (fuel + 2) root (.player slot) isConst [(propertyLink dot q name, [])] none
        env m) := by
  have read := comes_readByProperty inSession slot name room q dot
  rw [← readProperty_player provided] at read
  unfold walk
  dsimp only [propertyLink]
  refine read.bind fun v _ _ m' => ?_
  unfold walk
  rfl

theorem comes_walk_name (provided : env.facilities.proxyApi = true) (room : Room env m 1)
    (fuel : Nat) (root : Root) (isConst : Bool) :
    Comes m ((readOutcome (inSession m.players) m.players slot name).map
        (Prod.map Visit.of id))
      (walk (fuel + 2) root (.player slot) isConst [(nameLink dot q name, [.str name])] none
        env m) := by
  have read := comes_readByName inSession slot name room q
  rw [← readIndex_player provided] at read
  unfold walk
  dsimp only [nameLink]
  refine read.bind fun v _ _ m' => ?_
  unfold walk
  rfl

theorem comes_assign_property (provided : env.facilities.proxyApi = true) (room : Room env m 2)
    (fuel : Nat) (root : Root) (isConst : Bool) (v : Value) (pos : Position) :
    Comes m (assignOutcome (Visit.of .unit) isConst (constantCause name)
        (inSession m.players) slot name v)
      (walk (fuel + 1) root (.player slot) isConst [(propertyLink dot q name, [])]
        (some ⟨none, v, pos⟩) env m) := by
  have write := comes_writeByProperty inSession slot name room isConst v q dot
  rw [← writeProperty_player provided] at write
  rw [← map_assignOutcome (fun _ : Unit => Visit.of .unit) ()]
  unfold walk
  exact write.bind fun _ _ _ _ => rfl

theorem comes_assign_name (provided : env.facilities.proxyApi = true) (room : Room env m 1)
    (fuel : Nat) (root : Root) (isConst : Bool) (v : Value) (pos : Position) :
    Comes m (assignOutcome (Visit.of .unit) isConst .constantIndexer
        (inSession m.players) slot name v)
      (walk (fuel + 1) root (.player slot) isConst [(nameLink dot q name, [.str name])]
        (some ⟨none, v, pos⟩) env m) := by
  have write := comes_writeByName inSession slot name room isConst v q
  rw [← writeIndex_player provided] at write
  rw [← map_assignOutcome (fun _ : Unit => Visit.of .unit) ()]
  unfold walk
  exact write.bind fun _ _ _ _ => rfl

variable {slot name}

theorem comes_evalChain {holder : String} {isLocal isConst : Bool} {m₁ : Machine} {fuel : Nat}
    {link : Link} {values : List (Link × List Value)} {new : Option Assignment} {p : Position}
    {outcome : Except Cause (Visit × PlayerTable)}
    (knows : m.Knows env holder isLocal slot isConst)
    (args : evalLinkArgs fuel [link] true env m = .ok values m₁)
    (same : m₁.uncounted = m.uncounted) (room : Room env m₁ 1)
    (walked : Comes m₁.counted outcome
      (walk fuel ⟨holder, p⟩ (.player slot) isConst values new env m₁.counted))
    (plain : ∀ visit players, outcome = .ok (visit, players) → visit.changed = none) :
    Comes m (outcome.map (Prod.map Visit.result id))
      (evalChain (fuel + 1) (.var holder isLocal p) [link] new env m) := by
  obtain ⟨v, place, means, content⟩ := knows
  have means₁ : m₁.counted.means? env holder isLocal = some ⟨v, isConst, place⟩ :=
    (means?_congr same env holder isLocal).trans means
  have content₁ : m₁.counted.content v = .player slot :=
    (congrArg (fun m : Machine => m.content v) same).trans content
  unfold evalChain
  rw [run_bind, args]
  dsimp only
  rw [room.tick, run_bind, run_lookup, means₁]
  dsimp only
  rw [run_bind, run_flat, content₁]
  dsimp only
  refine Comes.bind ((walked.placed _).of_uncounted same) ?_
  intro visit players told m'
  rw [plain visit players told]
  rfl

theorem content_of_get {s : Surrounding} {v : Value}
    (got : Proxy.get .playerState s slot name = .ok v) (m : Machine) : m.content v = v := by
  obtain ⟨part, rfl⟩ : ∃ part : FieldValue, v = part.toValue := by
    unfold Proxy.get at got
    cases found : Proxy.field .playerState name with
    | error e => simp [found, bind, Except.bind] at got
    | ok f =>
      cases reached : Proxy.resolve .playerState false s slot with
      | error e => simp [found, reached, bind, Except.bind] at got
      | ok record =>
        cases held : record.2.readField f.name with
        | none => simp [found, reached, held, bind, Except.bind] at got
        | some part =>
          simp only [found, reached, held, bind, Except.bind] at got
          cases got
          exact ⟨part, rfl⟩
  cases part <;> rfl

theorem comes_evalExpr {holder : String} {isLocal : Bool} {p : Position} {link : Link} {fuel : Nat}
    (room : Room env m 1)
    (chain : Comes m.counted (readOutcome (inSession m.players) m.players slot name)
      (evalChain fuel (.var holder isLocal p) [link] none env m.counted)) :
    Comes m (readOutcome (inSession m.players) m.players slot name)
      (evalExpr (fuel + 2) (.chain (.var holder isLocal p) [link]) env m) := by
  have raw : Comes m (readOutcome (inSession m.players) m.players slot name)
      (evalRaw (fuel + 1) (.chain (.var holder isLocal p) [link]) env m) := by
    unfold evalRaw
    rw [room.tick]
    exact chain.of_counted
  have same : (readOutcome (inSession m.players) m.players slot name).map (Prod.map id id) =
      readOutcome (inSession m.players) m.players slot name := by
    unfold readOutcome
    cases Proxy.get .playerState (inSession m.players) slot name <;> rfl
  unfold evalExpr
  rw [← same]
  refine raw.bind fun v players told m' => ?_
  have got : Proxy.get .playerState (inSession m.players) slot name = .ok v := by
    unfold readOutcome at told
    split at told
    · next v' got => cases told; exact got
    · cases told
  rw [run_flat, content_of_get got]
  rfl

theorem comes_evalStmt {holder : String} {isLocal isConst : Bool} {p pos : Position} {link : Link}
    {fuel : Nat} {rhs : Expr} {v : Value} {constant : Cause} (room : Room env m 1)
    (evaluated : evalExpr fuel rhs env m.counted = .ok v m')
    (chain : Comes m' (assignOutcome .unit isConst constant (inSession m'.players) slot name v)
      (evalChain fuel (.var holder isLocal p) [link] (some ⟨none, v, pos⟩) env m')) :
    Comes m' (assignOutcome .unit isConst constant (inSession m'.players) slot name v)
      (evalStmt (fuel + 1) (.assign none (.chain (.var holder isLocal p) [link]) rhs pos)
        env m) := by
  unfold evalStmt
  rw [room.tick]
  dsimp only
  rw [run_bind, evaluated]
  exact chain

end Chains

def readExpr (holder : String) (isLocal : Bool) (p : Position) (link : Link) : Expr :=
  .chain (.var holder isLocal p) [link]

def assignStmt (holder : String) (isLocal : Bool) (p : Position) (link : Link) (rhs : Expr)
    (pos : Position) : Stmt :=
  .assign none (readExpr holder isLocal p link) rhs pos

variable {holder : String} {isLocal isConst : Bool} {slot}

theorem comes_readExpr_property (provided : env.facilities.proxyApi = true) (room : Room env m 4)
    (knows : m.Knows env holder isLocal slot isConst) (fuel : Nat) (p dot q : Position) :
    Comes m (readOutcome (inSession m.players) m.players slot name)
      (evalExpr (fuel + 5) (readExpr holder isLocal p (propertyLink dot q name)) env m) := by
  have walked := comes_walk_property slot name dot q provided room.counted.counted fuel
    ⟨holder, p⟩ isConst
  have chained := comes_evalChain (m := m.counted) knows (run_propertyLink dot q fuel) rfl
    (room.counted.le (by omega)) walked fun _ _ => changed_of_mapped
  rw [map_result_of] at chained
  exact comes_evalExpr (room.le (by omega)) chained

theorem comes_readExpr_name (provided : env.facilities.proxyApi = true) (room : Room env m 5)
    (knows : m.Knows env holder isLocal slot isConst) (fuel : Nat) (p dot q : Position) :
    Comes m (readOutcome (inSession m.players) m.players slot name)
      (evalExpr (fuel + 5) (readExpr holder isLocal p (nameLink dot q name)) env m) := by
  have walked := comes_walk_name slot name dot q provided room.counted.counted.counted.counted fuel
    ⟨holder, p⟩ isConst
  have chained := comes_evalChain (m := m.counted) knows
    (run_nameLink dot q (room.counted.le (by omega)) fuel) rfl
    (room.counted.counted.counted.le (by omega)) walked fun _ _ => changed_of_mapped
  rw [map_result_of] at chained
  exact comes_evalExpr (room.le (by omega)) chained

variable {rhs : Expr} {v : Value}

theorem comes_assignStmt_property (provided : env.facilities.proxyApi = true) (fuel : Nat)
    (room : Room env m 1) (evaluated : evalExpr (fuel + 3) rhs env m.counted = .ok v m')
    (left : Room env m' 3) (knows : m'.Knows env holder isLocal slot isConst)
    (p dot q pos : Position) :
    Comes m' (assignOutcome .unit isConst (constantCause name) (inSession m'.players) slot name v)
      (evalStmt (fuel + 4) (assignStmt holder isLocal p (propertyLink dot q name) rhs pos)
        env m) := by
  have walked := comes_assign_property slot name dot q provided left.counted (fuel + 1)
    ⟨holder, p⟩ isConst v pos
  have chained := comes_evalChain knows (run_propertyLink dot q fuel) rfl (left.le (by omega))
    walked fun _ _ came => congrArg Visit.changed (answer_of_assigned came)
  rw [map_assignOutcome] at chained
  exact comes_evalStmt room evaluated chained

theorem comes_assignStmt_name (provided : env.facilities.proxyApi = true) (fuel : Nat)
    (room : Room env m 1) (evaluated : evalExpr (fuel + 3) rhs env m.counted = .ok v m')
    (left : Room env m' 4) (knows : m'.Knows env holder isLocal slot isConst)
    (p dot q pos : Position) :
    Comes m' (assignOutcome .unit isConst .constantIndexer (inSession m'.players) slot name v)
      (evalStmt (fuel + 4) (assignStmt holder isLocal p (nameLink dot q name) rhs pos) env m) := by
  have walked := comes_assign_name slot name dot q provided left.counted.counted.counted (fuel + 1)
    ⟨holder, p⟩ isConst v pos
  have chained := comes_evalChain knows (run_nameLink dot q (left.le (by omega)) fuel) rfl
    (left.counted.counted.le (by omega)) walked
    fun _ _ came => congrArg Visit.changed (answer_of_assigned came)
  rw [map_assignOutcome] at chained
  exact comes_evalStmt room evaluated chained

def Both (m : Machine) (outcome : Except Cause (α × PlayerTable))
    (r r' : EStateM.Result Signal Machine α) : Prop :=
  Comes m outcome r ∧ Comes m outcome r'

/-- How property and access by name agree for a name of a field, or any other name, and a slot.
The first two are about any surroundings of proxies. In a run of a session the interpreter does
the same; there a script knows the proxy under a name. -/
structure SpellingsAgree (env : Env) (slot : Nat) (name : String) : Prop where
  reads : ∀ (around : Around) (m : Machine) (dot q bracket : Position), Room env m 2 →
    Both m (readOutcome (around m.players) m.players slot name)
      (readByProperty around slot name q dot env m) (readByName around slot name bracket env m)
  writes : ∀ (around : Around) (m : Machine) (v : Value) (dot q bracket : Position),
    Room env m 2 →
    Both m (writeOutcome () (around m.players) slot name v)
      (writeByProperty around slot name false v q dot env m)
      (writeByName around slot name false v bracket env m)
  interpreted : ∀ (m : Machine) (isConst : Bool) (v : Value) (dot q bracket : Position),
    readProperty (.player slot) name q dot env m =
      readByProperty inSession slot name q dot env m ∧
    readIndex (.player slot) (.str name) bracket env m =
      readByName inSession slot name bracket env m ∧
    writeProperty (.player slot) isConst name v q dot env m =
      writeByProperty inSession slot name isConst v q dot env m ∧
    writeIndex (.player slot) isConst (.str name) v bracket env m =
      writeByName inSession slot name isConst v bracket env m
  /-- At the end of a chain that has come to the proxy, from whatever it began with. -/
  links : ∀ (m : Machine) (root : Root) (isConst : Bool) (fuel : Nat)
    (dot q text bracket : Position), Room env m 2 →
    Both m ((readOutcome (inSession m.players) m.players slot name).map (Prod.map Visit.of id))
      (walk (fuel + 2) root (.player slot) isConst [(propertyLink dot q name, [])] none env m)
      (walk (fuel + 2) root (.player slot) isConst [(nameLink text bracket name, [.str name])] none
        env m) ∧
    ∀ (v : Value) (pos : Position),
    let asProperty := walk (fuel + 1) root (.player slot) isConst
      [(propertyLink dot q name, [])] (some ⟨none, v, pos⟩) env m
    let byName := walk (fuel + 1) root (.player slot) isConst
      [(nameLink text bracket name, [.str name])] (some ⟨none, v, pos⟩) env m
    (isConst = false →
      Both m (writeOutcome (Visit.of .unit) (inSession m.players) slot name v) asProperty byName) ∧
    (isConst = true →
      Comes m (.error (constantCause name)) asProperty ∧ Comes m (.error .constantIndexer) byName)
  expressions : ∀ (m : Machine) (holder : String) (isLocal isConst : Bool),
    m.Knows env holder isLocal slot isConst → Room env m 5 →
    ∀ fuel (p dot q text bracket : Position),
    Both m (readOutcome (inSession m.players) m.players slot name)
      (evalExpr (fuel + 5) (readExpr holder isLocal p (propertyLink dot q name)) env m)
      (evalExpr (fuel + 5) (readExpr holder isLocal p (nameLink text bracket name)) env m)
  /-- The value is evaluated first; then the machine is `m'`. -/
  statements : ∀ (m m' : Machine) (fuel : Nat) (rhs : Expr) (v : Value), Room env m 1 →
    evalExpr (fuel + 3) rhs env m.counted = .ok v m' → Room env m' 4 →
    ∀ (holder : String) (isLocal : Bool) (p dot q text bracket pos : Position),
    let asProperty := evalStmt (fuel + 4)
      (assignStmt holder isLocal p (propertyLink dot q name) rhs pos) env m
    let byName := evalStmt (fuel + 4)
      (assignStmt holder isLocal p (nameLink text bracket name) rhs pos) env m
    (m'.Knows env holder isLocal slot false →
      Both m' (writeOutcome .unit (inSession m'.players) slot name v) asProperty byName) ∧
    (m'.Knows env holder isLocal slot true →
      Comes m' (.error (constantCause name)) asProperty ∧
        Comes m' (.error .constantIndexer) byName)

def onePlayer : Machine :=
  { seededMachine with vars := [⟨"p", .player 0, false⟩], players := #[.fresh 0] }

end Script

namespace ScriptHost

/-- A host with one player and two scripts, which write to a constant in the two ways. -/
def writingConstants : InitReport × ScriptHost :=
  let property := "const p = gPlayerStates[0]; p.coins = 1;"
  let byName := "const p = gPlayerStates[0]; p[\"coins\"] = 1;"
  let files : Files :=
    .ofNodes [(["a.rhai"], .file property.toUTF8 0), (["b.rhai"], .file byName.toUTF8 0)]
  let config := { ScriptingConfig.default with
    maxPlayers := 1, mods := ⟨[⟨"a.rhai", true⟩, ⟨"b.rhai", true⟩], []⟩ }
  (ofConfig config).start .standard files

end ScriptHost

end ModHost
