import ModHost.Binding
import ModHost.HookKind
import ModHost.Proxy
import ModHost.Random
import ModHost.Script.Library
import ModHost.Script.Syntax
import ModHost.Script.Token

set_option autoImplicit false

/-!
# The machine that runs scripts

A run is a function of an environment, which it only reads, and a machine, which it
changes. The machine holds the variables of the function that runs, the cells of
captured variables, what the run may spend, the host's players and generator, and what
the run has told the host so far. A run ends with a value or with a signal; the machine
keeps what happened before a signal.
-/

namespace ModHost.Script

structure Variable where
  name : String
  value : Value
  isConst : Bool

structure Cell where
  value : Value
  isConst : Bool
deriving Inhabited

structure Facilities where
  hostApi : Bool
  hookApi : Bool
  proxyApi : Bool

namespace Facilities

def none : Facilities := ⟨false, false, false⟩

def full : Facilities := ⟨true, true, true⟩

end Facilities

inductive Emission where
  | output (text : String)
  | debug (text : String)
  | hook (kind : HookKind) (name : String) (given : List Value)

structure Env where
  program : Program
  source : Option String
  libraries : List Library
  facilities : Facilities
  bindings : BindingTable
  isServer : Bool
  /-- Operations a run may make; zero for any number. -/
  limit : Nat
  /-- Names beyond the variables of the run. Their values are constants; a captured
  variable among them is met with its current content. -/
  outer : String → Option Value
  hasOwner : Bool := true

/-- Install a table of bindings in the engine that a run reads: the answer, what runs can read
then, and what is logged. -/
def Env.install (env : Env) (t : BindingTable) : Except ScriptError Nat × Env × List LogEvent :=
  let (answer, bindings, log) := t.installInto env.bindings
  (answer, { env with bindings := bindings }, log)

structure Machine where
  vars : List Variable
  this : Option Value
  cells : Array Cell
  operations : Nat
  level : Nat
  /-- The script whose code runs, as far as faults and debug lines tell. -/
  source : Option String
  players : PlayerTable
  generator : Generator
  /-- What was told to the host, newest first. -/
  emissions : List Emission

inductive Signal where
  | fault (e : EvalError)
  | returned (v : Value)
  | leftLoop (isBreak : Bool) (v : Value)
  | panicked (message : String)
  | exhausted

abbrev Run := ReaderT Env (EStateM Signal Machine)

namespace Run

theorem run_bind {α β : Type} (r : Run α) (f : α → Run β) (env : Env) (m : Machine) :
    (r >>= f) env m =
      match r env m with
      | .ok a m' => f a env m'
      | .error s m' => .error s m' := by
  change EStateM.bind (r env) (fun a => f a env) m = _
  unfold EStateM.bind
  cases r env m <;> rfl

def fault {α : Type} (cause : Cause) (pos : Position) : Run α :=
  throw (.fault (.raised cause pos))

def attempt {α : Type} (r : Run α) : Run (Except Signal α) := fun env m =>
  match r env m with
  | .ok a m => .ok (.ok a) m
  | .error s m => .ok (.error s) m

def tick (pos : Position) : Run Unit := do
  let limit := (← read).limit
  let n := (← get).operations + 1
  modify fun m => { m with operations := n }
  if limit > 0 && n > limit then fault .tooManyOperations pos

theorem run_tick (pos : Position) (env : Env) (m : Machine) :
    tick pos env m =
      let counted := { m with operations := m.operations + 1 }
      if env.limit = 0 ∨ m.operations + 1 ≤ env.limit then .ok () counted
      else .error (.fault (.raised .tooManyOperations pos)) counted := by
  let counted := { m with operations := m.operations + 1 }
  have told : tick pos env m =
      (if env.limit > 0 && m.operations + 1 > env.limit then fault .tooManyOperations pos
        else pure () : Run Unit) env counted := rfl
  rw [told]
  by_cases within : env.limit = 0 ∨ m.operations + 1 ≤ env.limit
  · rw [if_neg (by simp; omega)]
    exact (if_pos within).symm
  · rw [if_pos (by simp; omega)]
    exact (if_neg within).symm

def placed {α : Type} (pos : Position) (r : Run α) : Run α := fun env m =>
  match r env m with
  | .error (.fault e) m => .error (.fault (e.fillPos pos)) m
  | r => r

def ofExcept {α : Type} (pos : Position) (r : Except Cause α) : Run α :=
  match r with
  | .ok a => pure a
  | .error c => fault c pos

def emit (e : Emission) : Run Unit :=
  modify fun m => { m with emissions := e :: m.emissions }

def cellAt (c : Nat) : Run Cell := do pure ((← get).cells.getD c ⟨.unit, false⟩)

def flat (v : Value) : Run Value :=
  match v with
  | .shared c => do pure (← cellAt c).value
  | v => pure v

/-- A variable in scope by name: its place, what it holds, and whether it is constant. -/
def variableNamed? (name : String) : Run (Option (Nat × Value × Bool)) := do
  let vars := (← get).vars
  match vars.findIdx? (·.name = name) with
  | none => pure none
  | some i =>
    match vars[i]? with
    | none => pure none
    | some v =>
      match v.value with
      | .shared c => pure (some (i, v.value, (← cellAt c).isConst))
      | value => pure (some (i, value, v.isConst))

def setVariable (i : Nat) (value : Value) : Run Unit := do
  let vars := (← get).vars
  match vars[i]? with
  | some ⟨_, .shared c, _⟩ =>
    modify fun m => { m with cells := m.cells.modify c fun cell => { cell with value := value } }
  | some v => modify fun m => { m with vars := m.vars.set i { v with value := value } }
  | none => pure ()

def setThis (value : Value) : Run Unit := do
  match (← get).this with
  | some (.shared c) =>
    modify fun m => { m with cells := m.cells.modify c fun cell => { cell with value := value } }
  | _ => modify fun m => { m with this := some value }

def push (name : String) (value : Value) (isConst : Bool) : Run Unit :=
  modify fun m => { m with vars := ⟨name, value, isConst⟩ :: m.vars }

def share (name : String) (pos : Position) : Run Unit := do
  let m ← get
  match m.vars.findIdx? (·.name = name) with
  | none => fault (.variableNotFound name) pos
  | some i =>
    match m.vars[i]? with
    | some v =>
      match v.value with
      | .shared _ => pure ()
      | value =>
        set { m with
          cells := m.cells.push ⟨value, v.isConst⟩
          vars := m.vars.set i { v with value := .shared m.cells.size } }
    | none => pure ()

/-- Run with the variables it adds removed afterwards, however it ends. -/
def inBlock {α : Type} (r : Run α) : Run α := do
  let depth := (← get).vars.length
  let result ← attempt r
  modify fun m => { m with vars := m.vars.drop (m.vars.length - depth) }
  match result with
  | .ok a => pure a
  | .error s => throw s

def repeatUntil (step : Run (Option Value)) : Nat → Run Value
  | 0 => throw .exhausted
  | fuel + 1 => do
    match ← step with
    | some v => pure v
    | none => repeatUntil step fuel

def eachItem (step : Nat → Value → Run (Option Value)) : List Value → Nat → Run Value
  | [], _ => pure .unit
  | v :: rest, i => do
    match ← step i v with
    | some r => pure r
    | none => eachItem step rest (i + 1)

def eachInt (step : Nat → Value → Run (Option Value)) : Nat → Int → Nat → Run Value
  | 0, _, _ => pure .unit
  | count + 1, next, i => do
    match ← step i (.int (Int64.ofInt next)) with
    | some r => pure r
    | none => eachInt step count (next + 1) (i + 1)

/-- What a loop's body leaves: its `break` value, or nothing when the loop goes on. -/
def loopBody (body : Run Value) : Run (Option Value) := do
  match ← attempt body with
  | .ok _ => pure none
  | .error (.leftLoop true v) => pure (some v)
  | .error (.leftLoop false _) => pure none
  | .error s => throw s

end Run

def signature (name : String) (args : List Value) : String :=
  s!"{name} (" ++ ", ".intercalate (args.map Value.signatureName) ++ ")"

def functionPointer (name : String) : Except Cause Value :=
  let kept := Token.keywords.contains name || Token.reservedWords.contains name
    || marks.any (·.1 = name)
  if kept then .error (.syntaxFault (ParseCause.reserved name).message)
  else if isIdentifier name then .ok (.fn name [])
  else .error (.functionNotFound name)

end ModHost.Script
