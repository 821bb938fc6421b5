import ModHost.Script.Eval
import ModHost.Script.Parser
import ModHost.Script.Simplify

set_option autoImplicit false

/-!
# The interpreter

What the host asks of a script: to compile it, to run its top level, and to call one of
its functions. A run works on the script's own memory, which is its variables and the
cells of the captured ones, and on the part of the host that scripts reach, which is the
player table and the generator. It answers how it ended and what it told the host.
-/

namespace ModHost.Script

structure Memory where
  vars : List Variable
  cells : Array Cell

namespace Memory

def empty : Memory := ⟨[], #[]⟩

/-- What a variable holds, which for a captured one is the reference to its cell. -/
def held (m : Memory) (name : String) : Option Value :=
  (m.vars.find? (·.name = name)).map (·.value)

/-- A variable's value, with the content of captured variables in place. -/
def lookup (m : Memory) (name : String) : Option Value :=
  (m.held name).map fun v =>
    match v with
    | .shared c => (m.cells.getD c ⟨.unit, false⟩).value
    | v => v

end Memory

structure World where
  players : PlayerTable
  generator : Generator
deriving Inhabited

inductive Ending where
  | value (v : Value)
  | failed (e : EvalError)
  | panicked (message : String)
  | exhausted

structure RunResult where
  ending : Ending
  memory : Memory
  world : World
  emissions : List Emission

def runFuel : Nat := 4611686018427387904

/-- How a signal at the outermost level ends a run; `exit` ends a script's top level
without a fault. -/
def endingOf (topLevel : Bool) : Signal → Ending
  | .returned v => .value v
  | .fault (.raised (.exited v) p) =>
    if topLevel then .value v else .failed (.raised (.exited v) p)
  | .fault e => .failed e
  | .leftLoop _ v => .value v
  | .panicked message => .panicked message
  | .exhausted => .exhausted

def machineFor (vars : List Variable) (cells : Array Cell) (source : Option String)
    (world : World) : Machine :=
  { vars := vars, this := none, cells := cells, operations := 0, level := 0, source := source,
    players := world.players, generator := world.generator, emissions := [] }

/-- The result of a run that ended in a machine; `vars` are the unit's variables. -/
def finish (topLevel : Bool) (vars : Machine → List Variable)
    (r : EStateM.Result Signal Machine Value) : RunResult :=
  match r with
  | .ok v m => ⟨.value v, ⟨vars m, m.cells⟩, ⟨m.players, m.generator⟩, m.emissions.reverse⟩
  | .error s m =>
    ⟨endingOf topLevel s, ⟨vars m, m.cells⟩, ⟨m.players, m.generator⟩, m.emissions.reverse⟩

def runTopLevel (env : Env) (memory : Memory) (world : World) : RunResult :=
  finish true (·.vars)
    ((evalStmts runFuel env.program.body) env
      (machineFor memory.vars memory.cells env.source world))

def runCallback (env : Env) (memory : Memory) (world : World) (name : String)
    (given args : List Value) : RunResult :=
  let call : Run Value := do
    let (v, _) ← callPointer runFuel name given args none .unknown
    Run.flat v
  finish false (fun _ => memory.vars)
    (call env (machineFor [] memory.cells none world))

def compile (source : String) : Except ParseError Program :=
  (Program.parse source).map Program.simplify

end ModHost.Script
