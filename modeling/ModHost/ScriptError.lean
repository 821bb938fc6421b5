import ModHost.Script.EvalError

set_option autoImplicit false

/-!
# Script failures

What can go wrong while scripts are set up, loaded or run. No failure ends the frame
loop: it is logged and queued. A runtime failure tells the innermost fault, and keeps
the calls around it as a stack, outermost first.
-/

namespace ModHost

open Script (EvalError Position)

inductive ScriptError where
  | compile (path message : String)
  | runtime (origin message : String) (stack : List String)
  | setup (message : String)
  | duplicate (path : String)
deriving DecidableEq, Repr, Inhabited

namespace ScriptError

def label : ScriptError → String
  | compile _ _ => "compile"
  | runtime _ _ _ => "runtime"
  | setup _ => "setup"
  | duplicate _ => "duplicate"

def text : ScriptError → String
  | compile path message => s!"failed to compile '{path}': {message}"
  | runtime origin message _ => s!"runtime error in {origin}: {message}"
  | setup message => s!"interpreter setup failed: {message}"
  | duplicate path => s!"script '{path}' is already loaded in this session"

def stack : ScriptError → List String
  | runtime _ _ frames => frames
  | _ => []

def frame (what source : String) (pos : Position) : String :=
  let place := if pos.isUnknown then "" else " @ " ++ pos.text
  if source = "" then what ++ place else s!"{what} [{source}]" ++ place

/-- One line for each call that a fault left, outermost first, and one for the fault. -/
def frames : EvalError → List String
  | .inFunction name source inner pos => frame ("fn " ++ name) source pos :: frames inner
  | .inModule name inner pos => frame ("module " ++ name) "" pos :: frames inner
  | .raised cause pos => [frame (EvalError.raised cause pos).text "" pos]

def ofEval (origin : String) (e : EvalError) : ScriptError :=
  .runtime origin e.innermost.text (frames e)

end ScriptError

end ModHost
