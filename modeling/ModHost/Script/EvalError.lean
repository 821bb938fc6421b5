import ModHost.Script.Position
import ModHost.Script.Value

set_option autoImplicit false

/-!
# Why a run fails

A fault is a cause at a place, wrapped once for every function call and module that it
left on its way out. The text of a wrapped fault tells the innermost first.
-/

namespace ModHost.Script

inductive Cause where
  | variableNotFound (name : String)
  | functionNotFound (signature : String)
  | moduleNotFound (path : String)
  | indexNotFound (index : Value)
  | unboundThis
  | mismatch (expected actual : String)
  | notIterable
  | arithmetic (text : String)
  | arrayBounds (length : Nat) (index : Int)
  | stringBounds (length : Nat) (index : Int)
  | bitBounds (length : Nat) (index : Int)
  | noProperty (text : String)
  | noIndexer (signature : String)
  | constantAssigned (name : String)
  | constantMethod (name : String)
  | constantProperty (name : String)
  | constantIndexer
  | stackOverflow
  | tooManyOperations
  | syntaxFault (text : String)
  | thrown (value : Value)
  | exited (value : Value)
deriving Inhabited

namespace Cause

def countText (what unit : String) (length : Nat) (index : Int) (container : String) : String :=
  let tail := match length with
    | 0 => s!"{container} is empty"
    | 1 => s!"only 1 {unit} in {container}"
    | n => s!"only {n} {unit}s in {container}"
  s!"{what} index {index} out of bounds: {tail}"

def message : Cause → String
  | variableNotFound n => s!"Variable not found: {n}"
  | functionNotFound s => s!"Function not found: {s}"
  | moduleNotFound p => s!"Module not found: {p}"
  | indexNotFound v => s!"Invalid index: {v.displayText}"
  | unboundThis => "'this' not bound"
  | mismatch expected actual =>
    if actual = "" then s!"Data type incorrect, expecting {expected}"
    else if expected = "" then s!"Data type incorrect: {actual}"
    else s!"Data type incorrect: {actual} (expecting {expected})"
  | notIterable => "For loop expects iterable type"
  | arithmetic s => if s = "" then "Arithmetic error" else s
  | arrayBounds n i => countText "Array" "element" n i "array"
  | stringBounds n i => countText "String" "character" n i "string"
  | bitBounds n i => s!"Bit-field index {i} out of bounds: only {n} bits in bit-field"
  | noProperty s => if s = "" then "Malformed dot expression" else s
  | noIndexer s => s!"Indexer unavailable: {s}"
  | constantAssigned n => s!"Cannot modify constant {n}"
  | constantMethod n => s!"Non-pure method '{n}' cannot be called on constant"
  | constantProperty n => s!"Cannot modify property '{n}' of constant"
  | constantIndexer => "Cannot assign to indexer of constant"
  | stackOverflow => "Stack overflow"
  | tooManyOperations => "Too many operations"
  | thrown v =>
    let text := v.displayText
    match v with
    | .unit => "Runtime error"
    | .str "" => "Runtime error"
    | _ => "Runtime error: " ++ text
  | syntaxFault text => s!"Syntax error: {text}"
  | exited _ => "NOT AN ERROR - script exits with value"

/-- A fault of the run or its text as a whole, which no wrapper surrounds and no handler
catches. -/
def isSystem : Cause → Bool
  | stackOverflow | tooManyOperations | syntaxFault _ => true
  | _ => false

def isCatchable : Cause → Bool
  | exited _ => false
  | c => !c.isSystem

def kind : Cause → String
  | variableNotFound _ => "ErrorVariableNotFound"
  | functionNotFound _ => "ErrorFunctionNotFound"
  | moduleNotFound _ => "ErrorModuleNotFound"
  | indexNotFound _ => "ErrorIndexNotFound"
  | unboundThis => "ErrorUnboundThis"
  | mismatch _ _ => "ErrorMismatchDataType"
  | notIterable => "ErrorFor"
  | arithmetic _ => "ErrorArithmetic"
  | arrayBounds _ _ => "ErrorArrayBounds"
  | stringBounds _ _ => "ErrorStringBounds"
  | bitBounds _ _ => "ErrorBitFieldBounds"
  | noProperty _ => "ErrorDotExpr"
  | noIndexer _ => "ErrorIndexingType"
  | constantAssigned _ => "ErrorAssignmentToConstant"
  | constantMethod _ | constantProperty _ | constantIndexer => "ErrorNonPureMethodCallOnConstant"
  | stackOverflow => "ErrorStackOverflow"
  | tooManyOperations => "ErrorTooManyOperations"
  | syntaxFault _ => "ErrorParsing"
  | thrown _ => "ErrorRuntime"
  | exited _ => "Exit"

def details : Cause → List (String × Value)
  | variableNotFound n | constantAssigned n => [("variable", .str n)]
  | functionNotFound s => [("function", .str s)]
  | moduleNotFound p => [("module", .str p)]
  | indexNotFound v => [("index", v)]
  | mismatch e a => [("requested", .str e), ("actual", .str a)]
  | arrayBounds n i | stringBounds n i | bitBounds n i =>
    [("length", .int (Int64.ofNat n)), ("index", .int (Int64.ofInt i))]
  | noProperty p => [("property", .str p)]
  | noIndexer t => [("type", .str t)]
  | constantMethod n => [("function", .str n)]
  | constantProperty n => [("function", .str ("set$" ++ n))]
  | constantIndexer => [("function", .str "index$set$")]
  | _ => []

end Cause

inductive EvalError where
  | raised (cause : Cause) (pos : Position)
  | inFunction (name source : String) (inner : EvalError) (pos : Position)
  | inModule (name : String) (inner : EvalError) (pos : Position)
deriving Inhabited

namespace EvalError

def pos : EvalError → Position
  | raised _ p | inFunction _ _ _ p | inModule _ _ p => p

def setPos (p : Position) : EvalError → EvalError
  | raised c _ => raised c p
  | inFunction n s e _ => inFunction n s e p
  | inModule n e _ => inModule n e p

/-- Set the place if none is known yet. -/
def fillPos (p : Position) (e : EvalError) : EvalError :=
  if e.pos.isUnknown then e.setPos p else e

def innermost : EvalError → EvalError
  | inFunction _ _ e _ => e.innermost
  | inModule _ e _ => e.innermost
  | e => e

def cause : EvalError → Cause
  | raised c _ => c
  | inFunction _ _ e _ => e.cause
  | inModule _ e _ => e.cause

def isSystem : EvalError → Bool
  | raised c _ => c.isSystem
  | _ => false

def isCatchable : EvalError → Bool
  | raised c _ => c.isCatchable
  | _ => true

def body : EvalError → String
  | raised c _ => c.message
  | inFunction name source inner _ =>
    let origin := if source = "" then "" else s!" @ '{source}'"
    let call := if isAnonymous name then "closure call" else s!"call to function '{name}'"
    let from_ := if source = "" then "" else s!" (from '{source}')"
    inner.body ++ origin ++ inner.pos.suffix ++ "\nin " ++ call ++ from_
  | inModule name inner _ =>
    let called := if name = "" then "" else s!" '{name}'"
    inner.body ++ inner.pos.suffix ++ "\nin module" ++ called

def text (e : EvalError) : String := e.body ++ e.pos.suffix

/-- What a handler's variable holds: a thrown value itself, any other fault as a map. -/
def caught (source : Option String) (e : EvalError) : Value :=
  match e.innermost with
  | raised (.thrown v) _ => v
  | _ =>
    let place : List (String × Value) :=
      if e.pos.isUnknown then []
      else [("line", .int (Int64.ofNat e.pos.line)), ("position", .int (Int64.ofNat e.pos.column))]
    let origin : List (String × Value) := match source with
      | some s => [("source", .str s)]
      | none => []
    let fields : List (String × Value) := match e with
      | raised c _ => ("error", .str c.kind) :: c.details
      | inFunction name source _ _ =>
        [("error", .str "ErrorInFunctionCall"), ("function", .str name), ("source", .str source)]
      | inModule name _ _ => [("error", .str "ErrorInModule"), ("module", .str name)]
    .map (Value.ofEntries ([("message", .str e.body)] ++ origin ++ place ++ fields))

end EvalError

end ModHost.Script
