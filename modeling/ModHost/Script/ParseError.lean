import ModHost.Script.Position

set_option autoImplicit false

/-!
# Why a script does not compile

Causes as values, and their wording in one place.
-/

namespace ModHost.Script

inductive LexError where
  | unexpected (text : String)
  | escape (text : String)
  | number (text : String)
  | character (text : String)
  | identifier (text : String)
  | openString
  | symbol (text reason : String)
deriving DecidableEq, Repr, Inhabited

def LexError.message : LexError → String
  | unexpected s => s!"Unexpected '{s}'"
  | escape s => s!"Invalid escape sequence: '{s}'"
  | number s => s!"Invalid number: '{s}'"
  | character s => s!"Invalid character: '{s}'"
  | identifier s => s!"Variable name is not proper: '{s}'"
  | openString => "Open string is not terminated"
  | symbol s reason => if reason = "" then s!"Invalid symbol encountered: '{s}'" else reason

inductive ParseCause where
  | lexical (e : LexError)
  | unknownOperator (spelling : String)
  | malformedIndex (reason : String)
  | malformedCapture (reason : String)
  | missing (token purpose : String)
  | mismatch (expected actual : String)
  | expressionExpected (kind : String)
  | duplicateProperty (name : String)
  | duplicateVariable (name : String)
  | duplicateFunction (name : String) (arity : Nat)
  | duplicateParameter (function name : String)
  | switchNumber
  | switchDefault
  | switchGuard
  | propertyExpected
  | variableExpected
  | nestedFunction
  | functionName
  | functionParameters (name : String)
  | functionBody (name : String)
  | exportNested
  | constantAssigned (name : String)
  | notAssignable
  | reserved (word : String)
  | outsideLoop
  | incomplete
  | tooComplex
deriving DecidableEq, Repr, Inhabited

/-- Words of letters, digits and underscores with a letter before any digit. -/
def isIdentifier (s : String) : Bool :=
  let body := s.toList.dropWhile (· = '_')
  match body with
  | [] => false
  | c :: rest => c.isAlpha && rest.all fun c => c.isAlphanum || c = '_'

def ParseCause.message : ParseCause → String
  | lexical e => e.message
  | unknownOperator s => s!"Unknown operator: '{s}'"
  | malformedIndex r => if r = "" then "Invalid index in indexing expression" else r
  | malformedCapture r => if r = "" then "Invalid capturing" else r
  | missing t p => s!"Expecting '{t}' {p}"
  | mismatch e a => if a = "" then s!"Expecting {e}" else s!"Expecting {e}, not {a}"
  | expressionExpected k => s!"Expecting {k} expression"
  | duplicateProperty n => s!"Duplicated property for object map literal: {n}"
  | duplicateVariable n => s!"Duplicated variable name: {n}"
  | duplicateFunction n 0 => s!"Function {n} with no parameters already exists"
  | duplicateFunction n 1 => s!"Function {n} with 1 parameter already exists"
  | duplicateFunction n k => s!"Function {n} with {k} parameters already exists"
  | duplicateParameter f n => s!"Duplicated parameter {n} for function {f}"
  | switchNumber => "Numeric switch case cannot follow a range case"
  | switchDefault => "Default switch case must be the last"
  | switchGuard => "This switch case cannot have a condition"
  | propertyExpected => "Expecting name of a property"
  | variableExpected => "Expecting name of a variable"
  | nestedFunction =>
    "Function definitions must be at global level and cannot be inside a block or another function"
  | functionName => "Expecting function name in function declaration"
  | functionParameters n => s!"Expecting parameters for function {n}"
  | functionBody n =>
    if n = "" then "Expecting body statement block for anonymous function"
    else s!"Expecting body statement block for function {n}"
  | exportNested => "Export statement can only appear at global level"
  | constantAssigned n =>
    if n = "" then "Cannot assign to a constant value" else s!"Cannot assign to constant {n}"
  | notAssignable => "Expression cannot be assigned to"
  | reserved w =>
    if isIdentifier w then s!"'{w}' is a reserved keyword" else s!"'{w}' is a reserved symbol"
  | outsideLoop => "Break statement should only be used inside a loop"
  | incomplete => "Script is incomplete"
  | tooComplex => "Expression exceeds maximum complexity"

structure ParseError where
  cause : ParseCause
  pos : Position
deriving DecidableEq, Repr, Inhabited

def ParseError.text (e : ParseError) : String := e.cause.message ++ e.pos.suffix

end ModHost.Script
