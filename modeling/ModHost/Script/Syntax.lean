import ModHost.Script.Position
import ModHost.Script.Value

set_option autoImplicit false

/-!
# Syntax trees

A chain `root.a[i].f(x)` is its root and the list of its links, in order. A block
keeps the places of its braces. An anonymous function is a value: its body stands in
the program's table of closures, under its name.
-/

namespace ModHost.Script

mutual

inductive Expr where
  | const (v : Value) (pos : Position)
  | var (name : String) (isLocal : Bool) (pos : Position)
  | this (pos : Position)
  | interpolated (parts : List Expr) (pos : Position)
  | array (items : List Expr) (pos : Position)
  | map (entries : List (String × Expr)) (pos : Position)
  | call (name : String) (args : List Expr) (isOperator : Bool) (pos : Position)
  /-- `f!(…)`: the function runs in the caller's own variables. -/
  | inlineCall (name : String) (args : List Expr) (pos : Position)
  | and (lhs rhs : Expr) (pos : Position)
  | or (lhs rhs : Expr) (pos : Position)
  | coalesce (lhs rhs : Expr) (pos : Position)
  | chain (root : Expr) (links : List Link)
  | block (stmts : List Stmt) (pos : Position)

inductive Link where
  | index (e : Expr) (optional : Bool) (pos : Position)
  | property (name : String) (optional : Bool) (dot pos : Position)
  | method (name : String) (args : List Expr) (optional : Bool) (dot pos : Position)

inductive Stmt where
  | noop (pos : Position)
  | expr (e : Expr)
  | call (e : Expr)
  | block (stmts : List Stmt) (pos : Position)
  | assign (operator : Option String) (lhs rhs : Expr) (pos : Position)
  | define (name : String) (value : Expr) (isConst : Bool) (pos : Position)
  | branch (cond : Expr) (body : List Stmt) (bodyPos : Position) (alternative : List Stmt)
      (pos : Position)
  | switch (subject : Expr) (cases : List SwitchCase) (pos : Position)
  | loop (cond : Option Expr) (body : List Stmt) (bodyPos pos : Position)
  | doLoop (body : List Stmt) (cond : Expr) (negated : Bool) (bodyPos pos : Position)
  | forLoop (name counter : String) (subject : Expr) (body : List Stmt) (bodyPos pos : Position)
  | exitLoop (value : Option Expr) (isBreak : Bool) (pos : Position)
  | leave (value : Option Expr) (isThrow : Bool) (pos : Position)
  | tryCatch (body : List Stmt) (caught : Option String) (handler : List Stmt) (pos : Position)
  /-- Turn the named variables into shared ones. -/
  | share (names : List (String × Position))
  | load (path : Expr) (pos : Position)

/-- One arm: the literals it matches (none for the default arm), its guard, its action. -/
inductive SwitchCase where
  | mk (literals : List Value) (isDefault : Bool) (guard : Option Expr) (action : Expr)

end

instance : Inhabited Expr := ⟨.const .unit .unknown⟩
instance : Inhabited Stmt := ⟨.noop .unknown⟩

structure FnDef where
  name : String
  params : List String
  body : List Stmt

structure Program where
  body : List Stmt
  functions : List FnDef
  closures : List FnDef

namespace Program

def empty : Program := ⟨[], [], []⟩

def function? (p : Program) (name : String) (arity : Nat) : Option FnDef :=
  p.functions.find? fun f => f.name = name && f.params.length = arity

def closure? (p : Program) (name : String) : Option FnDef :=
  p.closures.find? fun f => f.name = name

end Program

namespace Link

def pos : Link → Position
  | index _ _ p => p
  | property _ _ _ p => p
  | method _ _ _ _ p => p

def opens : Link → Position
  | index _ _ p => p
  | property _ _ d _ => d
  | method _ _ _ d _ => d

end Link

namespace Expr

/-- Place that stands for the expression in messages: an operator's own place, and the
first link's opening for a chain. -/
def pos : Expr → Position
  | const _ p | var _ _ p | this p | interpolated _ p | array _ p | map _ p => p
  | call _ _ _ p | inlineCall _ _ p | and _ _ p | or _ _ p | coalesce _ _ p | block _ p => p
  | chain root links => match links with
    | [] => root.pos
    | l :: _ => l.opens

def startPos : Expr → Position
  | and l _ _ | or l _ _ | coalesce l _ _ => l.startPos
  | chain root _ => root.startPos
  | const _ p | var _ _ p | this p | interpolated _ p | array _ p | map _ p => p
  | call _ _ _ p | inlineCall _ _ p | block _ p => p

def isConst : Expr → Bool
  | const _ _ => true
  | _ => false

mutual

def literal? : Expr → Option Value
  | const v _ => some v
  | array items _ => (literals? items).map .array
  | map entries _ => (literalEntries? entries).map fun es => .map (Value.ofEntries es)
  | call ".." [const (.int a) _, const (.int b) _] _ _ => some (.range a b false)
  | call "..=" [const (.int a) _, const (.int b) _] _ _ => some (.range a b true)
  | _ => none

def literals? : List Expr → Option (List Value)
  | [] => some []
  | e :: rest => match literal? e, literals? rest with
    | some v, some vs => some (v :: vs)
    | _, _ => none

def literalEntries? : List (String × Expr) → Option (List (String × Value))
  | [] => some []
  | (k, e) :: rest => match literal? e, literalEntries? rest with
    | some v, some vs => some ((k, v) :: vs)
    | _, _ => none

end

end Expr

namespace Stmt

def pos : Stmt → Position
  | noop p => p
  | expr e => e.startPos
  | call e => e.pos
  | block _ p | assign _ _ _ p | define _ _ _ p => p
  | branch _ _ _ _ p | switch _ _ p | loop _ _ _ p => p
  | doLoop _ _ _ _ p | forLoop _ _ _ _ _ p => p
  | exitLoop _ _ p | leave _ _ p | tryCatch _ _ _ p | load _ p => p
  | share names => match names with
    | [] => .unknown
    | (_, p) :: _ => p

def isSelfTerminated : Stmt → Bool
  | branch .. | switch .. | loop .. | forLoop .. | block .. | tryCatch .. => true
  | _ => false

def isNoop : Stmt → Bool
  | noop _ => true
  | _ => false

def ofExpr : Expr → Stmt
  | .block stmts p => .block stmts p
  | .call n a o p => .call (.call n a o p)
  | .inlineCall n a p => .call (.inlineCall n a p)
  | e => .expr e

end Stmt

end ModHost.Script
