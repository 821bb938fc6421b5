import ModHost.Script.Operator
import ModHost.Script.Syntax

set_option autoImplicit false

/-!
# Simplification

A program is simplified before it runs: operators on literals are computed when that
succeeds, constants with a literal value stand for that value, statements without an
effect or behind a jump go, and branches on a known condition are decided. What is left
raises the same faults at the same places; only constants captured by anonymous
functions become copies. Every pass over a block repeats until nothing changes.
-/

namespace ModHost.Script

/-- What is known while a block is simplified: the variables so far, innermost first,
with their values where those are known, and whether anything has changed. -/
structure Simplifier where
  vars : List (String × Option Value)
  changed : Bool

abbrev Simplify := StateM Simplifier

mutual

/-- Whether evaluation has no effect and cannot be missed. -/
def Expr.isPure : Expr → Bool
  | .const _ _ => true
  | .interpolated parts _ => Expr.allPure parts
  | .array items _ => Expr.allPure items
  | .map entries _ => Expr.entriesPure entries
  | .and l r _ | .or l r _ | .coalesce l r _ => l.isPure && r.isPure
  | .block stmts _ => Stmt.allPure stmts
  | _ => false

def Expr.allPure : List Expr → Bool
  | [] => true
  | e :: rest => e.isPure && Expr.allPure rest

def Expr.entriesPure : List (String × Expr) → Bool
  | [] => true
  | (_, e) :: rest => e.isPure && Expr.entriesPure rest

def Stmt.isPure : Stmt → Bool
  | .noop _ => true
  | .expr e => e.isPure
  | .block stmts _ => Stmt.allPure stmts
  | .branch c body _ alt _ => c.isPure && Stmt.allPure body && Stmt.allPure alt
  | .loop (some (.const (.bool false) _)) _ _ _ => true
  | .doLoop body (.const (.bool b) _) negated _ _ => b == negated && Stmt.allPure body
  | .forLoop _ _ e body _ _ => e.isPure && Stmt.allPure body
  | .switch e cases _ => e.isPure && Stmt.casesPure cases
  | .tryCatch body _ handler _ => Stmt.allPure body && Stmt.allPure handler
  | _ => false

def Stmt.allPure : List Stmt → Bool
  | [] => true
  | s :: rest => s.isPure && Stmt.allPure rest

def Stmt.casesPure : List SwitchCase → Bool
  | [] => true
  | .mk _ _ guard action :: rest =>
    (match guard with
      | some g => g.isPure
      | none => true) && action.isPure && Stmt.casesPure rest

end

namespace Stmt

/-- Pure but for the variables it defines, which end with the block. -/
def isInternallyPure : Stmt → Bool
  | .define _ e _ _ => e.isPure
  | .load e _ => e.isPure
  | s => s.isPure

def isJump : Stmt → Bool
  | .leave .. | .exitLoop .. => true
  | _ => false

/-- Whether the statement's meaning depends on the block around it. -/
def needsBlock : Stmt → Bool
  | .define .. | .load .. | .share .. => true
  | _ => false

def givesValue : Stmt → Bool
  | .branch .. | .switch .. | .block .. | .expr _ | .call _ => true
  | _ => false

end Stmt

namespace Simplify

def touch : Simplify Unit := modify fun s => { s with changed := true }

def known? (name : String) : Simplify (Option Value) := do
  match (← get).vars.find? (·.1 = name) with
  | some (_, v) => pure v
  | none => pure none

def literal (e : Expr) : Expr :=
  match e with
  | .const _ _ => e
  | e => match e.literal? with
    | some v => .const v e.startPos
    | none => e

def assignable (op : String) : Bool :=
  ["+", "-", "*", "/", "%", "**", "<<", ">>", "&", "|", "^"].contains op

def flatten : List Stmt → List Stmt × Bool
  | [] => ([], false)
  | s :: rest =>
    let (rest, changed) := flatten rest
    match s with
    | .block inner _ =>
      if inner.any Stmt.needsBlock then (s :: rest, changed) else (inner ++ rest, true)
    | s => (s :: rest, changed)

def reachable : List Stmt → List Stmt
  | [] => []
  | s :: rest => if s.isJump then [s] else s :: reachable rest

def dropPure (keepLast internal : Bool) (stmts : List Stmt) : List Stmt :=
  let pure_ (s : Stmt) : Bool := if internal then s.isInternallyPure else s.isPure
  let matters (s : Stmt) : Bool := match s with
    | .define _ e _ _ => !pure_ s || e.isConst
    | .expr e => !pure_ s || !e.isConst
    | s => !pure_ s
  let n := stmts.length
  let firstNeeded := match (stmts.reverse.findIdx? matters) with
    | some i => n - i - 1
    | none => 0
  (stmts.zipIdx.filter fun (s, i) =>
    (keepLast && i + 1 = n) || !((i ≥ firstNeeded && pure_ s) || s.isPure)).map (·.1)

def trimKept (internal dropReturn : Bool) : Nat → List Stmt → List Stmt
  | 0, stmts => stmts
  | fuel + 1, stmts =>
    let pure_ (s : Stmt) : Bool := if internal then s.isInternallyPure else s.isPure
    match stmts.reverse with
    | [] => []
    | [.leave none false _] => if dropReturn then [] else stmts
    | .leave none false p :: last :: before =>
      if dropReturn then
        if last.givesValue then (Stmt.noop p :: last :: before).reverse
        else trimKept internal dropReturn fuel (last :: before).reverse
      else stmts
    | .leave (some e) false _ :: before =>
      if dropReturn then trimKept internal dropReturn fuel (Stmt.expr e :: before).reverse
      else stmts
    | [s] => if !s.givesValue && pure_ s then [] else stmts
    | .noop p :: last :: before =>
      if last.givesValue then stmts
      else if pure_ (.noop p) then trimKept internal dropReturn fuel (last :: before).reverse
      else stmts
    | s :: last :: before =>
      if !s.givesValue && pure_ s then
        if last.givesValue then
          trimKept internal dropReturn fuel (Stmt.noop s.pos :: last :: before).reverse
        else trimKept internal dropReturn fuel (last :: before).reverse
      else stmts

def trimDropped (internal dropReturn : Bool) : Nat → List Stmt → List Stmt
  | 0, stmts => stmts
  | fuel + 1, stmts =>
    let pure_ (s : Stmt) : Bool := if internal then s.isInternallyPure else s.isPure
    match stmts.reverse with
    | [] => []
    | s :: before =>
      let returns := match s with
        | .leave none false _ => dropReturn
        | .leave (some e) false _ => dropReturn && e.isPure
        | _ => false
      if returns || pure_ s then trimDropped internal dropReturn fuel before.reverse
      else stmts

def ended (a b : List Stmt) : Bool :=
  match a.getLast?, b.getLast? with
  | some (.leave ..), some (.leave ..) => false
  | some (.leave ..), some _ => true
  | some (.noop _), _ => false
  | some _, some (.noop _) => true
  | _, _ => false

mutual

def expr (fuel : Nat) (e : Expr) : Simplify Expr :=
  match fuel with
  | 0 => pure e
  | fuel + 1 => do
    match e with
    | .const _ _ | .this _ => pure e
    | .var name _ p =>
      match ← known? name with
      | some v => touch; pure (.const v p)
      | none => pure e
    | .interpolated parts p => pure (.interpolated (← exprs fuel parts) p)
    | .array items p =>
      match e.literal? with
      | some v => touch; pure (.const v p)
      | none => pure (.array (← exprs fuel items) p)
    | .map entries p =>
      match e.literal? with
      | some v => touch; pure (.const v p)
      | none => pure (.map (← entries_ fuel entries) p)
    | .and l r p =>
      match l, r with
      | .const (.bool true) _, r => touch; expr fuel r
      | .const (.bool false) bp, _ => touch; pure (.const (.bool false) bp)
      | l, .const (.bool true) _ => touch; expr fuel l
      | l, r => pure (.and (← expr fuel l) (← expr fuel r) p)
    | .or l r p =>
      match l, r with
      | .const (.bool false) _, r => touch; expr fuel r
      | .const (.bool true) bp, _ => touch; pure (.const (.bool true) bp)
      | l, .const (.bool false) _ => touch; expr fuel l
      | l, r => pure (.or (← expr fuel l) (← expr fuel r) p)
    | .coalesce l r p =>
      match l with
      | .const .unit _ => touch; pure r
      | .const _ _ => touch; pure l
      | l => pure (.coalesce (← expr fuel l) (← expr fuel r) p)
    | .block [] p => touch; pure (.const .unit p)
    | .block [.expr inner] _ => touch; expr fuel inner
    | .block stmts p =>
      match ← block fuel stmts true true false with
      | [.expr inner] => touch; pure inner
      | [.call inner] => touch; pure inner
      | stmts => pure (.block stmts p)
    | .chain root links =>
      let root ← match root with
        | .var .. | .this _ => pure root
        | root => expr fuel root
      pure (.chain root (← links_ fuel links))
    | .inlineCall n args p => pure (.inlineCall n (← exprs fuel args) p)
    | .call n args isOperator p =>
      let computed? : Option Value := match n, args with
        | "type_of", [.const v _] => some (.str v.typeName)
        | "is_shared", [.const _ _] => some (.bool false)
        | op, [.const a _, .const b _] =>
          if isOperator then match Operator.binary op a b with
            | some (.ok v) => some v
            | _ => none
          else none
        | _, _ => none
      match computed? with
      | some v => touch; pure (.const v p)
      | none =>
        let args ← exprs fuel args
        pure (.call n (args.map literal) isOperator p)

def exprs (fuel : Nat) (es : List Expr) : Simplify (List Expr) :=
  match fuel with
  | 0 => pure es
  | fuel + 1 => match es with
    | [] => pure []
    | e :: rest => do pure ((← expr fuel e) :: (← exprs fuel rest))

def entries_ (fuel : Nat) (es : List (String × Expr)) : Simplify (List (String × Expr)) :=
  match fuel with
  | 0 => pure es
  | fuel + 1 => match es with
    | [] => pure []
    | (k, e) :: rest => do pure ((k, ← expr fuel e) :: (← entries_ fuel rest))

def links_ (fuel : Nat) (ls : List Link) : Simplify (List Link) :=
  match fuel with
  | 0 => pure ls
  | fuel + 1 => match ls with
    | [] => pure []
    | .index e optional p :: rest => do
      pure (.index (← expr fuel e) optional p :: (← links_ fuel rest))
    | .method n args optional d p :: rest => do
      let args ← exprs fuel args
      pure (.method n (args.map literal) optional d p :: (← links_ fuel rest))
    | l :: rest => do pure (l :: (← links_ fuel rest))

def optional (fuel : Nat) (e : Option Expr) : Simplify (Option Expr) :=
  match fuel with
  | 0 => pure e
  | fuel + 1 => match e with
    | none => pure none
    | some e => do pure (some (← expr fuel e))

def cases_ (fuel : Nat) (cs : List SwitchCase) : Simplify (List SwitchCase) :=
  match fuel with
  | 0 => pure cs
  | fuel + 1 => match cs with
    | [] => pure []
    | .mk literals isDefault guard action :: rest => do
      let guard ← optional fuel guard
      let action ← expr fuel action
      pure (.mk literals isDefault guard action :: (← cases_ fuel rest))

def stmt (fuel : Nat) (keep : Bool) (s : Stmt) : Simplify Stmt :=
  match fuel with
  | 0 => pure s
  | fuel + 1 => do
    match s with
    | .assign none (.var x isLocal xp) (.call op [.var y yl yp, rhs] true opPos) p =>
      if assignable op && x = y then
        touch
        pure (.assign (some op) (.var x isLocal xp) rhs opPos)
      else pure (.assign none (.var x isLocal xp)
        (← expr fuel (.call op [.var y yl yp, rhs] true opPos)) p)
    | .assign op lhs rhs p =>
      let lhs ← match lhs with
        | .var .. | .this _ => pure lhs
        | lhs => expr fuel lhs
      pure (.assign op lhs (← expr fuel rhs) p)
    | .branch c [] _ [] _ =>
      touch
      let cp := c.startPos
      let c ← expr fuel c
      if keep then pure (.block [.expr c, .noop cp] cp) else pure (.expr c)
    | .branch (.const (.bool false) cp) _ _ alt p =>
      touch
      match alt with
      | [] => pure (.noop cp)
      | alt =>
        match ← block fuel alt keep true false with
        | [] => pure (.noop p)
        | stmts => pure (.block stmts p)
    | .branch (.const (.bool true) _) body bp _ _ =>
      touch
      match ← block fuel body keep true false with
      | [] => pure (.noop bp)
      | stmts => pure (.block stmts bp)
    | .branch c body bp alt p =>
      let c ← expr fuel c
      let body ← block fuel body keep true false
      let alt ← block fuel alt keep true false
      pure (.branch c body bp alt p)
    | .switch e cases p => pure (.switch (← expr fuel e) (← cases_ fuel cases) p)
    | .loop (some (.const (.bool false) cp)) _ _ _ => touch; pure (.noop cp)
    | .loop c body bp p =>
      let c ← optional fuel c
      let c := match c with
        | some (.const (.bool true) _) => none
        | c => c
      pure (.loop c (← block fuel body false true false) bp p)
    | .doLoop body c negated bp p =>
      let c ← expr fuel c
      pure (.doLoop (← block fuel body false true false) c negated bp p)
    | .forLoop name counter e body bp p =>
      let e ← expr fuel e
      pure (.forLoop name counter e (← block fuel body false true false) bp p)
    | .define name e isConst p => pure (.define name (← expr fuel e) isConst p)
    | .load e p => pure (.load (← expr fuel e) p)
    | .block stmts p =>
      match ← block fuel stmts keep true false with
      | [] => touch; pure (.noop p)
      | [s] =>
        if s.needsBlock then pure (.block [s] p)
        else
          touch
          pure s
      | stmts => pure (.block stmts p)
    | .tryCatch body caught handler p =>
      if Stmt.allPure body then
        touch
        pure (.block (← block fuel body false true false) p)
      else
        let body ← block fuel body false true false
        pure (.tryCatch body caught (← block fuel handler false true false) p)
    | .expr (.block stmts p) =>
      touch
      match stmts with
      | [] => pure (.noop p)
      | stmts => pure (.block (← block fuel stmts true true false) p)
    | .expr (.call n args o p) => touch; pure (.call (.call n args o p))
    | .expr e => pure (.expr (← expr fuel e))
    | .call e =>
      match ← expr fuel e with
      | .call n args o p => pure (.call (.call n args o p))
      | .inlineCall n args p => pure (.call (.inlineCall n args p))
      | e => pure (.expr e)
    | .exitLoop v isBreak p => pure (.exitLoop (← optional fuel v) isBreak p)
    | .leave v isThrow p => pure (.leave (← optional fuel v) isThrow p)
    | .share names =>
      let vars := (← get).vars
      let kept := names.filter fun (n, _) =>
        match vars.find? (·.1 = n) with
        | some (_, some _) => false
        | _ => true
      if kept.length ≠ names.length then touch
      match kept with
      | [] => touch; pure (.noop s.pos)
      | kept => pure (.share kept)
    | .noop _ => pure s

def stmts (fuel : Nat) (keep : Bool) (ss : List Stmt) : Simplify (List Stmt) :=
  match fuel with
  | 0 => pure ss
  | fuel + 1 => match ss with
    | [] => pure []
    | .define name e isConst p :: rest => do
      let e ← expr fuel e
      let value := if isConst then e.literal? else none
      modify fun s => { s with vars := (name, value) :: s.vars }
      pure (.define name e isConst p :: (← stmts fuel keep rest))
    | s :: rest => do
      let s ← stmt fuel keep s
      pure (s :: (← stmts fuel keep rest))

/-- A block: `keep` when its value is wanted, `internal` when its variables end with
it, `dropReturn` when a last `return` only ends it. -/
def block (fuel : Nat) (ss : List Stmt) (keep internal dropReturn : Bool) :
    Simplify (List Stmt) :=
  match fuel with
  | 0 => pure ss
  | fuel + 1 => do
    if ss.isEmpty then pure ss
    else
      let before := (← get).changed
      let (ss, opened) := flatten ss
      let (ss, changed) ← passes fuel ss keep internal dropReturn
      modify fun s => { s with changed := before || opened || changed }
      pure ss

def passes (fuel : Nat) (ss : List Stmt) (keep internal dropReturn : Bool) :
    Simplify (List Stmt × Bool) :=
  match fuel with
  | 0 => pure (ss, false)
  | fuel + 1 => do
    let outer := (← get).vars
    set (⟨outer, false⟩ : Simplifier)
    let live := reachable ss
    let rewritten ← stmts fuel keep live
    let dropped := dropPure keep internal rewritten
    let trimmed :=
      if keep then trimKept internal dropReturn (dropped.length + 4) dropped
      else trimDropped internal dropReturn (dropped.length + 4) dropped
    let changed := (← get).changed || live.length ≠ ss.length
      || dropped.length ≠ rewritten.length || trimmed.length ≠ dropped.length
      || ended dropped trimmed
    set (⟨outer, false⟩ : Simplifier)
    if changed then
      let (ss, _) ← passes fuel trimmed keep internal dropReturn
      pure (ss, true)
    else pure (trimmed, false)

end

end Simplify

namespace Program

/-- Enough rounds for any script: each lowers the fuel by one a nesting level. -/
def simplifyFuel : Nat := 100000

def simplifyBody (body : List Stmt) : List Stmt :=
  ((Simplify.block simplifyFuel body true false true).run ⟨[], false⟩).1

/-- The program as it runs. Anonymous functions keep their bodies as written. -/
def simplify (p : Program) : Program :=
  { p with
    body := simplifyBody p.body
    functions := p.functions.map fun f => { f with body := simplifyBody f.body } }

end Program

end ModHost.Script
