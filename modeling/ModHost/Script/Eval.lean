import ModHost.Script.HostFunctions
import ModHost.Script.Part

set_option autoImplicit false

/-!
# Evaluation

Expressions, statements and calls, by recursion on fuel. Every function that may reach
another takes one unit of fuel, so a run that is given enough ends by itself or by what
it may spend; `Signal.exhausted` marks a run that was not given enough.

A call answers a value, and the new state of its first argument if the callee changed
it. A chain of links is walked from its root inward and its changes are carried back
outward, part by part.
-/

namespace ModHost.Script

open Run

structure Root where
  name : String
  pos : Position

structure Assignment where
  operator : Option String
  value : Value
  pos : Position

/-- What walking a chain leaves: its result, and the walked value if it has changed. -/
structure Visit where
  result : Value
  changed : Option Value

structure Found where
  value : Value
  isConst : Bool
  place : Option Nat

def maxCallLevel : Nat := 64

/-- A variable by name: one in scope, a name of the surroundings, which is constant, or, for
a name that the parser did not find in scope, the function of that name. -/
def lookupVariable (name : String) (isLocal : Bool) (pos : Position) : Run Found := do
  match ← variableNamed? name with
  | some (i, v, isConst) => pure ⟨v, isConst, some i⟩
  | none =>
    let env ← read
    match env.outer name with
    | some v => do pure ⟨← flat v, true, none⟩
    | none =>
      if !isLocal && env.program.functions.any (·.name = name) then
        pure ⟨.fn name [], false, none⟩
      else fault (.variableNotFound name) pos

def isOuter (e : Expr) : Run Bool := do
  match e with
  | .var name _ _ => pure (← variableNamed? name).isNone
  | _ => pure false

def wantFunction (v : Value) (pos : Position) : Run (String × List Value) :=
  match v with
  | .fn name given => pure (name, given)
  | v => fault (.mismatch "Fn" v.typeName) pos

def wantBoolean (v : Value) (pos : Position) : Run Bool :=
  match v with
  | .bool b => pure b
  | v => fault (.mismatch "bool" v.nativeTypeName) pos

def wantString (v : Value) (pos : Position) : Run String :=
  match v with
  | .str s => pure s
  | v => fault (.mismatch "string" v.nativeTypeName) pos

def hasFunction (name : String) (arity : Nat) : Run Bool := do
  let p := (← read).program
  pure ((p.function? name arity).isSome
    || (p.closure? name).any (·.params.length = arity))

def readProperty (v : Value) (name : String) (pos dot : Position) : Run Value := do
  tick pos
  let env ← read
  match v with
  | .player slot =>
    if !env.facilities.proxyApi then unknown v pos
    else if (Field.ofName? name).isSome then readPlayer slot name pos
    else
      tick dot
      readPlayer slot name dot
  | v =>
    match env.libraries.findSome? (·.property? name v) with
    | some r => pure r
    | none =>
      tick dot
      unknown v pos
where
  unknown (v : Value) (pos : Position) : Run Value :=
    fault (.noProperty (s!"Unknown property '{name}' - a getter is not registered for type"
      ++ s!" '{v.typeName}'")) pos

def writeProperty (v : Value) (isConst : Bool) (name : String) (x : Value)
    (pos dot : Position) : Run Unit := do
  tick pos
  let proxyApi := (← read).facilities.proxyApi
  match v with
  | .player slot =>
    if !proxyApi then unknown v
    else if (Field.ofName? name).any (·.writable) then
      if isConst then fault (.constantProperty name) pos
      else writePlayer slot name x pos
    else
      tick dot
      if isConst then fault .constantIndexer dot
      else writePlayer slot name x dot
  | v =>
    tick dot
    unknown v
where
  unknown (v : Value) : Run Unit :=
    fault (.noProperty (s!"No writable property '{name}' - a setter is not registered for"
      ++ s!" type '{v.typeName}' to handle '{x.typeName}'")) pos

def readIndex (v index : Value) (pos : Position) : Run Value := do
  tick pos
  match v, index with
  | .player slot, .str name =>
    if (← read).facilities.proxyApi then readPlayer slot name pos else unknown
  | _, _ => unknown
where
  unknown : Run Value := fault (.noIndexer s!"{v.typeName} [{index.typeName}]") pos

def writeIndex (v : Value) (isConst : Bool) (index x : Value) (pos : Position) :
    Run Unit := do
  tick pos
  match v, index with
  | .player slot, .str name =>
    if !(← read).facilities.proxyApi then unknown
    else if isConst then fault .constantIndexer pos
    else writePlayer slot name x pos
  | _, _ => unknown
where
  unknown : Run Unit :=
    fault (.noIndexer s!"{v.typeName} [{index.typeName}] = {x.typeName}") pos

def runNative (n : Native) (name : String) (isConst : Bool) (pos : Position) :
    Run (Value × Option Value) := do
  match n with
  | .answer r => pure (← ofExcept pos r, none)
  | .update r =>
    if isConst then fault (.constantMethod name) pos
    else
      let (result, target) ← ofExcept pos r
      pure (result, some target)
  | .fail e => throw (.fault (e.fillPos pos))

def literalMatches (subject literal : Value) : Bool :=
  match literal with
  | .range _ _ _ => false
  | literal => Operator.sameType subject literal && (Value.equal? subject literal).getD false

def rangeMatches (subject literal : Value) : Bool :=
  match literal, subject with
  | .range a b inclusive, .int n => a ≤ n && (if inclusive then n ≤ b else n < b)
  | .range a b inclusive, .float x =>
    a.toFloat ≤ x && (if inclusive then x ≤ b.toFloat else x < b.toFloat)
  | _, _ => false

/-- Arms to try, in order: those with the very literal, or else those with a range. -/
def candidates (subject : Value) (cases : List SwitchCase) : List SwitchCase :=
  let exact := cases.filter fun c => match c with
    | .mk literals _ _ _ => literals.any (literalMatches subject)
  if exact.isEmpty then
    cases.filter fun c => match c with
      | .mk literals _ _ _ => literals.any (rangeMatches subject)
  else exact

def defaultArm? (cases : List SwitchCase) : Option Expr :=
  cases.findSome? fun c => match c with
    | .mk _ isDefault _ action => if isDefault then some action else none

inductive Iteration where
  | items (xs : List Value)
  | integers (count : Nat) (first : Int)

def iteration? (libraries : List Library) : Value → Option Iteration
  | .range a b inclusive =>
    if libraries.contains .core then
      some (.integers ((b.toInt - a.toInt + (if inclusive then 1 else 0)).toNat) a.toInt)
    else none
  | .array xs => if libraries.contains .sequence then some (.items xs) else none
  | v =>
    if libraries.contains .core then (Core.items? v).map .items else none

def isItemOperation (name : String) (more : List Value) : Bool :=
  match more with
  | [] => ["map", "filter", "some", "all", "find", "find_map", "for_each", "retain", "drain",
      "index_of", "reduce", "reduce_rev", "sort"].contains name
  | [.int _] => ["find", "find_map", "index_of", "reduce", "reduce_rev"].contains name
  | [_] => ["reduce", "reduce_rev"].contains name
  | _ => false

def isEntryOperation (name : String) : Bool := ["filter", "drain", "retain"].contains name

def isTrue : Value → Bool
  | .bool b => b
  | _ => false

def isUnit : Value → Bool
  | .unit => true
  | _ => false

def opposite (v : Value) : Value := .bool (!isTrue v)

def chosen {α : Type} (items : List α) (answers : List Value) : List α :=
  ((items.zip answers).filter fun (_, r) => isTrue r).map (·.1)

def searchStart (length : Nat) : List Value → Nat
  | [.int start] => (partOf length start.toInt 0).1
  | _ => 0

mutual

/-- The value of an expression; a captured variable stays a reference. -/
def evalRaw (fuel : Nat) (e : Expr) : Run Value :=
  match fuel with
  | 0 => throw .exhausted
  | fuel + 1 => do
    tick e.pos
    match e with
    | .const v _ => pure v
    | .var name isLocal p => do pure (← lookupVariable name isLocal p).value
    | .this p =>
      match (← get).this with
      | some v => pure v
      | none => fault .unboundThis p
    | .interpolated parts _ =>
      let values ← evalItems fuel parts
      pure (.str (String.join (values.map Value.printed)))
    | .array items _ => do pure (.array (← evalItems fuel items))
    | .map entries _ => do pure (.map (Value.ofEntries (← evalEntries fuel entries)))
    | .and l r _ =>
      if ← wantBoolean (← evalExpr fuel l) l.pos then
        pure (.bool (← wantBoolean (← evalExpr fuel r) r.pos))
      else pure (.bool false)
    | .or l r _ =>
      if ← wantBoolean (← evalExpr fuel l) l.pos then pure (.bool true)
      else pure (.bool (← wantBoolean (← evalExpr fuel r) r.pos))
    | .coalesce l r _ =>
      match ← evalExpr fuel l with
      | .unit => evalExpr fuel r
      | v => pure v
    | .block stmts _ => evalBlock fuel stmts
    | .call name args true p => evalOperator fuel name args p
    | .call name args false p => evalCall fuel name args p
    | .inlineCall name args p => evalCall fuel name args p
    | .chain root links => evalChain fuel root links none

def evalExpr (fuel : Nat) (e : Expr) : Run Value :=
  match fuel with
  | 0 => throw .exhausted
  | fuel + 1 => do flat (← evalRaw fuel e)

/-- The value of an argument; a literal counts as one operation. -/
def evalArg (fuel : Nat) (e : Expr) : Run Value :=
  match fuel with
  | 0 => throw .exhausted
  | fuel + 1 =>
    match e.literal? with
    | some v => do
      tick e.startPos
      pure v
    | none => evalExpr fuel e

def evalItems (fuel : Nat) (es : List Expr) : Run (List Value) :=
  match fuel with
  | 0 => throw .exhausted
  | fuel + 1 => match es with
    | [] => pure []
    | e :: rest => do
      let v ← evalExpr fuel e
      pure (v :: (← evalItems fuel rest))

def evalEntries (fuel : Nat) (es : List (String × Expr)) : Run (List (String × Value)) :=
  match fuel with
  | 0 => throw .exhausted
  | fuel + 1 => match es with
    | [] => pure []
    | (k, e) :: rest => do
      let v ← evalExpr fuel e
      pure ((k, v) :: (← evalEntries fuel rest))

def evalArgs (fuel : Nat) (es : List Expr) : Run (List Value) :=
  match fuel with
  | 0 => throw .exhausted
  | fuel + 1 => match es with
    | [] => pure []
    | e :: rest => do
      let v ← evalArg fuel e
      pure (v :: (← evalArgs fuel rest))

def evalKept (fuel : Nat) (es : List Expr) : Run (List Value) :=
  match fuel with
  | 0 => throw .exhausted
  | fuel + 1 => match es with
    | [] => pure []
    | e :: rest => do
      let v ← match e.literal? with
        | some v => do
          tick e.startPos
          pure v
        | none => evalRaw fuel e
      pure (v :: (← evalKept fuel rest))

/-- An operator: the built-in one for these types, or else a function of its name. -/
def evalOperator (fuel : Nat) (name : String) (args : List Expr) (pos : Position) :
    Run Value :=
  match fuel with
  | 0 => throw .exhausted
  | fuel + 1 => do
    match args with
    | [a] =>
      match name, ← evalArg fuel a with
      | "!", .bool b => pure (.bool !b)
      | _, v => do pure (← callNamed fuel name [v] false pos).1
    | [a, b] =>
      let outer ← isOuter a
      let x ← evalArg fuel a
      let y ← evalArg fuel b
      match Operator.binary name x y with
      | some r => ofExcept pos r
      | none => do pure (← callNamed fuel name [x, y] outer pos).1
    | args => do pure (← callNamed fuel name (← evalArgs fuel args) false pos).1

/-- A call by name. A first argument that is a plain variable may be changed in place. -/
def evalCall (fuel : Nat) (name : String) (args : List Expr) (pos : Position) : Run Value :=
  match fuel with
  | 0 => throw .exhausted
  | fuel + 1 => do
    match name, args with
    | "call", f :: rest =>
      let (n, given) ← wantFunction (← evalArg fuel f) f.startPos
      let values ← evalArgs fuel rest
      do pure (← callPointer fuel n given values none pos).1
    | "Fn", [a] =>
      let s ← wantString (← evalArg fuel a) a.startPos
      ofExcept a.startPos (functionPointer s)
    | "curry", f :: more :: rest =>
      let (n, given) ← wantFunction (← evalArg fuel f) f.startPos
      let values ← evalKept fuel (more :: rest)
      pure (.fn n (given ++ values))
    | "is_shared", [a] =>
      match ← evalRaw fuel a with
      | .shared _ => pure (.bool true)
      | _ => pure (.bool false)
    | "is_def_fn", [a, b] =>
      let s ← wantString (← evalArg fuel a) a.startPos
      match ← evalArg fuel b with
      | .int n => do
        pure (.bool (n ≥ 0 && ((← read).program.function? s n.toInt.toNat).isSome))
      | v => fault (.mismatch "i64" v.nativeTypeName) b.startPos
    | "is_def_var", [a] =>
      let s ← wantString (← evalArg fuel a) a.startPos
      do pure (.bool (← variableNamed? s).isSome)
    | name, .var v isLocal p :: rest =>
      tick p
      let values ← evalArgs fuel rest
      let found ← lookupVariable v isLocal p
      match found.value, found.place with
      | .shared c, _ => do
        pure (← callNamed fuel name ((← cellAt c).value :: values) false pos).1
      | value, none => do pure (← callNamed fuel name (value :: values) found.isConst pos).1
      | value, some i =>
        let (r, changed) ← callNamed fuel name (value :: values) false pos
        if !found.isConst then
          match changed with
          | some target => setVariable i target
          | none => pure ()
        pure r
    | name, args =>
      let values ← evalArgs fuel args
      do pure (← callNamed fuel name values false pos).1

def callNamed (fuel : Nat) (name : String) (args : List Value) (isConst : Bool)
    (pos : Position) : Run (Value × Option Value) :=
  match fuel with
  | 0 => throw .exhausted
  | fuel + 1 => do
    match name, args with
    | "type_of", [v] => pure (.str v.typeName, none)
    | name, args =>
      let env ← read
      match env.program.function? name args.length with
      | some f =>
        if f.body.isEmpty then pure (.unit, none)
        else do pure ((← callScript fuel f none args env.source pos).1, none)
      | none => callNative fuel name args isConst pos

/-- Call a native function. Those of exactly these types come before those of any. -/
def callNative (fuel : Nat) (name : String) (args : List Value) (isConst : Bool)
    (pos : Position) : Run (Value × Option Value) :=
  match fuel with
  | 0 => throw .exhausted
  | fuel + 1 => do
    tick pos
    let env ← read
    let libraries := env.libraries
    let bound? := if args.isEmpty then env.bindings.find? name 0 else none
    match bound? with
    | some b =>
      match b.call [] with
      | .ok v => pure (v, none)
      | .error message => fault (.thrown (.str message)) pos
    | none =>
    match hostFunction? env name args pos with
    | some f =>
      if f.byReference && isConst then fault (.constantMethod name) pos
      else do pure (← placed pos f.run, none)
    | none =>
    let items? := match args with
      | .array xs :: .fn f given :: more =>
        if libraries.contains .sequence && isItemOperation name more then
          some (callForItems fuel name xs f given more isConst pos)
        else none
      | [.map es, .fn f given] =>
        if libraries.contains .mapping && isEntryOperation name then
          some (callForEntries fuel name es f given isConst pos)
        else none
      | _ => none
    match items? with
    | some answer => answer
    | none =>
    match libraries.findSome? (·.native? name args) with
    | some n => runNative n name isConst pos
    | none =>
    match (libraries.filter (· ≠ .core)).findSome? (·.anyNative? name args) with
    | some n => runNative n name isConst pos
    | none =>
    match anyHostFunction? env name args pos with
    | some f => do pure (← placed pos f.run, none)
    | none =>
    match (libraries.filter (· = .core)).findSome? (·.anyNative? name args) with
    | some n => runNative n name isConst pos
    | none => fault (.functionNotFound (signature name args)) pos

/-- Run a function of the script with its own variables. The second result is what
`this` holds in the end. -/
def callScript (fuel : Nat) (f : FnDef) (this : Option Value) (args : List Value)
    (source : Option String) (pos : Position) : Run (Value × Option Value) :=
  match fuel with
  | 0 => throw .exhausted
  | fuel + 1 => do
    tick pos
    let caller ← get
    if caller.level > maxCallLevel then fault .stackOverflow pos
    else
      let params := (f.params.zip args).map fun (n, v) => (⟨n, v, false⟩ : Variable)
      modify fun m =>
        { m with vars := params.reverse, this := this, level := m.level + 1, source := source }
      let result ← attempt (evalStmts fuel f.body)
      let this' := (← get).this
      modify fun m =>
        { m with
          vars := caller.vars, this := caller.this, level := caller.level
          source := caller.source }
      match result with
      | .ok v => pure (v, this')
      | .error (.returned v) => pure (v, this')
      | .error (.fault e) =>
        match e with
        | .raised (.exited _) _ => throw (.fault e)
        | e =>
          if e.isSystem then throw (.fault (e.setPos pos))
          else throw (.fault (.inFunction f.name (source.getD "") e pos))
      | .error s => throw s

def callPointer (fuel : Nat) (name : String) (given args : List Value)
    (this : Option Value) (pos : Position) : Run (Value × Option Value) :=
  match fuel with
  | 0 => throw .exhausted
  | fuel + 1 => do
    let env ← read
    let all := given ++ args
    match env.program.closure? name with
    | some f =>
      if f.params.length = all.length then
        callScript fuel f this all (← get).source pos
      else do fault (.functionNotFound (signature name (← all.mapM flat))) pos
    | none =>
      match this with
      | some target =>
        match env.program.function? name all.length with
        | some f =>
          if f.body.isEmpty then pure (.unit, some target)
          else callScript fuel f this all env.source pos
        | none => do callNative fuel name (target :: (← all.mapM flat)) false pos
      | none =>
        match env.program.function? name all.length with
        | some f =>
          if f.body.isEmpty then pure (.unit, none)
          else callScript fuel f none all env.source pos
        | none => do callNamed fuel name (← all.mapM flat) false pos

/-- Call a function for an item of an array: with the item, with the item and its place,
or without arguments on the item, which it may change then. Answers also the item. -/
def callOnItem (fuel : Nat) (operation f : String) (given before : List Value)
    (item : Value) (i : Nat) (pos : Position) : Run (Value × Value) :=
  match fuel with
  | 0 => throw .exhausted
  | fuel + 1 => do
    let n := given.length + before.length
    let place := Value.int (Int64.ofNat i)
    let call : Run (Value × Option Value) ← do
      if ← hasFunction f (n + 1) then
        pure (callPointer fuel f given (before ++ [item]) none pos)
      else if ← hasFunction f n then pure (callPointer fuel f given before (some item) pos)
      else if ← hasFunction f (n + 2) then
        pure (callPointer fuel f given (before ++ [item, place]) none pos)
      else pure (callPointer fuel f given (before ++ [item]) none pos)
    match ← attempt call with
    | .ok (v, changed) => do pure (← flat v, changed.getD item)
    | .error (.fault e) =>
      throw (.fault (.inFunction operation ((← get).source.getD "") e pos))
    | .error s => throw s

def callForItem (fuel : Nat) (operation f : String) (given before : List Value)
    (item : Value) (i : Nat) (pos : Position) : Run Value :=
  match fuel with
  | 0 => throw .exhausted
  | fuel + 1 => do pure (← callOnItem fuel operation f given before item i pos).1

def changeEach (fuel : Nat) (f : String) (given items : List Value) (i : Nat)
    (pos : Position) : Run (List Value) :=
  match fuel with
  | 0 => throw .exhausted
  | fuel + 1 => match items with
    | [] => pure []
    | x :: rest => do
      let (_, x) ← callOnItem fuel "map" f given [] x i pos
      pure (x :: (← changeEach fuel f given rest (i + 1) pos))

def callForEach (fuel : Nat) (operation f : String) (given : List Value)
    (items : List (List Value × Value)) (i : Nat) (pos : Position) : Run (List Value) :=
  match fuel with
  | 0 => throw .exhausted
  | fuel + 1 => match items with
    | [] => pure []
    | (before, x) :: rest => do
      let r ← callForItem fuel operation f given before x i pos
      pure (r :: (← callForEach fuel operation f given rest (i + 1) pos))

def firstAnswer (fuel : Nat) (operation f : String) (given : List Value)
    (wanted : Value → Bool) (items : List Value) (i : Nat) (pos : Position) :
    Run (Option (Nat × Value × Value)) :=
  match fuel with
  | 0 => throw .exhausted
  | fuel + 1 => match items with
    | [] => pure none
    | x :: rest => do
      let r ← callForItem fuel operation f given [] x i pos
      if wanted r then pure (some (i, x, r))
      else firstAnswer fuel operation f given wanted rest (i + 1) pos

def reduceItems (fuel : Nat) (operation f : String) (given : List Value) (acc : Value)
    (items : List (Value × Nat)) (pos : Position) : Run Value :=
  match fuel with
  | 0 => throw .exhausted
  | fuel + 1 => match items with
    | [] => pure acc
    | (x, i) :: rest => do
      let acc ← callForItem fuel operation f given [acc] x i pos
      reduceItems fuel operation f given acc rest pos

/-- Put an item in its place among sorted ones; a comparison that fails counts as equal. -/
def insertSorted (fuel : Nat) (f : String) (given : List Value) (x : Value)
    (sorted : List Value) (pos : Position) : Run (List Value) :=
  match fuel with
  | 0 => throw .exhausted
  | fuel + 1 => match sorted with
    | [] => pure [x]
    | y :: rest => do
      let less ← match ← attempt (callPointer fuel f given [x, y] none pos) with
        | .ok (.int n, _) => pure (decide (n < 0))
        | .ok (.bool b, _) => pure b
        | .ok _ => pure false
        | .error (.fault _) => pure false
        | .error s => throw s
      if less then do pure (y :: (← insertSorted fuel f given x rest pos))
      else pure (x :: y :: rest)

/-- Sort the items, of which the given ones are already sorted from last to first. -/
def sortItems (fuel : Nat) (f : String) (given : List Value) (sorted items : List Value)
    (pos : Position) : Run (List Value) :=
  match fuel with
  | 0 => throw .exhausted
  | fuel + 1 => match items with
    | [] => pure sorted
    | x :: rest => do
      let sorted ← insertSorted fuel f given x sorted pos
      sortItems fuel f given sorted rest pos

def callForItems (fuel : Nat) (name : String) (xs : List Value) (f : String)
    (given more : List Value) (isConst : Bool) (pos : Position) :
    Run (Value × Option Value) :=
  match fuel with
  | 0 => throw .exhausted
  | fuel + 1 => do
    let each := xs.map fun x => ([], x)
    let place := searchStart xs.length
    match name, more with
    | "map", [] => do pure (.array (← callForEach fuel name f given each 0 pos), none)
    | "filter", [] =>
      let rs ← callForEach fuel name f given each 0 pos
      pure (.array (chosen xs rs), none)
    | "for_each", [] =>
      if isConst then fault (.constantMethod name) pos
      else do pure (.unit, some (.array (← changeEach fuel f given xs 0 pos)))
    | "some", [] => do
      pure (.bool (← firstAnswer fuel name f given isTrue xs 0 pos).isSome, none)
    | "all", [] => do
      pure (.bool (← firstAnswer fuel name f given (!isTrue ·) xs 0 pos).isNone, none)
    | "find", more =>
      match ← firstAnswer fuel "index_of" f given isTrue (xs.drop (place more))
          (place more) pos with
      | some (_, x, _) => pure (x, none)
      | none => pure (.unit, none)
    | "find_map", more =>
      match ← firstAnswer fuel name f given (!isUnit ·) (xs.drop (place more))
          (place more) pos with
      | some (_, _, r) => pure (r, none)
      | none => pure (.unit, none)
    | "index_of", more =>
      match ← firstAnswer fuel name f given isTrue (xs.drop (place more))
          (place more) pos with
      | some (i, _, _) => pure (.int (Int64.ofNat i), none)
      | none => pure (.int (-1), none)
    | "retain", [] | "drain", [] =>
      if isConst then fault (.constantMethod name) pos
      else
        let rs ← callForEach fuel name f given each 0 pos
        if name = "retain" then
          pure (.array (chosen xs (rs.map opposite)), some (.array (chosen xs rs)))
        else pure (.array (chosen xs rs), some (.array (chosen xs (rs.map opposite))))
    | "reduce", [] => do pure (← reduceItems fuel name f given .unit xs.zipIdx pos, none)
    | "reduce", [start] => do pure (← reduceItems fuel name f given start xs.zipIdx pos, none)
    | "reduce_rev", [] => do
      pure (← reduceItems fuel name f given .unit xs.zipIdx.reverse pos, none)
    | "reduce_rev", [start] => do
      pure (← reduceItems fuel name f given start xs.zipIdx.reverse pos, none)
    | "sort", [] =>
      if isConst then fault (.constantMethod name) pos
      else
        let sorted ← sortItems fuel f given [] xs pos
        pure (.unit, some (.array sorted.reverse))
    | name, more =>
      fault (.functionNotFound (signature name (.array xs :: .fn f given :: more))) pos

def callForEntries (fuel : Nat) (name : String) (es : List (String × Value)) (f : String)
    (given : List Value) (isConst : Bool) (pos : Position) : Run (Value × Option Value) :=
  match fuel with
  | 0 => throw .exhausted
  | fuel + 1 => do
    if isConst && name ≠ "filter" then fault (.constantMethod name) pos
    else
      let rs ← callForEach fuel name f given (es.map fun (k, v) => ([.str k], v)) 0 pos
      let wanted := Value.map (chosen es rs)
      let others := Value.map (chosen es (rs.map opposite))
      match name with
      | "filter" => pure (wanted, none)
      | "drain" => pure (wanted, some others)
      | _ => pure (others, some wanted)

def callMethod (fuel : Nat) (v : Value) (isConst : Bool) (name : String)
    (args : List Value) (pos : Position) : Run (Value × Option Value) :=
  match fuel with
  | 0 => throw .exhausted
  | fuel + 1 => do
    match name, v, args with
    | "call", .fn f given, args => do
      pure ((← callPointer fuel f given args none pos).1, none)
    | "call", v, [] => fault (.mismatch "Fn" v.typeName) pos
    | "call", v, f :: rest =>
      let (f, given) ← wantFunction f pos
      callPointer fuel f given rest (some v) pos
    | "curry", .fn f given, args => pure (.fn f (given ++ args), none)
    | "curry", v, _ => fault (.mismatch "Fn" v.typeName) pos
    | "type_of", v, [] => pure (.str v.typeName, none)
    | "is_shared", _, [] => pure (.bool false, none)
    | name, v, args =>
      let env ← read
      let stored? : Option (String × List Value) := match v with
        | .map es => match Value.lookup name es with
          | some (.fn f given) => some (f, given)
          | _ => none
        | _ => none
      match stored? with
      | some (f, given) => callPointer fuel f given args (some v) pos
      | none =>
        match env.program.function? name args.length with
        | some f =>
          if f.body.isEmpty then pure (.unit, none)
          else callScript fuel f (some v) args env.source pos
        | none => callNative fuel name (v :: args) isConst pos

def assigned (fuel : Nat) (old : Value) (a : Assignment) : Run Value :=
  match fuel with
  | 0 => throw .exhausted
  | fuel + 1 => do
    match a.operator with
    | none => pure a.value
    | some op =>
      match op, old, a.value with
      | "+", .array xs, .array ys => pure (.array (xs ++ ys))
      | "+", .array xs, v => pure (.array (xs ++ [v]))
      | op, old, v =>
        match Operator.binary op old v with
        | some r => ofExcept a.pos r
        | none =>
          match ← attempt (callNative fuel (op ++ "=") [old, v] false a.pos) with
          | .ok (_, some target) => pure target
          | .ok (r, none) => pure r
          | .error (.fault (.raised (.functionNotFound _) _)) => do
            pure (← callNative fuel op [old, v] false a.pos).1
          | .error s => throw s

/-- The arguments of all links, in order; a property or a last call without arguments
alone costs nothing. -/
def evalLinkArgs (fuel : Nat) (links : List Link) (isFirst : Bool) :
    Run (List (Link × List Value)) :=
  match fuel with
  | 0 => throw .exhausted
  | fuel + 1 => match links with
    | [] => pure []
    | l :: rest => do
      let free := isFirst && rest.isEmpty && match l with
        | .property .. => true
        | .method _ args _ _ _ => args.isEmpty
        | .index .. => false
      if !free then
        tick (match rest with
          | [] => l.pos
          | next :: _ => next.opens)
      let values ← match l with
        | .index e _ _ => do pure [← evalArg fuel e]
        | .property .. => pure []
        | .method _ args _ _ _ => evalArgs fuel args
      pure ((l, values) :: (← evalLinkArgs fuel rest false))

def evalChain (fuel : Nat) (root : Expr) (links : List Link) (new : Option Assignment) :
    Run Value :=
  match fuel with
  | 0 => throw .exhausted
  | fuel + 1 => do
    let values ← evalLinkArgs fuel links true
    let opening := match links with
      | l :: _ => l.opens
      | [] => root.pos
    match root with
    | .var name isLocal p =>
      tick p
      let found ← lookupVariable name isLocal p
      let v ← flat found.value
      let visit ← placed opening (walk fuel ⟨name, p⟩ v found.isConst values new)
      match visit.changed, found.place with
      | some v, some i => setVariable i v
      | _, _ => pure ()
      pure visit.result
    | .this p =>
      tick p
      match (← get).this with
      | none => fault .unboundThis p
      | some this =>
        let v ← flat this
        let visit ← placed opening (walk fuel ⟨"this", p⟩ v false values new)
        match visit.changed with
        | some v => setThis v
        | none => pure ()
        pure visit.result
    | root =>
      let v ← evalExpr fuel root
      let visit ← placed opening (walk fuel ⟨"", root.pos⟩ v false values new)
      pure visit.result

/-- Follow links into a value. -/
def walk (fuel : Nat) (root : Root) (v : Value) (isConst : Bool)
    (links : List (Link × List Value)) (new : Option Assignment) : Run Visit :=
  match fuel with
  | 0 => throw .exhausted
  | fuel + 1 => do
    match links with
    | [] =>
      match new with
      | none => pure ⟨v, none⟩
      | some a =>
        if isConst then fault (.constantAssigned root.name) root.pos
        else do pure ⟨.unit, some (← assigned fuel v a)⟩
    | (l, args) :: rest =>
      match l, v with
      | .index _ true _, .unit | .property _ true _ _, .unit | .method _ _ true _ _, .unit =>
        pure ⟨.unit, none⟩
      | .index e _ p, v =>
        let index := args.headD .unit
        match Part.find? v index with
        | some found =>
          tick .unknown
          let (part, x) ← ofExcept e.startPos found
          walkPart fuel root v isConst part x rest new p
        | none =>
          match rest, new with
          | [], some a =>
            let x ← match a.operator with
              | none => pure a.value
              | some _ =>
                match ← attempt (readIndex v index p) with
                | .ok old => assigned fuel old a
                | .error _ => pure a.value
            writeIndex v isConst index x p
            pure ⟨.unit, none⟩
          | rest, new =>
            let x ← readIndex v index p
            let visit ← walk fuel root x false rest new
            match visit.changed, v with
            | some x, .player _ => writeIndex v isConst index x p
            | _, _ => pure ()
            pure ⟨visit.result, none⟩
      | .property name _ _ p, .map es =>
        tick .unknown
        walkPart fuel root (.map es) isConst (.entry name)
          ((Value.lookup name es).getD .unit) rest new p
      | .property name _ dot p, v =>
        match rest, new with
        | [], some a =>
          let x ← match a.operator with
            | none => pure a.value
            | some _ => do assigned fuel (← readProperty v name p dot) a
          writeProperty v isConst name x p dot
          pure ⟨.unit, none⟩
        | rest, new =>
          let x ← readProperty v name p dot
          let visit ← walk fuel root x false rest new
          match visit.changed, v with
          | some x, .player _ => writeProperty v isConst name x p dot
          | _, _ => pure ()
          pure ⟨visit.result, none⟩
      | .method name _ _ _ p, v =>
        let (r, changed) ← callMethod fuel v isConst name args p
        let r ← flat r
        let visit ← walk fuel root r false rest new
        pure ⟨visit.result, changed⟩

/-- Follow links into a part of a value, and put the part back if it has changed. -/
def walkPart (fuel : Nat) (root : Root) (v : Value) (isConst : Bool) (part : Part)
    (x : Value) (rest : List (Link × List Value)) (new : Option Assignment)
    (pos : Position) : Run Visit :=
  match fuel with
  | 0 => throw .exhausted
  | fuel + 1 => do
    let visit ← walk fuel root x isConst rest new
    match visit.changed with
    | none => pure visit
    | some x =>
      let at_ := match new with
        | some a => a.pos
        | none => pos
      let v ← ofExcept at_ (part.replace v x)
      pure ⟨visit.result, some v⟩

def evalBlock (fuel : Nat) (stmts : List Stmt) : Run Value :=
  match fuel with
  | 0 => throw .exhausted
  | fuel + 1 => if stmts.isEmpty then pure .unit else inBlock (evalStmts fuel stmts)

def evalStmts (fuel : Nat) (stmts : List Stmt) : Run Value :=
  match fuel with
  | 0 => throw .exhausted
  | fuel + 1 => match stmts with
    | [] => pure .unit
    | [s] => evalStmt fuel s
    | s :: rest => do
      let _ ← evalStmt fuel s
      evalStmts fuel rest

def chooseArm (fuel : Nat) (arms : List SwitchCase) : Run (Option Expr) :=
  match fuel with
  | 0 => throw .exhausted
  | fuel + 1 => match arms with
    | [] => pure none
    | .mk _ _ none action :: _ => pure (some action)
    | .mk _ _ (some guard) action :: rest => do
      let holds ← match guard with
        | .const (.bool b) _ => pure b
        | guard => do wantBoolean (← evalExpr fuel guard) guard.pos
      if holds then pure (some action) else chooseArm fuel rest

def evalOptional (fuel : Nat) (e : Option Expr) : Run Value :=
  match fuel with
  | 0 => throw .exhausted
  | fuel + 1 => match e with
    | none => pure .unit
    | some e => evalExpr fuel e

def evalStmt (fuel : Nat) (s : Stmt) : Run Value :=
  match fuel with
  | 0 => throw .exhausted
  | fuel + 1 => do
    tick s.pos
    match s with
    | .noop _ => pure .unit
    | .expr e => evalRaw fuel e
    | .call (.call name args true p) => evalOperator fuel name args p
    | .call (.call name args false p) => evalCall fuel name args p
    | .call e => evalRaw fuel e
    | .block stmts _ => evalBlock fuel stmts
    | .define name e isConst _ =>
      let v ← evalExpr fuel e
      push name v isConst
      pure .unit
    | .assign op (.var name isLocal vp) rhs p =>
      let x ← evalExpr fuel rhs
      tick vp
      let found ← lookupVariable name isLocal vp
      match found.place with
      | none => fault (.constantAssigned name) vp
      | some i =>
        if found.isConst then fault (.constantAssigned name) vp
        else
          let old ← flat found.value
          let new ← assigned fuel old ⟨op, x, p⟩
          setVariable i new
          pure .unit
    | .assign op (.this tp) rhs p =>
      let x ← evalExpr fuel rhs
      tick tp
      match (← get).this with
      | none => fault .unboundThis tp
      | some this =>
        let new ← assigned fuel (← flat this) ⟨op, x, p⟩
        setThis new
        pure .unit
    | .assign op (.chain root links) rhs p =>
      let x ← evalExpr fuel rhs
      evalChain fuel root links (some ⟨op, x, p⟩)
    | .assign _ lhs rhs _ =>
      let _ ← evalExpr fuel rhs
      fault (.constantAssigned "") lhs.pos
    | .branch c body _ alternative _ =>
      if ← wantBoolean (← evalExpr fuel c) c.pos then evalBlock fuel body
      else evalBlock fuel alternative
    | .switch subject cases _ =>
      let v ← evalExpr fuel subject
      match ← chooseArm fuel (candidates v cases) with
      | some action => evalExpr fuel action
      | none => evalOptional fuel (defaultArm? cases)
    | .loop none body bodyPos _ =>
      if body.isEmpty then
        repeatUntil (do
          tick bodyPos
          pure none) fuel
      else repeatUntil (loopBody (evalBlock fuel body)) fuel
    | .loop (some c) body _ _ =>
      repeatUntil (do
        if ← wantBoolean (← evalExpr fuel c) c.pos then loopBody (evalBlock fuel body)
        else pure (some .unit)) fuel
    | .doLoop body c untilTrue _ _ =>
      repeatUntil (do
        match ← attempt (evalBlock fuel body) with
        | .error (.leftLoop true v) => pure (some v)
        | .error (.leftLoop false _) => pure none
        | .error s => throw s
        | .ok _ =>
          let again ← wantBoolean (← evalExpr fuel c) c.pos
          if again == untilTrue then pure (some .unit) else pure none) fuel
    | .forLoop name counter subject body bodyPos _ =>
      let iterated ← evalExpr fuel subject
      match iteration? (← read).libraries iterated with
      | none => fault .notIterable subject.startPos
      | some turns =>
        inBlock do
          if counter ≠ "" then push counter (.int 0) false
          push name .unit false
          let step (i : Nat) (v : Value) : Run (Option Value) := do
            if counter ≠ "" then setVariable 1 (.int (Int64.ofNat i))
            setVariable 0 v
            tick bodyPos
            if body.isEmpty then pure none else loopBody (evalBlock fuel body)
          match turns with
          | .items xs => eachItem step xs 0
          | .integers count first => eachInt step count first 0
    | .exitLoop v isBreak _ =>
      let v ← evalOptional fuel v
      throw (.leftLoop isBreak v)
    | .leave v false _ =>
      let v ← evalOptional fuel v
      throw (.returned v)
    | .leave v true p =>
      let v ← evalOptional fuel v
      fault (.thrown v) p
    | .tryCatch body caught handler _ =>
      match ← attempt (evalBlock fuel body) with
      | .ok v => pure v
      | .error (.fault e) =>
        if !e.isCatchable then throw (.fault e)
        else
          let value := e.caught (← get).source
          let handled := inBlock do
            match caught with
            | some name => push name value false
            | none => pure ()
            evalBlock fuel handler
          match ← attempt handled with
          | .ok _ => pure .unit
          | .error (.fault (.raised (.thrown .unit) p)) => throw (.fault (e.setPos p))
          | .error s => throw s
      | .error s => throw s
    | .share names =>
      for (name, p) in names do
        share name p
      pure .unit
    | .load path _ =>
      let v ← evalExpr fuel path
      let s ← wantString v path.startPos
      fault (.moduleNotFound s) path.startPos

end

end ModHost.Script
