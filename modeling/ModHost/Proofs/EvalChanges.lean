import ModHost.Proofs.MachineChanges
import ModHost.Script.Eval

set_option autoImplicit false

/-!
# What the evaluator can change

Evaluation changes a machine only as its single steps do, by induction on the fuel: with one
unit more, every function is made of tame steps and of the functions with one unit less. The
relation for which they are tame is left open. All of them keep it, except that a definition adds
its variable, so that a second relation, which also allows that, takes its place within a block.
-/

namespace ModHost.Script

open Run

variable {R S : Machine → Machine → Prop} [Machine.Steady R]

theorem tame_lookupVariable (name : String) (isLocal : Bool) (pos : Position) :
    (lookupVariable name isLocal pos).Tame R := by
  refine (tame_variableNamed? name).bind fun found => ?_
  split
  · exact tame_pure _
  · refine tame_read.bind fun env => ?_
    split
    · exact (tame_flat _).bind fun _ => tame_pure _
    · split
      · exact tame_pure _
      · exact tame_fault _ _

theorem tame_isOuter (e : Expr) : (isOuter e).Tame R := by
  unfold isOuter
  split
  · exact (tame_variableNamed? _).bind fun _ => tame_pure _
  · exact tame_pure _

theorem tame_wantFunction (v : Value) (pos : Position) : (wantFunction v pos).Tame R := by
  unfold wantFunction
  split
  · exact tame_pure _
  · exact tame_fault _ _

theorem tame_wantBoolean (v : Value) (pos : Position) : (wantBoolean v pos).Tame R := by
  unfold wantBoolean
  split
  · exact tame_pure _
  · exact tame_fault _ _

theorem tame_wantString (v : Value) (pos : Position) : (wantString v pos).Tame R := by
  unfold wantString
  split
  · exact tame_pure _
  · exact tame_fault _ _

theorem tame_hasFunction (name : String) (arity : Nat) : (hasFunction name arity).Tame R :=
  tame_read.bind fun _ => tame_pure _

theorem tame_readProperty (v : Value) (name : String) (pos dot : Position) :
    (readProperty v name pos dot).Tame R := by
  refine (tame_tick pos).bind fun _ => tame_read.bind fun env => ?_
  split
  · split
    · exact tame_fault _ _
    · split
      · exact tame_readPlayer _ _ _
      · exact (tame_tick dot).bind fun _ => tame_readPlayer _ _ _
  · split
    · exact tame_pure _
    · exact (tame_tick dot).bind fun _ => tame_fault _ _

theorem tame_writeProperty (v : Value) (isConst : Bool) (name : String) (x : Value)
    (pos dot : Position) : (writeProperty v isConst name x pos dot).Tame R := by
  refine (tame_tick pos).bind fun _ => tame_read.bind fun env => ?_
  dsimp only
  split
  · split
    · exact tame_fault _ _
    · split
      · split
        · exact tame_fault _ _
        · exact tame_writePlayer _ _ _ _
      · refine (tame_tick dot).bind fun _ => ?_
        split
        · exact tame_fault _ _
        · exact tame_writePlayer _ _ _ _
  · exact (tame_tick dot).bind fun _ => tame_fault _ _

theorem tame_readIndex (v index : Value) (pos : Position) : (readIndex v index pos).Tame R := by
  refine (tame_tick pos).bind fun _ => ?_
  split
  · refine tame_read.bind fun env => ?_
    split
    · exact tame_readPlayer _ _ _
    · exact tame_fault _ _
  · exact tame_fault _ _

theorem tame_writeIndex (v : Value) (isConst : Bool) (index x : Value) (pos : Position) :
    (writeIndex v isConst index x pos).Tame R := by
  refine (tame_tick pos).bind fun _ => ?_
  split
  · refine tame_read.bind fun env => ?_
    split
    · exact tame_fault _ _
    · split
      · exact tame_fault _ _
      · exact tame_writePlayer _ _ _ _
  · exact tame_fault _ _

theorem tame_runNative (n : Native) (name : String) (isConst : Bool) (pos : Position) :
    (runNative n name isConst pos).Tame R := by
  unfold runNative
  split
  · exact (tame_ofExcept _ _).bind fun _ => tame_pure _
  · split
    · exact tame_fault _ _
    · exact (tame_ofExcept _ _).bind fun _ => tame_pure _
  · exact tame_throw _

/-- The machine after one more operation. -/
def Machine.counted (m : Machine) : Machine := { m with operations := m.operations + 1 }

/-- The machine in which a function's body begins: its variables are the parameters. -/
def Machine.entering (m : Machine) (f : FnDef) (this : Option Value) (args : List Value)
    (source : Option String) : Machine :=
  { m.counted with
    vars := ((f.params.zip args).map fun (n, v) => (⟨n, v, false⟩ : Variable)).reverse
    this := this, level := m.level + 1, source := source }

/-- A call of a function stops before its body, or runs it with the function's own variables and
puts those of the caller back, whatever the body does. -/
def KeepsCaller (fuel : Nat) (f : FnDef) (this : Option Value) (args : List Value)
    (source : Option String) (pos : Position) (env : Env) (m : Machine) : Prop :=
  (callScript (fuel + 1) f this args source pos).left env m = m.counted ∨
    (callScript (fuel + 1) f this args source pos).left env m =
      { (evalStmts fuel f.body).left env (m.entering f this args source) with
        vars := m.vars, this := m.this, level := m.level, source := m.source }

theorem left_callScript (fuel : Nat) (f : FnDef) (this : Option Value) (args : List Value)
    (source : Option String) (pos : Position) (env : Env) (m : Machine) :
    KeepsCaller fuel f this args source pos env m := by
  by_cases room : env.limit = 0 ∨ m.operations + 1 ≤ env.limit
  · by_cases deep : m.counted.level > maxCallLevel
    · left
      unfold callScript
      rw [left_bind, run_tick, if_pos room]
      change (if m.counted.level > maxCallLevel then _ else _ : Run _).left env m.counted = _
      rw [if_pos deep]
      rfl
    · right
      unfold callScript
      rw [left_bind, run_tick, if_pos room]
      change (if m.counted.level > maxCallLevel then _ else _ : Run _).left env m.counted = _
      rw [if_neg deep, left_modify]
      change Run.left (attempt (evalStmts fuel f.body) >>= _) env
        (m.entering f this args source) = _
      rw [left_bind]
      obtain ⟨result, ended⟩ :=
        run_attempt (evalStmts fuel f.body) env (m.entering f this args source)
      rw [ended]
      dsimp only
      rw [left_get, left_modify]
      split
      · rfl
      · rfl
      · split
        · rfl
        · split <;> rfl
      · rfl
  · left
    unfold callScript
    rw [left_bind, run_tick, if_neg room]
    rfl

/-- The variable that a statement adds to those of its block. -/
def Stmt.defined? : Stmt → Option String
  | .define name _ _ _ => some name
  | _ => none

/-- Everything that is evaluated with this much fuel is tame. -/
structure EvalTame (R S : Machine → Machine → Prop) (fuel : Nat) : Prop where
  raw : ∀ e, (evalRaw fuel e).Tame R
  expr : ∀ e, (evalExpr fuel e).Tame R
  arg : ∀ e, (evalArg fuel e).Tame R
  items : ∀ es, (evalItems fuel es).Tame R
  entries : ∀ es, (evalEntries fuel es).Tame R
  args : ∀ es, (evalArgs fuel es).Tame R
  kept : ∀ es, (evalKept fuel es).Tame R
  operator : ∀ name args pos, (evalOperator fuel name args pos).Tame R
  call : ∀ name args pos, (evalCall fuel name args pos).Tame R
  named : ∀ name args isConst pos, (callNamed fuel name args isConst pos).Tame R
  native : ∀ name args isConst pos, (callNative fuel name args isConst pos).Tame R
  script : ∀ f this args source pos, (callScript fuel f this args source pos).Tame R
  pointer : ∀ name given args this pos, (callPointer fuel name given args this pos).Tame R
  onItem : ∀ operation f given before item i pos,
    (callOnItem fuel operation f given before item i pos).Tame R
  forItem : ∀ operation f given before item i pos,
    (callForItem fuel operation f given before item i pos).Tame R
  changeEach : ∀ f given items i pos, (changeEach fuel f given items i pos).Tame R
  forEach : ∀ operation f given items i pos,
    (callForEach fuel operation f given items i pos).Tame R
  first : ∀ operation f given wanted items i pos,
    (firstAnswer fuel operation f given wanted items i pos).Tame R
  reduce : ∀ operation f given acc items pos,
    (reduceItems fuel operation f given acc items pos).Tame R
  insert : ∀ f given x sorted pos, (insertSorted fuel f given x sorted pos).Tame R
  sort : ∀ f given sorted items pos, (sortItems fuel f given sorted items pos).Tame R
  forItems : ∀ name xs f given more isConst pos,
    (callForItems fuel name xs f given more isConst pos).Tame R
  forEntries : ∀ name es f given isConst pos,
    (callForEntries fuel name es f given isConst pos).Tame R
  method : ∀ v isConst name args pos, (callMethod fuel v isConst name args pos).Tame R
  assigned : ∀ old a, (assigned fuel old a).Tame R
  linkArgs : ∀ links isFirst, (evalLinkArgs fuel links isFirst).Tame R
  chain : ∀ root links new, (evalChain fuel root links new).Tame R
  walk : ∀ root v isConst links new, (walk fuel root v isConst links new).Tame R
  walkPart : ∀ root v isConst part x rest new pos,
    (walkPart fuel root v isConst part x rest new pos).Tame R
  block : ∀ stmts, (evalBlock fuel stmts).Tame R
  stmts : ∀ stmts, (evalStmts fuel stmts).Tame S
  arm : ∀ arms, (chooseArm fuel arms).Tame R
  optional : ∀ e, (evalOptional fuel e).Tame R
  plain : ∀ s, s.defined? = none → (evalStmt fuel s).Tame R
  stmt : ∀ s, (evalStmt fuel s).Tame S

namespace EvalTame

variable {fuel : Nat}

theorem zero [Machine.Growing S] : EvalTame R S 0 := by
  constructor <;> intros <;> with_unfolding_all exact tame_throw _

theorem raw_succ (below : EvalTame R S fuel) (e : Expr) : (evalRaw (fuel + 1) e).Tame R := by
  unfold evalRaw
  refine (tame_tick _).bind fun _ => ?_
  split
  · exact tame_pure _
  · exact (tame_lookupVariable _ _ _).bind fun _ => tame_pure _
  · refine tame_get.bind fun m => ?_
    split
    · exact tame_pure _
    · exact tame_fault _ _
  · exact (below.items _).bind fun _ => tame_pure _
  · exact (below.items _).bind fun _ => tame_pure _
  · exact (below.entries _).bind fun _ => tame_pure _
  · refine (below.expr _).bind fun _ => (tame_wantBoolean _ _).bind fun _ => ?_
    split
    · exact (below.expr _).bind fun _ => (tame_wantBoolean _ _).bind fun _ => tame_pure _
    · exact tame_pure _
  · refine (below.expr _).bind fun _ => (tame_wantBoolean _ _).bind fun _ => ?_
    split
    · exact tame_pure _
    · exact (below.expr _).bind fun _ => (tame_wantBoolean _ _).bind fun _ => tame_pure _
  · refine (below.expr _).bind fun _ => ?_
    split
    · exact below.expr _
    · exact tame_pure _
  · exact below.block _
  · exact below.operator _ _ _
  · exact below.call _ _ _
  · exact below.call _ _ _
  · exact below.chain _ _ _

theorem expr_succ (below : EvalTame R S fuel) (e : Expr) : (evalExpr (fuel + 1) e).Tame R := by
  unfold evalExpr
  exact (below.raw e).bind fun v => tame_flat v

theorem arg_succ (below : EvalTame R S fuel) (e : Expr) : (evalArg (fuel + 1) e).Tame R := by
  unfold evalArg
  split
  · exact (tame_tick _).bind fun _ => tame_pure _
  · exact below.expr e

theorem items_succ (below : EvalTame R S fuel) (es : List Expr) :
    (evalItems (fuel + 1) es).Tame R := by
  unfold evalItems
  split
  · exact tame_pure _
  · exact (below.expr _).bind fun _ => (below.items _).bind fun _ => tame_pure _

theorem entries_succ (below : EvalTame R S fuel) (es : List (String × Expr)) :
    (evalEntries (fuel + 1) es).Tame R := by
  unfold evalEntries
  split
  · exact tame_pure _
  · exact (below.expr _).bind fun _ => (below.entries _).bind fun _ => tame_pure _

theorem args_succ (below : EvalTame R S fuel) (es : List Expr) :
    (evalArgs (fuel + 1) es).Tame R := by
  unfold evalArgs
  split
  · exact tame_pure _
  · exact (below.arg _).bind fun _ => (below.args _).bind fun _ => tame_pure _

theorem kept_succ (below : EvalTame R S fuel) (es : List Expr) :
    (evalKept (fuel + 1) es).Tame R := by
  unfold evalKept
  dsimp only
  split
  · exact tame_pure _
  · split
    · refine (tame_tick _).bind fun _ => ?_
      exact (tame_pure _).bind fun _ => (below.kept _).bind fun _ => tame_pure _
    · exact (below.raw _).bind fun _ => (below.kept _).bind fun _ => tame_pure _

theorem operator_succ (below : EvalTame R S fuel) (name : String) (args : List Expr)
    (pos : Position) : (evalOperator (fuel + 1) name args pos).Tame R := by
  unfold evalOperator
  split
  · refine (below.arg _).bind fun _ => ?_
    split
    · exact tame_pure _
    · exact (below.named _ _ _ _).bind fun _ => tame_pure _
  · refine (tame_isOuter _).bind fun _ => (below.arg _).bind fun _ => (below.arg _).bind fun _ => ?_
    split
    · exact tame_ofExcept _ _
    · exact (below.named _ _ _ _).bind fun _ => tame_pure _
  · exact (below.args _).bind fun _ => (below.named _ _ _ _).bind fun _ => tame_pure _

theorem call_succ (below : EvalTame R S fuel) (name : String) (args : List Expr)
    (pos : Position) : (evalCall (fuel + 1) name args pos).Tame R := by
  unfold evalCall
  dsimp only
  split
  · refine (below.arg _).bind fun _ => (tame_wantFunction _ _).bind fun _ => ?_
    exact (below.args _).bind fun _ => (below.pointer _ _ _ _ _).bind fun _ => tame_pure _
  · refine (below.arg _).bind fun _ => (tame_wantString _ _).bind fun _ => ?_
    exact tame_ofExcept _ _
  · refine (below.arg _).bind fun _ => (tame_wantFunction _ _).bind fun _ => ?_
    exact (below.kept _).bind fun _ => tame_pure _
  · refine (below.raw _).bind fun _ => ?_
    split <;> exact tame_pure _
  · refine (below.arg _).bind fun _ => (tame_wantString _ _).bind fun _ => ?_
    refine (below.arg _).bind fun _ => ?_
    split
    · exact tame_read.bind fun _ => tame_pure _
    · exact tame_fault _ _
  · refine (below.arg _).bind fun _ => (tame_wantString _ _).bind fun _ => ?_
    exact (tame_variableNamed? _).bind fun _ => tame_pure _
  · refine (tame_tick _).bind fun _ => (below.args _).bind fun _ => ?_
    refine (tame_lookupVariable _ _ _).bind fun found => ?_
    split
    · refine (tame_cellAt _).bind fun _ => ?_
      exact (below.named _ _ _ _).bind fun _ => tame_pure _
    · exact (below.named _ _ _ _).bind fun _ => tame_pure _
    · refine (below.named _ _ _ _).bind fun answer => ?_
      split
      · split
        · exact (tame_setVariable _ _).bind fun _ => tame_pure _
        · exact tame_pure _
      · exact tame_pure _
  · exact (below.args _).bind fun _ => (below.named _ _ _ _).bind fun _ => tame_pure _

theorem named_succ (below : EvalTame R S fuel) (name : String) (args : List Value)
    (isConst : Bool) (pos : Position) : (callNamed (fuel + 1) name args isConst pos).Tame R := by
  unfold callNamed
  split
  · exact tame_pure _
  · refine tame_read.bind fun env => ?_
    split
    · split
      · exact tame_pure _
      · exact (below.script _ _ _ _ _).bind fun _ => tame_pure _
    · exact below.native _ _ _ _

theorem native_succ (below : EvalTame R S fuel) (name : String) (args : List Value)
    (isConst : Bool) (pos : Position) : (callNative (fuel + 1) name args isConst pos).Tame R := by
  unfold callNative
  dsimp only
  refine (tame_tick pos).bind fun _ => tame_read.bind fun env => ?_
  split
  · split
    · exact tame_pure _
    · exact tame_fault _ _
  · split
    · split
      · exact tame_fault _ _
      · exact ((tame_hostFunction? ‹_›).placed _).bind fun _ => tame_pure _
    · split
      · rename_i answer operation
        split at operation
        · rw [Option.ite_none_right_eq_some, Option.some.injEq] at operation
          rw [← operation.2]
          exact below.forItems _ _ _ _ _ _ _
        · rw [Option.ite_none_right_eq_some, Option.some.injEq] at operation
          rw [← operation.2]
          exact below.forEntries _ _ _ _ _ _
        · cases operation
      · split
        · exact tame_runNative _ _ _ _
        · split
          · exact tame_runNative _ _ _ _
          · split
            · exact ((tame_anyHostFunction? ‹_›).placed _).bind fun _ => tame_pure _
            · split
              · exact tame_runNative _ _ _ _
              · exact tame_fault _ _

theorem script_succ [Machine.Nested R S] (below : EvalTame R S fuel) (f : FnDef)
    (this : Option Value) (args : List Value) (source : Option String) (pos : Position) :
    (callScript (fuel + 1) f this args source pos).Tame R := by
  intro env m
  have counted : R m m.counted := Machine.Steady.change (.own rfl rfl rfl) rfl
  obtain stopped | returned := left_callScript fuel f this args source pos env m
  · rw [stopped]
    exact counted
  · rw [returned]
    exact Machine.Steady.trans counted
      (Machine.Nested.call m.counted _ _ _ _ (below.stmts f.body env _))

theorem pointer_succ (below : EvalTame R S fuel) (name : String) (given args : List Value)
    (this : Option Value) (pos : Position) :
    (callPointer (fuel + 1) name given args this pos).Tame R := by
  unfold callPointer
  dsimp only
  refine tame_read.bind fun env => ?_
  split
  · split
    · exact tame_get.bind fun _ => below.script _ _ _ _ _
    · exact (tame_mapM tame_flat _).bind fun _ => tame_fault _ _
  · split
    · split
      · split
        · exact tame_pure _
        · exact below.script _ _ _ _ _
      · exact (tame_mapM tame_flat _).bind fun _ => below.native _ _ _ _
    · split
      · split
        · exact tame_pure _
        · exact below.script _ _ _ _ _
      · exact (tame_mapM tame_flat _).bind fun _ => below.named _ _ _ _

theorem tame_answered {operation : String} {item : Value} {pos : Position}
    {call : Run (Value × Option Value)} (tame : call.Tame R) : (do
      match ← attempt call with
      | .ok (v, changed) => do pure (← flat v, changed.getD item)
      | .error (.fault e) =>
        throw (.fault (.inFunction operation ((← get).source.getD "") e pos))
      | .error s => throw s : Run (Value × Value)).Tame R := by
  refine tame.attempt.bind fun result => ?_
  split
  · exact (tame_flat _).bind fun _ => tame_pure _
  · exact tame_get.bind fun _ => tame_throw _
  · exact tame_throw _

theorem onItem_succ (below : EvalTame R S fuel) (operation f : String)
    (given before : List Value) (item : Value) (i : Nat) (pos : Position) :
    (callOnItem (fuel + 1) operation f given before item i pos).Tame R := by
  unfold callOnItem
  simp only [pure_bind]
  refine (tame_hasFunction _ _).bind fun _ => ?_
  split
  · exact tame_answered (below.pointer _ _ _ _ _)
  · refine (tame_hasFunction _ _).bind fun _ => ?_
    split
    · exact tame_answered (below.pointer _ _ _ _ _)
    · refine (tame_hasFunction _ _).bind fun _ => ?_
      split <;> exact tame_answered (below.pointer _ _ _ _ _)

theorem forItem_succ (below : EvalTame R S fuel) (operation f : String)
    (given before : List Value) (item : Value) (i : Nat) (pos : Position) :
    (callForItem (fuel + 1) operation f given before item i pos).Tame R := by
  unfold callForItem
  exact (below.onItem _ _ _ _ _ _ _).bind fun _ => tame_pure _

theorem changeEach_succ (below : EvalTame R S fuel) (f : String) (given items : List Value)
    (i : Nat) (pos : Position) : (Script.changeEach (fuel + 1) f given items i pos).Tame R := by
  unfold Script.changeEach
  dsimp only
  split
  · exact tame_pure _
  · refine (below.onItem _ _ _ _ _ _ _).bind fun _ => ?_
    exact (below.changeEach _ _ _ _ _).bind fun _ => tame_pure _

theorem forEach_succ (below : EvalTame R S fuel) (operation f : String) (given : List Value)
    (items : List (List Value × Value)) (i : Nat) (pos : Position) :
    (callForEach (fuel + 1) operation f given items i pos).Tame R := by
  unfold callForEach
  split
  · exact tame_pure _
  · refine (below.forItem _ _ _ _ _ _ _).bind fun _ => ?_
    exact (below.forEach _ _ _ _ _ _).bind fun _ => tame_pure _

theorem first_succ (below : EvalTame R S fuel) (operation f : String) (given : List Value)
    (wanted : Value → Bool) (items : List Value) (i : Nat) (pos : Position) :
    (firstAnswer (fuel + 1) operation f given wanted items i pos).Tame R := by
  unfold firstAnswer
  split
  · exact tame_pure _
  · refine (below.forItem _ _ _ _ _ _ _).bind fun _ => ?_
    split
    · exact tame_pure _
    · exact below.first _ _ _ _ _ _ _

theorem reduce_succ (below : EvalTame R S fuel) (operation f : String) (given : List Value)
    (acc : Value) (items : List (Value × Nat)) (pos : Position) :
    (reduceItems (fuel + 1) operation f given acc items pos).Tame R := by
  unfold reduceItems
  split
  · exact tame_pure _
  · exact (below.forItem _ _ _ _ _ _ _).bind fun _ => below.reduce _ _ _ _ _ _

theorem insert_succ (below : EvalTame R S fuel) (f : String) (given : List Value) (x : Value)
    (sorted : List Value) (pos : Position) :
    (insertSorted (fuel + 1) f given x sorted pos).Tame R := by
  unfold insertSorted
  dsimp only
  split
  · exact tame_pure _
  · rename_i y rest
    refine (below.pointer _ _ _ _ _).attempt.bind fun result => ?_
    have placed (less : Bool) : (do
        if less then do pure (y :: (← insertSorted fuel f given x rest pos))
        else pure (x :: y :: rest) : Run (List Value)).Tame R := by
      split
      · exact (below.insert _ _ _ _ _).bind fun _ => tame_pure _
      · exact tame_pure _
    split
    · exact (tame_pure _).bind placed
    · exact (tame_pure _).bind placed
    · exact (tame_pure _).bind placed
    · exact (tame_pure _).bind placed
    · exact (tame_throw _).bind placed

theorem sort_succ (below : EvalTame R S fuel) (f : String) (given sorted items : List Value)
    (pos : Position) : (sortItems (fuel + 1) f given sorted items pos).Tame R := by
  unfold sortItems
  split
  · exact tame_pure _
  · exact (below.insert _ _ _ _ _).bind fun _ => below.sort _ _ _ _ _

theorem forItems_succ (below : EvalTame R S fuel) (name : String) (xs : List Value) (f : String)
    (given more : List Value) (isConst : Bool) (pos : Position) :
    (callForItems (fuel + 1) name xs f given more isConst pos).Tame R := by
  unfold callForItems
  dsimp only
  split
  · exact (below.forEach _ _ _ _ _ _).bind fun _ => tame_pure _
  · exact (below.forEach _ _ _ _ _ _).bind fun _ => tame_pure _
  · split
    · exact tame_fault _ _
    · exact (below.changeEach _ _ _ _ _).bind fun _ => tame_pure _
  · exact (below.first _ _ _ _ _ _ _).bind fun _ => tame_pure _
  · exact (below.first _ _ _ _ _ _ _).bind fun _ => tame_pure _
  · refine (below.first _ _ _ _ _ _ _).bind fun _ => ?_
    split <;> exact tame_pure _
  · refine (below.first _ _ _ _ _ _ _).bind fun _ => ?_
    split <;> exact tame_pure _
  · refine (below.first _ _ _ _ _ _ _).bind fun _ => ?_
    split <;> exact tame_pure _
  · split
    · exact tame_fault _ _
    · refine (below.forEach _ _ _ _ _ _).bind fun _ => ?_
      split <;> exact tame_pure _
  · split
    · exact tame_fault _ _
    · refine (below.forEach _ _ _ _ _ _).bind fun _ => ?_
      split <;> exact tame_pure _
  · exact (below.reduce _ _ _ _ _ _).bind fun _ => tame_pure _
  · exact (below.reduce _ _ _ _ _ _).bind fun _ => tame_pure _
  · exact (below.reduce _ _ _ _ _ _).bind fun _ => tame_pure _
  · exact (below.reduce _ _ _ _ _ _).bind fun _ => tame_pure _
  · split
    · exact tame_fault _ _
    · exact (below.sort _ _ _ _ _).bind fun _ => tame_pure _
  · exact tame_fault _ _

theorem forEntries_succ (below : EvalTame R S fuel) (name : String)
    (es : List (String × Value)) (f : String) (given : List Value) (isConst : Bool)
    (pos : Position) : (callForEntries (fuel + 1) name es f given isConst pos).Tame R := by
  unfold callForEntries
  dsimp only
  split
  · exact tame_fault _ _
  · refine (below.forEach _ _ _ _ _ _).bind fun _ => ?_
    split <;> exact tame_pure _

theorem method_succ (below : EvalTame R S fuel) (v : Value) (isConst : Bool) (name : String)
    (args : List Value) (pos : Position) :
    (callMethod (fuel + 1) v isConst name args pos).Tame R := by
  unfold callMethod
  dsimp only
  split
  · exact (below.pointer _ _ _ _ _).bind fun _ => tame_pure _
  · exact tame_fault _ _
  · exact (tame_wantFunction _ _).bind fun _ => below.pointer _ _ _ _ _
  · exact tame_pure _
  · exact tame_fault _ _
  · exact tame_pure _
  · exact tame_pure _
  · refine tame_read.bind fun env => ?_
    split
    · exact below.pointer _ _ _ _ _
    · split
      · split
        · exact tame_pure _
        · exact below.script _ _ _ _ _
      · exact below.native _ _ _ _

theorem assigned_succ (below : EvalTame R S fuel) (old : Value) (a : Assignment) :
    (Script.assigned (fuel + 1) old a).Tame R := by
  unfold Script.assigned
  split
  · exact tame_pure _
  · split
    · exact tame_pure _
    · exact tame_pure _
    · split
      · exact tame_ofExcept _ _
      · refine (below.native _ _ _ _).attempt.bind fun result => ?_
        split
        · exact tame_pure _
        · exact tame_pure _
        · exact (below.native _ _ _ _).bind fun _ => tame_pure _
        · exact tame_throw _

theorem linkArgs_succ (below : EvalTame R S fuel) (links : List Link) (isFirst : Bool) :
    (evalLinkArgs (fuel + 1) links isFirst).Tame R := by
  unfold evalLinkArgs
  dsimp only
  split
  · exact tame_pure _
  · rename_i l rest
    have listed (values : List Value) : (do
        pure ((l, values) :: (← evalLinkArgs fuel rest false)) :
          Run (List (Link × List Value))).Tame R :=
      (below.linkArgs _ _).bind fun _ => tame_pure _
    cases l with
    | index e optional p =>
      dsimp only
      split
      · refine (tame_tick _).bind fun _ => ?_
        exact (below.arg _).bind fun _ => (tame_pure _).bind listed
      · exact (below.arg _).bind fun _ => (tame_pure _).bind listed
    | property name optional dot p =>
      dsimp only
      split
      · exact (tame_tick _).bind fun _ => (tame_pure _).bind listed
      · exact (tame_pure _).bind listed
    | method name args optional dot p =>
      dsimp only
      split
      · exact (tame_tick _).bind fun _ => (below.args _).bind listed
      · exact (below.args _).bind listed

theorem chain_succ (below : EvalTame R S fuel) (root : Expr) (links : List Link)
    (new : Option Assignment) : (evalChain (fuel + 1) root links new).Tame R := by
  unfold evalChain
  dsimp only
  refine (below.linkArgs _ _).bind fun values => ?_
  split
  · refine (tame_tick _).bind fun _ => (tame_lookupVariable _ _ _).bind fun found => ?_
    refine (tame_flat _).bind fun v => ((below.walk _ _ _ _ _).placed _).bind fun visit => ?_
    split
    · exact (tame_setVariable _ _).bind fun _ => tame_pure _
    · exact tame_pure _
  · refine (tame_tick _).bind fun _ => tame_get.bind fun m => ?_
    split
    · exact tame_fault _ _
    · refine (tame_flat _).bind fun v => ((below.walk _ _ _ _ _).placed _).bind fun visit => ?_
      split
      · exact (tame_setThis _).bind fun _ => tame_pure _
      · exact tame_pure _
  · refine (below.expr _).bind fun v => ?_
    exact ((below.walk _ _ _ _ _).placed _).bind fun _ => tame_pure _

theorem walk_succ (below : EvalTame R S fuel) (root : Root) (v : Value) (isConst : Bool)
    (links : List (Link × List Value)) (new : Option Assignment) :
    (Script.walk (fuel + 1) root v isConst links new).Tame R := by
  unfold Script.walk
  dsimp only
  split
  · split
    · exact tame_pure _
    · split
      · exact tame_fault _ _
      · exact (below.assigned _ _).bind fun _ => tame_pure _
  · split
    · exact tame_pure _
    · exact tame_pure _
    · exact tame_pure _
    · split
      · refine (tame_tick _).bind fun _ => (tame_ofExcept _ _).bind fun _ => ?_
        exact below.walkPart _ _ _ _ _ _ _ _
      · split
        · have written (index x : Value) (p : Position) : (do
              writeIndex v isConst index x p
              pure ⟨.unit, none⟩ : Run Visit).Tame R :=
            (tame_writeIndex _ _ _ _ _).bind fun _ => tame_pure _
          split
          · exact (tame_pure _).bind fun x => written _ x _
          · refine (tame_readIndex _ _ _).attempt.bind fun old => ?_
            split
            · exact (below.assigned _ _).bind fun x => written _ x _
            · exact (tame_pure _).bind fun x => written _ x _
        · refine (tame_readIndex _ _ _).bind fun _ => (below.walk _ _ _ _ _).bind fun visit => ?_
          split
          · exact (tame_writeIndex _ _ _ _ _).bind fun _ => tame_pure _
          · exact tame_pure _
    · exact (tame_tick _).bind fun _ => below.walkPart _ _ _ _ _ _ _ _
    · split
      · have written (name : String) (x : Value) (p dot : Position) : (do
            writeProperty v isConst name x p dot
            pure ⟨.unit, none⟩ : Run Visit).Tame R :=
          (tame_writeProperty _ _ _ _ _ _).bind fun _ => tame_pure _
        split
        · exact (tame_pure _).bind fun x => written _ x _ _
        · refine (tame_readProperty _ _ _ _).bind fun _ => ?_
          exact (below.assigned _ _).bind fun x => written _ x _ _
      · refine (tame_readProperty _ _ _ _).bind fun _ => ?_
        refine (below.walk _ _ _ _ _).bind fun visit => ?_
        split
        · exact (tame_writeProperty _ _ _ _ _ _).bind fun _ => tame_pure _
        · exact tame_pure _
    · refine (below.method _ _ _ _ _).bind fun _ => (tame_flat _).bind fun _ => ?_
      exact (below.walk _ _ _ _ _).bind fun _ => tame_pure _

theorem walkPart_succ (below : EvalTame R S fuel) (root : Root) (v : Value) (isConst : Bool)
    (part : Part) (x : Value) (rest : List (Link × List Value)) (new : Option Assignment)
    (pos : Position) : (Script.walkPart (fuel + 1) root v isConst part x rest new pos).Tame R := by
  unfold Script.walkPart
  dsimp only
  refine (below.walk _ _ _ _ _).bind fun visit => ?_
  split
  · exact tame_pure _
  · exact (tame_ofExcept _ _).bind fun _ => tame_pure _

theorem block_succ [Machine.Nested R S] (below : EvalTame R S fuel) (stmts : List Stmt) :
    (evalBlock (fuel + 1) stmts).Tame R := by
  unfold evalBlock
  split
  · exact tame_pure _
  · exact (below.stmts _).inBlock

omit [Machine.Steady R] in
theorem stmts_succ [Machine.Growing S] (below : EvalTame R S fuel) (stmts : List Stmt) :
    (evalStmts (fuel + 1) stmts).Tame S := by
  unfold evalStmts
  split
  · exact tame_pure _
  · exact below.stmt _
  · exact (below.stmt _).bind fun _ => below.stmts _

theorem arm_succ (below : EvalTame R S fuel) (arms : List SwitchCase) :
    (chooseArm (fuel + 1) arms).Tame R := by
  unfold chooseArm
  split
  · exact tame_pure _
  · exact tame_pure _
  · rename_i guard action rest
    have chosen (holds : Bool) : (do
        if holds then pure (some action) else chooseArm fuel rest : Run (Option Expr)).Tame R := by
      split
      · exact tame_pure _
      · exact below.arm _
    split
    · exact (tame_pure _).bind chosen
    · exact (below.expr _).bind fun _ => (tame_wantBoolean _ _).bind chosen

theorem optional_succ (below : EvalTame R S fuel) (e : Option Expr) :
    (evalOptional (fuel + 1) e).Tame R := by
  unfold evalOptional
  split
  · exact tame_pure _
  · exact below.expr _

theorem loop_tame (below : EvalTame R S fuel) (cond : Option Expr) (body : List Stmt)
    (bodyPos pos : Position) : (evalStmt (fuel + 1) (.loop cond body bodyPos pos)).Tame R := by
  unfold evalStmt
  refine (tame_tick _).bind fun _ => ?_
  cases cond with
  | none =>
    dsimp only
    split
    · exact Tame.repeatUntil ((tame_tick _).bind fun _ => tame_pure _) fuel
    · exact (below.block _).loopBody.repeatUntil fuel
  | some c =>
    refine Tame.repeatUntil ?_ fuel
    refine (below.expr _).bind fun _ => (tame_wantBoolean _ _).bind fun _ => ?_
    split
    · exact (below.block _).loopBody
    · exact tame_pure _

theorem doLoop_tame (below : EvalTame R S fuel) (body : List Stmt) (cond : Expr)
    (negated : Bool) (bodyPos pos : Position) :
    (evalStmt (fuel + 1) (.doLoop body cond negated bodyPos pos)).Tame R := by
  unfold evalStmt
  refine (tame_tick _).bind fun _ => Tame.repeatUntil ?_ fuel
  refine (below.block _).attempt.bind fun result => ?_
  split
  · exact tame_pure _
  · exact tame_pure _
  · exact tame_throw _
  · refine (below.expr _).bind fun _ => (tame_wantBoolean _ _).bind fun _ => ?_
    split <;> exact tame_pure _

theorem forLoop_tame [Machine.Growing S] [Machine.Nested R S] (below : EvalTame R S fuel)
    (name counter : String) (subject : Expr) (body : List Stmt) (bodyPos pos : Position) :
    (evalStmt (fuel + 1) (.forLoop name counter subject body bodyPos pos)).Tame R := by
  unfold evalStmt
  refine (tame_tick _).bind fun _ => (below.expr _).bind fun v => tame_read.bind fun env => ?_
  split
  · exact tame_fault _ _
  · refine Tame.inBlock (S := S) ?_
    have turned (v : Value) : (do
        setVariable 0 v
        tick bodyPos
        if body.isEmpty then pure none else loopBody (evalBlock fuel body) :
          Run (Option Value)).Tame S := by
      refine (tame_setVariable _ _).bind fun _ => (tame_tick _).bind fun _ => ?_
      split
      · exact tame_pure _
      · exact (below.block _).loopBody.inner
    dsimp only
    split
    · refine (tame_push _ _ _).bind fun _ => (tame_push _ _ _).bind fun _ => ?_
      split
      · exact tame_eachItem (fun i v => (tame_setVariable _ _).bind fun _ => turned v) _ _
      · exact tame_eachInt (fun i v => (tame_setVariable _ _).bind fun _ => turned v) _ _ _
    · refine (tame_push _ _ _).bind fun _ => ?_
      split
      · exact tame_eachItem (fun i v => turned v) _ _
      · exact tame_eachInt (fun i v => turned v) _ _ _

omit [Machine.Steady R] in
theorem handler_tame [Machine.Growing S] [Machine.Nested R S] (below : EvalTame R S fuel)
    (caught : Option String) (value : Value) (handler : List Stmt) :
    (inBlock (do
      match caught with
      | some name => push name value false
      | none => pure ()
      evalBlock fuel handler)).Tame R := by
  refine Tame.inBlock (S := S) ?_
  split
  · exact (tame_push _ _ _).bind fun _ => (below.block _).inner
  · exact (below.block _).inner

theorem tryCatch_tame [Machine.Growing S] [Machine.Nested R S] (below : EvalTame R S fuel)
    (body : List Stmt) (caught : Option String) (handler : List Stmt) (pos : Position) :
    (evalStmt (fuel + 1) (.tryCatch body caught handler pos)).Tame R := by
  unfold evalStmt
  refine (tame_tick _).bind fun _ => (below.block _).attempt.bind fun result => ?_
  split
  · exact tame_pure _
  · split
    · exact tame_throw _
    · refine tame_get.bind fun m => ?_
      refine (below.handler_tame _ _ _).attempt.bind fun result => ?_
      split
      · exact tame_pure _
      · exact tame_throw _
      · exact tame_throw _
  · exact tame_throw _

theorem assign_tame (below : EvalTame R S fuel) (operator : Option String) (lhs rhs : Expr)
    (pos : Position) : (evalStmt (fuel + 1) (.assign operator lhs rhs pos)).Tame R := by
  unfold evalStmt
  refine (tame_tick _).bind fun _ => ?_
  cases lhs with
  | var name isLocal p =>
    refine (below.expr _).bind fun _ => (tame_tick _).bind fun _ => ?_
    refine (tame_lookupVariable _ _ _).bind fun found => ?_
    split
    · exact tame_fault _ _
    · split
      · exact tame_fault _ _
      · refine (tame_flat _).bind fun _ => (below.assigned _ _).bind fun _ => ?_
        exact (tame_setVariable _ _).bind fun _ => tame_pure _
  | this p =>
    refine (below.expr _).bind fun _ => (tame_tick _).bind fun _ => tame_get.bind fun m => ?_
    split
    · exact tame_fault _ _
    · refine (tame_flat _).bind fun _ => (below.assigned _ _).bind fun _ => ?_
      exact (tame_setThis _).bind fun _ => tame_pure _
  | chain root links => exact (below.expr _).bind fun _ => below.chain _ _ _
  | _ => exact (below.expr _).bind fun _ => tame_fault _ _

theorem share_tame (names : List (String × Position)) :
    (evalStmt (fuel + 1) (.share names)).Tame R := by
  unfold evalStmt
  refine (tame_tick _).bind fun _ => ?_
  refine (tame_forIn (fun _ _ => ?_) names _).bind fun _ => tame_pure _
  exact (tame_share _ _).bind fun _ => tame_pure _

theorem plain_succ [Machine.Growing S] [Machine.Nested R S] (below : EvalTame R S fuel) (s : Stmt)
    (plain : s.defined? = none) : (evalStmt (fuel + 1) s).Tame R := by
  cases s with
  | define => cases plain
  | loop cond body bodyPos pos => exact loop_tame below cond body bodyPos pos
  | doLoop body cond negated bodyPos pos => exact doLoop_tame below body cond negated bodyPos pos
  | forLoop name counter subject body bodyPos pos =>
    exact forLoop_tame below name counter subject body bodyPos pos
  | tryCatch body caught handler pos => exact tryCatch_tame below body caught handler pos
  | assign operator lhs rhs pos => exact assign_tame below operator lhs rhs pos
  | share names => exact share_tame names
  | noop pos =>
    unfold evalStmt
    exact (tame_tick _).bind fun _ => tame_pure _
  | expr e =>
    unfold evalStmt
    exact (tame_tick _).bind fun _ => below.raw e
  | call e =>
    unfold evalStmt
    refine (tame_tick _).bind fun _ => ?_
    cases e with
    | call name args isOperator p =>
      cases isOperator with
      | true => exact below.operator _ _ _
      | false => exact below.call _ _ _
    | _ => exact below.raw _
  | block stmts pos =>
    unfold evalStmt
    exact (tame_tick _).bind fun _ => below.block _
  | branch c body bodyPos alternative pos =>
    unfold evalStmt
    refine (tame_tick _).bind fun _ => (below.expr _).bind fun _ => ?_
    refine (tame_wantBoolean _ _).bind fun _ => ?_
    split <;> exact below.block _
  | switch subject cases pos =>
    unfold evalStmt
    refine (tame_tick _).bind fun _ => (below.expr _).bind fun _ => ?_
    refine (below.arm _).bind fun _ => ?_
    split
    · exact below.expr _
    · exact below.optional _
  | exitLoop v isBreak pos =>
    unfold evalStmt
    exact (tame_tick _).bind fun _ => (below.optional _).bind fun _ => tame_throw _
  | leave v isThrow pos =>
    unfold evalStmt
    refine (tame_tick _).bind fun _ => ?_
    cases isThrow with
    | false => exact (below.optional _).bind fun _ => tame_throw _
    | true => exact (below.optional _).bind fun _ => tame_fault _ _
  | load path pos =>
    unfold evalStmt
    refine (tame_tick _).bind fun _ => (below.expr _).bind fun _ => ?_
    exact (tame_wantString _ _).bind fun _ => tame_fault _ _

theorem stmt_succ [Machine.Growing S] [Machine.Nested R S] (below : EvalTame R S fuel)
    (s : Stmt) : (evalStmt (fuel + 1) s).Tame S := by
  cases s with
  | define name e isConst pos =>
    unfold evalStmt
    refine (tame_tick _).bind fun _ => (below.expr _).inner.bind fun _ => ?_
    exact (tame_push _ _ _).bind fun _ => tame_pure _
  | _ => exact (below.plain_succ _ rfl).inner

end EvalTame

theorem evalTame [Machine.Growing S] [Machine.Nested R S] (fuel : Nat) : EvalTame R S fuel := by
  induction fuel with
  | zero => exact .zero
  | succ fuel ih =>
    exact {
      raw := ih.raw_succ, expr := ih.expr_succ, arg := ih.arg_succ, items := ih.items_succ
      entries := ih.entries_succ, args := ih.args_succ, kept := ih.kept_succ
      operator := ih.operator_succ, call := ih.call_succ, named := ih.named_succ
      native := ih.native_succ, script := ih.script_succ, pointer := ih.pointer_succ
      onItem := ih.onItem_succ, forItem := ih.forItem_succ, changeEach := ih.changeEach_succ
      forEach := ih.forEach_succ, first := ih.first_succ, reduce := ih.reduce_succ
      insert := ih.insert_succ, sort := ih.sort_succ, forItems := ih.forItems_succ
      forEntries := ih.forEntries_succ, method := ih.method_succ, assigned := ih.assigned_succ
      linkArgs := ih.linkArgs_succ, chain := ih.chain_succ, walk := ih.walk_succ
      walkPart := ih.walkPart_succ, block := ih.block_succ, stmts := ih.stmts_succ
      arm := ih.arm_succ, optional := ih.optional_succ, plain := ih.plain_succ
      stmt := ih.stmt_succ }

/-- Evaluation makes no other changes than the single ones. -/
theorem evalLeads (fuel : Nat) : EvalTame Machine.Leads Machine.Leads fuel := evalTame fuel

end ModHost.Script
