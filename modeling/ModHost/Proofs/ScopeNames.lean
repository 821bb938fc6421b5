import ModHost.Proofs.EvalChanges

set_option autoImplicit false

/-!
# Names in scope

Variables come into scope by the definitions of a block, by loops and handlers, and with the
parameters of a call, and all of them leave it again. So an expression leaves the names in scope as
it has found them, whatever it calls, and a statement adds at most the one that it defines.
-/

namespace ModHost.Script

open Run

/-- None of the variables of the function that runs has the name. -/
def Machine.Lacks (m : Machine) (name : String) : Prop := ∀ v ∈ m.vars, v.name ≠ name

namespace Machine

theorem lacks_iff {m : Machine} {name : String} : m.Lacks name ↔ name ∉ m.names := by
  rw [names, List.mem_map]
  constructor
  · rintro lacks ⟨v, mem, named⟩
    exact lacks v mem named
  · intro missing v mem named
    exact missing ⟨v, mem, named⟩

def SameNames (m m' : Machine) : Prop := m'.names = m.names

def MoreNames (m m' : Machine) : Prop := m.names <:+ m'.names

def StaysWithout (name : String) (m m' : Machine) : Prop := m.Lacks name → m'.Lacks name

instance : Steady SameNames where
  refl _ := rfl
  trans before after := after.trans before
  change _ same := same

instance : Growing MoreNames where
  refl _ := List.suffix_rfl
  trans := List.IsSuffix.trans
  change _ same := ⟨[], same.symm⟩
  push _ _ := List.suffix_cons _ _

instance : Nested SameNames MoreNames where
  inner same := ⟨[], same.symm⟩
  block {m m'} grown := by
    have counts : m'.vars.length - m.vars.length = m'.names.length - m.names.length := by
      rw [names, names, List.length_map, List.length_map]
    change (m'.vars.drop _).map _ = m.names
    rw [List.map_drop, counts]
    exact (List.suffix_iff_eq_drop.1 grown).symm
  call _ _ _ _ _ _ _ := rfl

theorem SameNames.staysWithout {m m' : Machine} (same : m.SameNames m') (name : String) :
    m.StaysWithout name m' := by
  intro lacks
  rw [lacks_iff] at lacks ⊢
  rwa [same]

instance (name : String) : Steady (StaysWithout name) where
  refl _ := id
  trans before after := after ∘ before
  change _ same := SameNames.staysWithout same name

end Machine

theorem sameNames_expr (fuel : Nat) (e : Expr) : (evalExpr fuel e).Tame Machine.SameNames :=
  (evalTame (S := Machine.MoreNames) fuel).expr e

variable {name : String}

theorem staysWithout_expr (fuel : Nat) (e : Expr) :
    (evalExpr fuel e).Tame (Machine.StaysWithout name) :=
  fun env m => (sameNames_expr fuel e env m).staysWithout name

theorem staysWithout_push {other : String} (differ : other ≠ name) (value : Value)
    (isConst : Bool) : (push other value isConst).Tame (Machine.StaysWithout name) := by
  intro env m lacks v mem
  obtain rfl | before := List.mem_cons.1 mem
  · exact differ
  · exact lacks v before

/-- A statement brings no other variable into scope than the one that it defines. -/
theorem staysWithout_stmt (fuel : Nat) {s : Stmt} (other : s.defined? ≠ some name) :
    (evalStmt fuel s).Tame (Machine.StaysWithout name) := by
  have plain (undefined : s.defined? = none) :
      (evalStmt fuel s).Tame (Machine.StaysWithout name) := by
    intro env m
    have same : m.SameNames ((evalStmt fuel s).left env m) :=
      (evalTame (S := Machine.MoreNames) fuel).plain s undefined env m
    exact same.staysWithout name
  cases s with
  | define defined value isConst pos =>
    cases fuel with
    | zero =>
      unfold evalStmt
      exact tame_throw _
    | succ fuel =>
      unfold evalStmt
      refine (tame_tick _).bind fun _ => (staysWithout_expr fuel value).bind fun v => ?_
      refine (staysWithout_push (fun same => other (congrArg some same)) v isConst).bind fun _ => ?_
      exact tame_pure _
  | _ => exact plain rfl

/-- Nor do statements that follow each other, each of which adds its own. -/
theorem staysWithout_stmts (fuel : Nat) {stmts : List Stmt}
    (others : ∀ s ∈ stmts, s.defined? ≠ some name) :
    (evalStmts fuel stmts).Tame (Machine.StaysWithout name) := by
  induction stmts generalizing fuel with
  | nil =>
    cases fuel <;> unfold evalStmts
    · exact tame_throw _
    · exact tame_pure _
  | cons s rest ih =>
    obtain ⟨first, later⟩ := List.forall_mem_cons.1 others
    cases fuel with
    | zero =>
      unfold evalStmts
      exact tame_throw _
    | succ fuel =>
      cases rest with
      | nil =>
        unfold evalStmts
        exact staysWithout_stmt fuel first
      | cons =>
        unfold evalStmts
        exact (staysWithout_stmt fuel first).bind fun _ => ih fuel later

theorem lacks_entering {f : FnDef} (other : name ∉ f.params) (m : Machine) (this : Option Value)
    (args : List Value) (source : Option String) : (m.entering f this args source).Lacks name := by
  intro v mem
  obtain ⟨⟨n, x⟩, pair, rfl⟩ := List.mem_map.1 (List.mem_reverse.1 mem)
  rintro rfl
  exact other (List.of_mem_zip pair).1

/-- Whether a function has a variable of the name is up to its own parameters and definitions. -/
structure OwnVariables (env : Env) (name : String) : Prop where
  parameters {f : FnDef} (m : Machine) (this : Option Value) (args : List Value)
    (source : Option String) : name ∉ f.params → (m.entering f this args source).Lacks name
  expressions (fuel : Nat) (e : Expr) {m : Machine} : m.Lacks name →
    ((evalExpr fuel e).left env m).Lacks name
  statements (fuel : Nat) {stmts : List Stmt} {m : Machine} :
    (∀ s ∈ stmts, s.defined? ≠ some name) → m.Lacks name →
    ((evalStmts fuel stmts).left env m).Lacks name
  callers (fuel : Nat) (f : FnDef) (this : Option Value) (args : List Value)
    (source : Option String) (pos : Position) (m : Machine) :
    KeepsCaller fuel f this args source pos env m

theorem ownVariables (env : Env) (name : String) : OwnVariables env name where
  parameters m this args source other := lacks_entering other m this args source
  expressions fuel e {m} := staysWithout_expr fuel e env m
  statements fuel {_ m} others := staysWithout_stmts fuel others env m
  callers fuel f this args source pos m := left_callScript fuel f this args source pos env m

end ModHost.Script
