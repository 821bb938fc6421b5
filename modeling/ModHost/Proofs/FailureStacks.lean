import ModHost.ScriptError

set_option autoImplicit false

/-!
# Stacks of failures

A runtime failure comes from a fault in wrappers, one for each function call and module that the
fault has left. Its message and its stack are found by two walks through the wrappers, which end at
the same fault. The stack has a line for each wrapper, the outermost first, and one for the fault.
-/

namespace ModHost

open Script (Cause EvalError Position)

/-- What a fault leaves on its way out. -/
inductive Wrapper where
  | call (name source : String) (pos : Position)
  | module (name : String) (pos : Position)

def Wrapper.around : Wrapper → EvalError → EvalError
  | call name source pos, e => .inFunction name source e pos
  | module name pos, e => .inModule name e pos

def wrapped (ws : List Wrapper) (cause : Cause) (pos : Position) : EvalError :=
  ws.foldr Wrapper.around (.raised cause pos)

theorem exists_wrapped (e : EvalError) : ∃ ws cause pos, e = wrapped ws cause pos := by
  induction e with
  | raised cause pos => exact ⟨[], cause, pos, rfl⟩
  | inFunction name source inner pos ih =>
    obtain ⟨ws, cause, place, rfl⟩ := ih
    exact ⟨.call name source pos :: ws, cause, place, rfl⟩
  | inModule name inner pos ih =>
    obtain ⟨ws, cause, place, rfl⟩ := ih
    exact ⟨.module name pos :: ws, cause, place, rfl⟩

variable (ws : List Wrapper) (cause : Cause) (pos : Position)

theorem innermost_wrapped : (wrapped ws cause pos).innermost = .raised cause pos := by
  induction ws with
  | nil => rfl
  | cons w ws ih =>
    cases w with
    | call => exact ih
    | module => exact ih

namespace ScriptError

/-- A line of a stack names what failed, tells its source when there is one, and its place when
that is known. -/
inductive Tells (what source : String) (pos : Position) : String → Prop
  | name (unsourced : source = "") (unplaced : pos.line = 0) : Tells what source pos what
  | place (unsourced : source = "") (placed : pos.line ≠ 0) :
      Tells what source pos (what ++ s!" @ line {pos.line}, position {pos.column}")
  | source (sourced : source ≠ "") (unplaced : pos.line = 0) :
      Tells what source pos s!"{what} [{source}]"
  | sourceAndPlace (sourced : source ≠ "") (placed : pos.line ≠ 0) :
      Tells what source pos
        (s!"{what} [{source}]" ++ s!" @ line {pos.line}, position {pos.column}")

theorem at_text {pos : Position} (placed : pos.line ≠ 0) :
    " @ " ++ pos.text = s!" @ line {pos.line}, position {pos.column}" := by
  have known : pos.isUnknown = false := by simp [Position.isUnknown, placed]
  have joined : " @ " ++ toString "line " = toString " @ line " := rfl
  unfold Position.text
  rw [if_neg (by simp [known])]
  simp only [← String.append_assoc, joined]

theorem tells_frame (what source : String) (pos : Position) :
    Tells what source pos (frame what source pos) := by
  unfold frame
  by_cases unplaced : pos.line = 0
  · have unknown : pos.isUnknown = true := by simp [Position.isUnknown, unplaced]
    rw [unknown]
    by_cases unsourced : source = ""
    · simpa [unsourced] using Tells.name unsourced unplaced
    · simpa [unsourced] using Tells.source unsourced unplaced
  · have known : pos.isUnknown = false := by simp [Position.isUnknown, unplaced]
    rw [known]
    by_cases unsourced : source = ""
    · simpa [unsourced, at_text unplaced] using Tells.place unsourced unplaced
    · simpa [unsourced, at_text unplaced] using Tells.sourceAndPlace unsourced unplaced

theorem Tells.starts {what source line : String} {pos : Position}
    (tells : Tells what source pos line) : what.toList <+: line.toList := by
  cases tells <;> simp [toString]

def Told : Wrapper → String → Prop
  | .call name source pos => Tells ("fn " ++ name) source pos
  | .module name pos => Tells ("module " ++ name) "" pos

/-- The message and the stack of a fault in its wrappers. -/
structure Stacked (ws : List Wrapper) (cause : Cause) (pos : Position) (message : String)
    (stack : List String) : Prop where
  text : message = (EvalError.raised cause pos).text
  length : stack.length = ws.length + 1
  wrappers : ∀ (i : Nat) (w : Wrapper), ws[i]? = some w →
    ∃ line, stack[i]? = some line ∧ Told w line
  fault : ∃ line, stack.getLast? = some line ∧ Tells message "" pos line ∧
    message.toList <+: line.toList

def lineOf : Wrapper → String
  | .call name source pos => frame ("fn " ++ name) source pos
  | .module name pos => frame ("module " ++ name) "" pos

theorem told_lineOf (w : Wrapper) : Told w (lineOf w) := by
  cases w with
  | call name source pos => exact tells_frame _ _ _
  | module name pos => exact tells_frame _ _ _

theorem frames_wrapped : frames (wrapped ws cause pos) =
    ws.map lineOf ++ [frame (EvalError.raised cause pos).text "" pos] := by
  induction ws with
  | nil => rfl
  | cons w ws ih =>
    cases w with
    | call name source place => exact congrArg (_ :: ·) ih
    | module name place => exact congrArg (_ :: ·) ih

theorem stacked_frames :
    Stacked ws cause pos (EvalError.raised cause pos).text (frames (wrapped ws cause pos)) := by
  rw [frames_wrapped]
  refine ⟨rfl, by simp, ?wrappers, ?fault⟩
  case wrappers =>
    intro i w at_i
    have within : i < (ws.map lineOf).length := by
      simpa using (List.getElem?_eq_some_iff.1 at_i).1
    refine ⟨lineOf w, ?_, told_lineOf w⟩
    rw [List.getElem?_append_left within, List.getElem?_map, at_i]
    rfl
  case fault =>
    have tells := tells_frame (EvalError.raised cause pos).text "" pos
    exact ⟨_, List.getLast?_concat, tells, tells.starts⟩

/-- Every fault is one cause in wrappers, and the failure that it gives tells the cause and has a
line for each wrapper and the cause. -/
theorem stack_tells_wrappers : (∀ e : EvalError, ∃ ws cause pos, e = wrapped ws cause pos) ∧
    ∀ (origin : String) (ws : List Wrapper) (cause : Cause) (pos : Position),
      ∃ message stack, ofEval origin (wrapped ws cause pos) = .runtime origin message stack ∧
        Stacked ws cause pos message stack := by
  refine ⟨exists_wrapped, fun origin ws cause pos => ⟨_, _, ?_, stacked_frames ws cause pos⟩⟩
  unfold ofEval
  rw [innermost_wrapped]

end ScriptError

end ModHost
