import ModHost.Host
import ModHost.Script.Eval

set_option autoImplicit false

/-!
# Calls of the host's functions

What a call of one of the host's functions, or of a stock binding, can come to. All of them
answer a value or refuse with an error of the script, whatever they are given, with one
exception: `random_range` on floats. It answers at once when the lower bound is not below the
upper one, but this comparison is also false when a bound is not a number, and it says nothing
of the width of the range; a sampler that is given such a range gives up, and the host with it.
-/

namespace ModHost

namespace Script

section Order

open Float.Model (UnpackedFloat)

theorem isNone_compare (a b : UnpackedFloat) :
    (a.compare b).isNone = (a.isNaN || b.isNaN) := by
  cases a with
  | notANumber => rfl
  | infinity s => cases s <;> cases b with
    | infinity s' => cases s' <;> rfl
    | _ => rfl
  | zero s =>
    cases b with
    | infinity s' => cases s' <;> rfl
    | finite s' => cases s' <;> rfl
    | _ => rfl
  | finite s =>
    cases s <;> cases b with
    | infinity s' => cases s' <;> rfl
    | finite s' => cases s' <;> rfl
    | _ => rfl

theorem compare_swap (a b : UnpackedFloat) : b.compare a = (a.compare b).map Ordering.swap := by
  have magnitudes (m m' : Nat) (e e' : Int) : (compare e' e).then (compare m' m) =
      ((compare e e').then (compare m m')).swap := by
    rw [Ordering.swap_then, Int.compare_swap, Nat.compare_swap]
  cases a with
  | notANumber => cases b <;> rfl
  | infinity s => cases s <;> cases b with
    | infinity s' => cases s' <;> rfl
    | _ => rfl
  | zero s =>
    cases b with
    | infinity s' => cases s' <;> rfl
    | finite s' => cases s' <;> rfl
    | _ => rfl
  | finite s m e =>
    cases b with
    | infinity s' => cases s <;> cases s' <;> rfl
    | zero | notANumber => cases s <;> rfl
    | finite s' m' e' =>
      cases s with
      | positive => cases s' with
        | positive => exact congrArg some (magnitudes m m' e e')
        | negative => rfl
      | negative => cases s' with
        | positive => rfl
        | negative => exact congrArg (some ·.swap) (magnitudes m m' e e')

/-- One of `low ≥ high` and `low < high` holds, unless a bound is not a number; then neither. -/
theorem order_cases (low high : Float) :
    (low ≥ high ∧ ¬ low < high ∧ (low.isNaN || high.isNaN) = false) ∨
      (¬ low ≥ high ∧ low < high ∧ (low.isNaN || high.isNaN) = false) ∨
      (¬ low ≥ high ∧ ¬ low < high ∧ (low.isNaN || high.isNaN) = true) := by
  let a := low.toModel.unpack
  let b := high.toModel.unpack
  have less : low < high ↔ a.compare b = some .lt := by
    change low.lt high = true ↔ _
    rw [Float.lt, decide_eq_true_iff]
    exact beq_iff_eq
  have atLeast : low ≥ high ↔ ∃ o, b.compare a = some o ∧ o.isLE = true := by
    change high.le low = true ↔ _
    rw [Float.le, decide_eq_true_iff]
    exact Option.any_eq_true _ _
  have nan : (low.isNaN || high.isNaN) = true ↔ a.compare b = none := by
    rw [← Option.isNone_iff_eq_none, isNone_compare]
    rfl
  rw [Bool.eq_false_iff, ne_eq, nan, less, atLeast, compare_swap a b]
  rcases a.compare b with _ | _ | _ | _ <;> simp

end Order

namespace Run

variable {α β : Type}

/-- How a run ended: with a value or an error of the script, or, when there is a message, with
the host's own code giving up. -/
inductive Ends : EStateM.Result Signal Machine α → Option String → Prop
  | value (a : α) (m : Machine) : Ends (.ok a m) none
  | fault (e : EvalError) (m : Machine) : Ends (.error (.fault e) m) none
  | abort (message : String) (m : Machine) : Ends (.error (.panicked message) m) (some message)

theorem run_read (env : Env) (m : Machine) : (read : Run Env) env m = .ok env m := rfl

/-- In this environment the run ends with a value or an error of the script, from any machine. -/
def Settles (env : Env) (r : Run α) : Prop := ∀ m, Ends (r env m) none

variable {env : Env}

theorem settles_pure (a : α) : Settles env (pure a) := fun m => .value a m

theorem settles_fault (cause : Cause) (pos : Position) : Settles env (fault cause pos : Run α) :=
  fun m => .fault _ m

theorem settles_get : Settles env (get : Run Machine) := fun m => .value m m

theorem settles_modify (change : Machine → Machine) : Settles env (modify change : Run Unit) :=
  fun m => .value () (change m)

theorem settles_emit (e : Emission) : Settles env (emit e) := settles_modify _

theorem Settles.bind_ends {r : Run α} {f : α → Run β} {abort : Option String} (first : Settles env r)
    (m : Machine) (faulted : ∀ e m', r env m = .error (.fault e) m' → abort = none)
    (after : ∀ a m', r env m = .ok a m' → Ends (f a env m') abort) :
    Ends ((r >>= f) env m) abort := by
  have ended := first m
  rw [run_bind]
  cases reached : r env m with
  | ok a m' => exact after a m' reached
  | error s m' =>
    rw [reached] at ended
    cases ended with
    | fault e =>
      rw [faulted e m' reached]
      exact .fault e m'

theorem Settles.bind {r : Run α} {f : α → Run β} (first : Settles env r)
    (after : ∀ a, Settles env (f a)) : Settles env (r >>= f) :=
  fun m => first.bind_ends m (fun _ _ _ => rfl) fun a m' _ => after a m'

theorem settles_read_bind {f : Env → Run α} (after : Settles env (f env)) :
    Settles env (read >>= f) := after

theorem Ends.map {r : Run α} {m : Machine} {abort : Option String} (f : α → β)
    (ended : Ends (r env m) abort) : Ends ((do pure (f (← r)) : Run β) env m) abort := by
  rw [run_bind]
  generalize r env m = left at ended
  cases ended with
  | value a m' => exact .value (f a) m'
  | fault e m' => exact .fault e m'
  | abort message m' => exact .abort message m'

theorem settles_ofExcept (pos : Position) (r : Except Cause α) : Settles env (ofExcept pos r) := by
  cases r with
  | ok a => exact settles_pure a
  | error c => exact settles_fault c pos

theorem settles_tick (pos : Position) : Settles env (tick pos) := by
  refine settles_read_bind (settles_get.bind fun m => (settles_modify _).bind fun _ => ?_)
  split
  · exact settles_fault _ _
  · exact settles_pure _

/-- Whether the run may make one more operation. -/
def withinLimit (env : Env) (m : Machine) : Bool :=
  env.limit = 0 || m.operations + 1 ≤ env.limit

theorem tick_cases (pos : Position) (env : Env) (m : Machine) :
    (withinLimit env m = true ∧ ∃ m', tick pos env m = .ok () m') ∨
      (withinLimit env m = false ∧ ∃ e m', tick pos env m = .error (.fault e) m') := by
  rw [run_tick]
  cases within : withinLimit env m with
  | true =>
    simp only [withinLimit, Bool.or_eq_true, decide_eq_true_eq] at within
    exact .inl ⟨rfl, _, if_pos within⟩
  | false =>
    simp only [withinLimit, Bool.or_eq_false_iff, decide_eq_false_iff_not] at within
    exact .inr ⟨rfl, _, _, if_neg (not_or.2 within)⟩

theorem Ends.placed {r : Run α} {m : Machine} {abort : Option String} (pos : Position)
    (ended : Ends (r env m) abort) : Ends (placed pos r env m) abort := by
  unfold Run.placed
  generalize r env m = left at ended
  cases ended with
  | value a m' => exact .value a m'
  | fault e m' => exact .fault _ m'
  | abort message m' => exact .abort message m'

theorem Settles.placed {r : Run α} (pos : Position) (settles : Settles env r) :
    Settles env (placed pos r) := fun m => (settles m).placed pos

/-- The end of a run that throws a text. -/
def thrown (text : String) (pos : Position) (m : Machine) : EStateM.Result Signal Machine α :=
  .error (.fault (.raised (.thrown (.str text)) pos)) m

theorem placed_thrown (text : String) (pos : Position) (m : Machine) :
    placed pos (fault (.thrown (.str text)) pos : Run α) env m = thrown text pos m := by
  have same : EvalError.fillPos pos (.raised (.thrown (.str text)) pos) =
      .raised (.thrown (.str text)) pos := by
    unfold EvalError.fillPos
    split <;> rfl
  exact congrArg (fun e => EStateM.Result.error (Signal.fault e) m) same

end Run

open Run

section Functions

variable {env : Env}

theorem settles_runNative (n : Native) (name : String) (isConst : Bool) (pos : Position) :
    Settles env (runNative n name isConst pos) := by
  cases n with
  | answer r => exact (settles_ofExcept pos r).bind fun _ => settles_pure _
  | update r =>
    unfold runNative
    dsimp only
    split
    · exact settles_fault _ _
    · exact (settles_ofExcept pos r).bind fun _ => settles_pure _
  | fail e => exact fun m => .fault _ m

theorem settles_registerHook (kind : Int64) (name : String) (given : List Value) (pos : Position) :
    Settles env (registerHook kind name given pos) := by
  unfold registerHook
  split
  · refine settles_read_bind ?_
    split
    · exact (settles_emit _).bind fun _ => settles_pure _
    · exact settles_fault _ _
  · exact settles_fault _ _

theorem settles_randomInt (low high : Int64) : Settles env (randomInt low high) := by
  unfold randomInt
  split
  · exact settles_pure _
  · exact settles_get.bind fun _ => (settles_modify _).bind fun _ => settles_pure _

/-- The message with which the sampler gives up on a range of floats that is not empty as far as
`low ≥ high` tells. -/
def rangeAbort? (low high : Float) : Option String :=
  if low.isNaN || high.isNaN then some "cannot sample empty range"
  else if low < high && !(high - low).isFinite then
    some "UniformSampler::sample_single: range overflow"
  else none

theorem ends_randomFloat (low high : Float) (m : Machine) :
    Ends (randomFloat low high env m) (rangeAbort? low high) := by
  unfold randomFloat rangeAbort?
  obtain ⟨empty, notLess, nan⟩ | ⟨notEmpty, less, nan⟩ | ⟨notEmpty, notLess, nan⟩ :=
    order_cases low high
  · simp only [empty, notLess, nan, Bool.false_eq_true, ↓reduceIte, decide_false, Bool.false_and]
    exact .value _ _
  · simp only [notEmpty, less, nan, Bool.false_eq_true, ↓reduceIte, decide_true, Bool.not_true,
      Bool.true_and]
    split
    · exact .abort _ _
    · exact .value _ _
  · simp only [notEmpty, notLess, nan, ↓reduceIte, decide_false, Bool.not_false]
    exact .abort _ _

theorem settles_surrounding : Settles env surrounding := settles_get.bind fun _ => settles_pure _

theorem settles_of_provided {provided : Bool} {f g : HostFunction}
    (found : (if provided then some g else none) = some f) (settles : g.run.Settles env) :
    f.run.Settles env := by
  rw [Option.ite_none_right_eq_some, Option.some.injEq] at found
  rw [← found.2]
  exact settles

/-- The arguments are those of the sampler of floats. -/
def IsFloatRange (name : String) (args : List Value) : Prop :=
  name = "random_range" ∧ ∃ low high, args = [.float low, .float high]

theorem settles_hostFunction? {name : String} {args : List Value} {pos : Position}
    {f : HostFunction} (found : hostFunction? env name args pos = some f)
    (other : ¬ IsFloatRange name args) : f.run.Settles env := by
  unfold hostFunction? at found
  dsimp only at found
  split at found
  · exact settles_of_provided found (settles_registerHook _ _ _ _)
  · next low high =>
    obtain ⟨g, range, found⟩ := Option.bind_eq_some_iff.1 found
    refine settles_of_provided found ?_
    unfold randomRange? at range
    split at range
    · cases range
      exact settles_randomInt _ _
    · exact absurd ⟨rfl, _, _, rfl⟩ other
    · cases range
  · exact settles_of_provided found (settles_pure _)
  · exact settles_of_provided found (settles_surrounding.bind fun _ => settles_pure _)
  · exact settles_of_provided found (settles_pure _)
  · exact settles_of_provided found (settles_pure _)
  · exact settles_of_provided found (settles_pure _)
  · exact settles_of_provided found (settles_pure _)
  · exact settles_of_provided found (settles_pure _)
  · cases found

theorem settles_bindingCall (b : Binding) (args : List Value) (pos : Position) :
    Settles env (match b.call args with
      | .ok v => (pure v : Run Value)
      | .error message => Run.fault (.thrown (.str message)) pos) := by
  split
  · exact settles_pure _
  · exact settles_fault _ _

theorem settles_anyHostFunction? {name : String} {args : List Value} {pos : Position}
    {f : HostFunction} (found : anyHostFunction? env name args pos = some f) :
    f.run.Settles env := by
  have bound {g : HostFunction} (found : (env.bindings.find? name args.length).map (fun b =>
      HostFunction.value do
        match b.call args with
        | .ok v => pure v
        | .error message => Run.fault (.thrown (.str message)) pos) = some g) :
      g.run.Settles env := by
    obtain ⟨b, -, rfl⟩ := Option.map_eq_some_iff.1 found
    exact settles_bindingCall b args pos
  unfold anyHostFunction? at found
  dsimp only at found
  split at found
  · split at found
    · cases found
      exact (settles_emit _).bind fun _ => settles_pure _
    · exact bound found
  · split at found
    · cases found
      exact bound ‹_›
    · split at found
      · cases found
      · split at found
        · cases found
          exact (settles_emit _).bind fun _ => settles_pure _
        · cases found
          exact settles_get.bind fun _ => (settles_emit _).bind fun _ => settles_pure _
        · cases found

end Functions

def hostNames : List String := hostFunctions ++ BindingTable.stock.map (·.name)

/-- None of them is an operation that calls a function of the script. -/
theorem not_operation {name : String} (host : name ∈ hostNames) :
    (∀ more, isItemOperation name more = false) ∧ isEntryOperation name = false := by
  have each : ∀ name ∈ hostNames, isItemOperation name [] = false ∧
      isItemOperation name [.int 0] = false ∧ isItemOperation name [.unit] = false ∧
      isEntryOperation name = false := by decide
  obtain ⟨none, number, one, entry⟩ := each name host
  refine ⟨fun more => ?_, entry⟩
  unfold isItemOperation
  split
  · exact none
  · exact number
  · exact one
  · rfl

theorem settles_callNative {env : Env} (fuel : Nat) {name : String} {args : List Value}
    (host : name ∈ hostNames) (other : ∀ f pos, hostFunction? env name args pos = some f →
      f.run.Settles env) (isConst : Bool) (pos : Position) :
    Settles env (callNative (fuel + 1) name args isConst pos) := by
  obtain ⟨notItem, notEntry⟩ := not_operation host
  unfold callNative
  dsimp only
  refine (settles_tick pos).bind fun _ => settles_read_bind ?_
  split
  · split
    · exact settles_pure _
    · exact settles_fault _ _
  · split
    · next found =>
      split
      · exact settles_fault _ _
      · exact ((other _ _ found).placed _).bind fun _ => settles_pure _
    · split
      · rename_i answer operation
        split at operation
        · simp [notItem] at operation
        · simp [notEntry] at operation
        · cases operation
      · split
        · exact settles_runNative _ _ _ _
        · split
          · exact settles_runNative _ _ _ _
          · split
            · next found =>
              exact ((settles_anyHostFunction? found).placed _).bind fun _ => settles_pure _
            · split
              · exact settles_runNative _ _ _ _
              · exact settles_fault _ _

/-- The message with which a call of one of the host's functions takes the host down, if it
does. -/
def callAbort? (env : Env) (m : Machine) (name : String) (args : List Value) : Option String :=
  if env.facilities.hostApi && withinLimit env m then
    match name, args with
    | "random_range", [.float low, .float high] => rangeAbort? low high
    | _, _ => none
  else none

theorem callAbort?_other {env : Env} {m : Machine} {name : String} {args : List Value}
    (other : ¬ IsFloatRange name args) : callAbort? env m name args = none := by
  unfold callAbort?
  split
  · split
    · exact absurd ⟨rfl, _, _, rfl⟩ other
    · rfl
  · rfl

theorem ends_callNative_floatRange {env : Env} (api : env.facilities.hostApi = true) (fuel : Nat)
    (low high : Float) (isConst : Bool) (pos : Position) (m : Machine) :
    Ends (callNative (fuel + 1) "random_range" [.float low, .float high] isConst pos env m)
      (callAbort? env m "random_range" [.float low, .float high]) := by
  have abort : callAbort? env m "random_range" [.float low, .float high] =
      if withinLimit env m then rangeAbort? low high else none := by
    simp only [callAbort?, api, Bool.true_and]
  unfold callNative
  dsimp only
  rw [abort, run_bind]
  obtain ⟨within, m', counted⟩ | ⟨beyond, e, m', failed⟩ := tick_cases pos env m
  · rw [counted, within]
    have found : hostFunction? env "random_range" [.float low, .float high] pos =
        some (.value (randomFloat low high)) := by
      simp only [hostFunction?, randomRange?, api, Option.bind_some, ↓reduceIte]
    have ended : Ends (placed pos (randomFloat low high) env m') (rangeAbort? low high) :=
      (ends_randomFloat low high m').placed pos
    simp only [List.isEmpty_cons, Bool.false_eq_true, ↓reduceIte]
    rw [run_bind, run_read]
    dsimp only
    rw [found]
    exact ended.map (·, none)
  · rw [failed, beyond]
    exact .fault e m'

theorem ends_callNative (env : Env) (m : Machine) (fuel : Nat) {name : String}
    (host : name ∈ hostNames) (args : List Value) (isConst : Bool) (pos : Position) :
    Ends (callNative (fuel + 1) name args isConst pos env m) (callAbort? env m name args) := by
  by_cases range : IsFloatRange name args
  · obtain ⟨rfl, low, high, rfl⟩ := range
    cases api : env.facilities.hostApi with
    | true => exact ends_callNative_floatRange api fuel low high isConst pos m
    | false =>
      have abort : callAbort? env m "random_range" [.float low, .float high] = none := by
        simp only [callAbort?, api, Bool.false_and, Bool.false_eq_true, ↓reduceIte]
      rw [abort]
      refine settles_callNative fuel host (fun f pos found => ?_) isConst pos m
      simp [hostFunction?, randomRange?, api] at found
  · rw [callAbort?_other range]
    exact settles_callNative fuel host (fun f pos found => settles_hostFunction? found range)
      isConst pos m

theorem callNamed_of_native {env : Env} {m : Machine} {fuel : Nat} {name : String}
    {args : List Value} {isConst : Bool} {pos : Position} (notType : name ≠ "type_of")
    (native : env.program.function? name args.length = none) :
    callNamed (fuel + 1) name args isConst pos env m = callNative fuel name args isConst pos env m := by
  unfold callNamed
  split
  · exact absurd rfl notType
  · rw [run_bind, run_read]
    dsimp only
    rw [native]

/-- How a call of one of the host's functions or of a stock binding ends, whatever the role, the
generator, and the values it is given: with a value or an error of the script, except where the
sampler of floats gives up. Methods and function pointers come down to `callNative` as well. -/
theorem host_call_ends (env : Env) (m : Machine) (fuel : Nat) {name : String}
    (host : name ∈ hostNames) (args : List Value) (isConst : Bool) (pos : Position) :
    Ends (callNative (fuel + 1) name args isConst pos env m) (callAbort? env m name args) ∧
      (env.program.function? name args.length = none →
        Ends (callNamed (fuel + 2) name args isConst pos env m) (callAbort? env m name args)) := by
  have ended := ends_callNative env m fuel host args isConst pos
  refine ⟨ended, fun native => ?_⟩
  rw [callNamed_of_native (by rintro rfl; exact absurd host (by decide)) native]
  exact ended

/-- A script without functions of its own, in a session with all that the stock host gives. -/
def stockEnv : Env :=
  { program := ⟨[], [], []⟩, source := none, libraries := Library.all, facilities := .full,
    bindings := .stock, isServer := true, limit := 0, outer := fun _ => none }

def seededMachine : Machine := machineFor [] #[] none ⟨#[], Generator.ofSeed 7⟩

theorem calls_with_extreme_bounds :
    Ends (callNamed 2 "random_range" [.int Int64.minValue, .int Int64.maxValue] false .unknown
        stockEnv seededMachine) none ∧
      Ends (callNative 1 "random_range" [.float (0 / 0), .float 1] false .unknown
        stockEnv seededMachine) (some "cannot sample empty range") := by
  have range : "random_range" ∈ hostNames := by decide
  have nan : callAbort? stockEnv seededMachine "random_range" [.float (0 / 0), .float 1] =
      some "cannot sample empty range" := by decide +kernel
  constructor
  · exact (host_call_ends stockEnv seededMachine 0 range _ false .unknown).2 rfl
  · rw [← nan]
    exact (host_call_ends stockEnv seededMachine 0 range _ false .unknown).1

end Script

namespace ScriptHost

def startedOn (text : String) : ScriptHost :=
  let config := { ScriptingConfig.default with maxPlayers := 0, mods := ⟨[⟨"a.rhai", true⟩], []⟩ }
  ((ofConfig config).start .standard (.ofNodes [(["a.rhai"], .file text.toUTF8 0)])).2

/-- Scripts that take the host down, with a bound that is not a number and with a range that is
too wide. -/
theorem random_range_aborts_host :
    (startedOn "random_range(0.0 / 0.0, 1.0);").aborted = some "cannot sample empty range" ∧
      (startedOn "random_range(-1.0e308, 1.0e308);").aborted =
        some "UniformSampler::sample_single: range overflow" := by
  decide +kernel

end ScriptHost

end ModHost
