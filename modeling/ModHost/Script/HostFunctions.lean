import ModHost.HookRegistry
import ModHost.Script.Machine

set_option autoImplicit false

/-!
# Functions of the host

What scripts can call beside their libraries: `hook_event`, `random_range`, `is_server`,
`log`, and the fields and functions of player proxies. `print` and `debug` come with the
core library and speak to the host as well. A refusal of the host is a thrown text.
-/

namespace ModHost.Script

/-- A host function applied to its arguments. One by reference refuses a constant. -/
structure HostFunction where
  byReference : Bool
  run : Run Value

namespace HostFunction

def value (run : Run Value) : HostFunction := ⟨false, run⟩

def method (run : Run Value) : HostFunction := ⟨true, run⟩

end HostFunction

def surrounding : Run Surrounding := do pure ⟨true, .held (← get).players⟩

def refused {α : Type} (e : ProxyError) (pos : Position) : Run α :=
  Run.fault (.thrown (.str e.message)) pos

def readPlayer (slot : Nat) (field : String) (pos : Position) : Run Value := do
  match Proxy.get .playerState (← surrounding) slot field with
  | .ok v => pure v
  | .error e => refused e pos

def writePlayer (slot : Nat) (field : String) (v : Value) (pos : Position) : Run Unit := do
  match Proxy.set .playerState (← surrounding) slot field v with
  | .ok players => modify fun m => { m with players := players }
  | .error e => refused e pos

/-- What `hook_event` does. The host enters what it is told in the registry. -/
def registerHook (kind : Int64) (name : String) (given : List Value) (pos : Position) :
    Run Value := do
  match HookKind.ofId? kind.toInt with
  | some k =>
    if (← read).hasOwner then
      Run.emit (.hook k name given)
      pure .unit
    else Run.fault (.thrown (.str HookRegistry.unownedText)) pos
  | none => Run.fault (.thrown (.str (HookKind.unknownText kind.toInt))) pos

def randomInt (low high : Int64) : Run Value := do
  if low ≥ high then pure (.int low)
  else
    let (n, g) := (← get).generator.intRange low high
    modify fun m => { m with generator := g }
    pure (.int n)

def randomFloat (low high : Float) : Run Value := do
  if low ≥ high then pure (.float low)
  else if !(low < high) then throw (.panicked "cannot sample empty range")
  else if !(high - low).isFinite then
    throw (.panicked "UniformSampler::sample_single: range overflow")
  else
    let (x, g) := (← get).generator.floatRange low high
    modify fun m => { m with generator := g }
    pure (.float x)

def randomRange? : Value → Value → Option HostFunction
  | .int low, .int high => some (.value (randomInt low high))
  | .float low, .float high => some (.value (randomFloat low high))
  | _, _ => none

def hostFunction? (env : Env) (name : String) (args : List Value) (pos : Position) :
    Option HostFunction :=
  let host (f : HostFunction) := if env.facilities.hostApi then some f else none
  let hook (f : HostFunction) := if env.facilities.hookApi then some f else none
  let proxy (f : HostFunction) := if env.facilities.proxyApi then some f else none
  match name, args with
  | "hook_event", [.int kind, .fn callback given] =>
    hook (.value (registerHook kind callback given pos))
  | "random_range", [low, high] => (randomRange? low high).bind host
  | "is_server", [] => host (.value (pure (.bool env.isServer)))
  | "is_valid", [.player slot] =>
    proxy (.method do pure (.bool (Proxy.isValid .playerState (← surrounding) slot)))
  | "kind", [.player _] => proxy (.method (pure (.str ObjectKind.playerState.name)))
  | "to_string", [.player slot] => proxy (.method (pure (.str (Proxy.text .playerState slot))))
  | "to_debug", [.player slot] =>
    proxy (.method (pure (.str (Proxy.debugText .playerState slot))))
  | "==", [.player a, .player b] => proxy (.method (pure (.bool (a = b))))
  | "!=", [.player a, .player b] => proxy (.method (pure (.bool (a ≠ b))))
  | _, _ => none

def debugLine (source : Option String) (pos : Position) (text : String) : String :=
  (match source with
    | some s => s ++ " @ "
    | none => "") ++ pos.text ++ ": " ++ text

/-- The functions that take any value: `log`, then the bindings, then what the core
library prints. -/
def anyHostFunction? (env : Env) (name : String) (args : List Value) (pos : Position) :
    Option HostFunction :=
  let bound : Option HostFunction := (env.bindings.find? name args.length).map fun b =>
    HostFunction.value do
      match b.call args with
      | .ok v => pure v
      | .error message => Run.fault (.thrown (.str message)) pos
  match name, args with
  | "log", [v] =>
    if env.facilities.hostApi then
      some <| .value do
        Run.emit (.output v.displayText)
        pure .unit
    else bound
  | _, _ =>
    match bound with
    | some f => some f
    | none =>
      if !env.libraries.contains .core then none
      else
        let shown : Option String := match args with
          | [] => some ""
          | [v] => some (if name = "print" then v.printed else v.printedDetail)
          | _ => none
        match name, shown with
        | "print", some text =>
          some <| .value do
            Run.emit (.output text)
            pure .unit
        | "debug", some text =>
          some <| .value do
            Run.emit (.debug (debugLine (← get).source pos text))
            pure .unit
        | _, _ => none

end ModHost.Script
