import ModHost.Log
import ModHost.ScriptError

set_option autoImplicit false

/-!
# Native bindings

Functions that the embedding host gives to scripts, beside those every session has. A
binding is a name, an arity, and a function of script values that answers or refuses.
A table is checked as a whole before any of it is installed: for each entry in turn its
name must be an identifier, must not be a host function's, must not have occurred
before, and its arity must be at most four.
-/

namespace ModHost

open Script (Value)

structure Binding where
  name : String
  arity : Nat
  call : List Value → Except String Value

abbrev BindingTable := List Binding

def hostFunctions : List String := ["hook_event", "log", "random_range", "is_server"]

def maxBindingArity : Nat := 4

namespace Binding

def isLetter (c : Char) : Bool := ('a' ≤ c && c ≤ 'z') || ('A' ≤ c && c ≤ 'Z')

def isIdentifier (name : String) : Bool :=
  match name.toList with
  | [] => false
  | c :: rest =>
    (isLetter c || c = '_') && rest.all fun c => isLetter c || c.isDigit || c = '_'

/-- What is wrong with an entry after those with the given names. -/
def fault? (seen : List String) (b : Binding) : Option String :=
  if !isIdentifier b.name then some s!"binding name '{b.name}' is not a valid identifier"
  else if hostFunctions.contains b.name then
    some s!"binding '{b.name}' shadows a host function"
  else if seen.contains b.name then some s!"binding '{b.name}' is declared twice"
  else if b.arity > maxBindingArity then
    some (s!"binding '{b.name}' takes {b.arity} arguments; at most {maxBindingArity}"
      ++ " are supported")
  else none

def text (b : Binding) : String :=
  "NativeBinding \x7b name: " ++ quoted b.name ++ ", arity: " ++ toString b.arity
    ++ " \x7d"

end Binding

namespace BindingTable

def firstFault? (seen : List String) : BindingTable → Option String
  | [] => none
  | b :: rest =>
    match b.fault? seen with
    | some message => some message
    | none => firstFault? (seen ++ [b.name]) rest

def register (installed : BindingTable) (b : Binding) : BindingTable :=
  installed.filter (fun c => !(c.name = b.name && c.arity = b.arity)) ++ [b]

/-- Install a table beside the bindings that an engine has: the answer, the bindings it has then,
and what is logged. Every entry is checked before any is registered. -/
def installInto (t installed : BindingTable) :
    Except ScriptError Nat × BindingTable × List LogEvent :=
  match firstFault? [] t with
  | some message => (.error (.setup message), installed, [])
  | none =>
    (.ok t.length, t.foldl register installed,
      [.debug s!"Installed {t.length} native binding(s)"])

def install (t : BindingTable) : Except ScriptError (BindingTable × List LogEvent) :=
  match t.installInto [] with
  | (.error e, _, _) => .error e
  | (.ok _, installed, log) => .ok (installed, log)

/-- The binding that a call of this name with so many arguments reaches. -/
def find? (t : BindingTable) (name : String) (arity : Nat) : Option Binding :=
  List.find? (fun b => b.name = name && b.arity = arity) t

def text (t : BindingTable) : String :=
  "BindingTable \x7b entries: [" ++ ", ".intercalate (t.map Binding.text) ++ "] \x7d"

end BindingTable

namespace Binding

def number (args : List Value) (i : Nat) : Except String Float32 :=
  match args[i]? with
  | some (.float x) => .ok x.toFloat32
  | some (.int n) => .ok n.toFloat32
  | some v => .error s!"argument {i} expects a number, got {v.nativeTypeName}"
  | none => .error s!"missing argument {i}"

def integer (args : List Value) (i : Nat) : Except String Int64 :=
  match args[i]? with
  | some (.int n) => .ok n
  | some v => .error s!"argument {i} expects an integer, got {v.nativeTypeName}"
  | none => .error s!"missing argument {i}"

def angleToRadians : Float32 := Float32.ofBits 0x40c90fdb / 65536

def least (x y : Float32) : Float32 :=
  if x.isNaN then y else if y.isNaN then x else if y < x then y else x

def greatest (x y : Float32) : Float32 :=
  if x.isNaN then y else if y.isNaN then x else if x < y then y else x

/-- Step from `current` toward `target`, by at most `inc` up or `dec` down. -/
def approachFloat (current target inc dec : Float32) : Float32 :=
  if current < target then least (current + inc) target else greatest (current - dec) target

def saturate (n : Int) : Int64 :=
  if n < Int64.minValue.toInt then Int64.minValue
  else if n > Int64.maxValue.toInt then Int64.maxValue
  else Int64.ofInt n

/-- The same step on integers; a sum out of range counts as the nearest in range. -/
def approachInt (current target inc dec : Int64) : Int64 :=
  if current < target then
    let next := saturate (current.toInt + inc.toInt)
    if next < target then next else target
  else
    let next := saturate (current.toInt - dec.toInt)
    if next < target then target else next

def approachF32 : Binding :=
  ⟨"approach_f32", 4, fun args => do
    let current ← number args 0
    let target ← number args 1
    let inc ← number args 2
    let dec ← number args 3
    pure (.float (approachFloat current target inc dec).toFloat)⟩

def approachS32 : Binding :=
  ⟨"approach_s32", 4, fun args => do
    let current ← integer args 0
    let target ← integer args 1
    let inc ← integer args 2
    let dec ← integer args 3
    pure (.int (approachInt current target inc dec))⟩

def radians (angle : Int64) : Float32 := angle.toInt16.toFloat32 * angleToRadians

def sins : Binding :=
  ⟨"sins", 1, fun args => do pure (.float (radians (← integer args 0)).sin.toFloat)⟩

def coss : Binding :=
  ⟨"coss", 1, fun args => do pure (.float (radians (← integer args 0)).cos.toFloat)⟩

def atan2s : Binding :=
  ⟨"atan2s", 2, fun args => do
    let y ← number args 0
    let x ← number args 1
    let turns := Float32.atan2 y x / angleToRadians
    pure (.int turns.round.toInt32.toInt16.toInt64)⟩

def vec3fLength : Binding :=
  ⟨"vec3f_length", 3, fun args => do
    let x ← number args 0
    let y ← number args 1
    let z ← number args 2
    pure (.float (x * x + y * y + z * z).sqrt.toFloat)⟩

end Binding

def BindingTable.stock : BindingTable :=
  [.approachF32, .approachS32, .sins, .coss, .atan2s, .vec3fLength]

end ModHost
