import ModHost.Script.Interpreter

set_option autoImplicit false

/-!
# Namespaces

The host's globals, and what a unit sees of them. A unit starts with copies of all host
globals as its own variables; a name that it does not have is looked up in the host as
it is then.
-/

namespace ModHost

open Script (Value Variable Memory)

structure HostNamespace where
  globals : List (String × Value)
deriving Inhabited

namespace HostNamespace

def empty : HostNamespace := ⟨[]⟩

def define (h : HostNamespace) (name : String) (value : Value) : HostNamespace :=
  ⟨Value.insert name value h.globals⟩

def get (h : HostNamespace) (name : String) : Option Value := Value.lookup name h.globals

def contains (h : HostNamespace) (name : String) : Bool := (h.get name).isSome

def length (h : HostNamespace) : Nat := h.globals.length

def isEmpty (h : HostNamespace) : Bool := h.globals.isEmpty

def absorb (h : HostNamespace) (scope : List (String × Value)) : HostNamespace :=
  scope.foldl (fun h (name, value) => h.define name value) h

/-- The memory a unit starts with: a variable for each global, none constant. -/
def seed (h : HostNamespace) : Memory :=
  ⟨(h.globals.map fun (name, value) => (⟨name, value, false⟩ : Variable)).reverse, #[]⟩

end HostNamespace

/-- What a unit with this memory sees under a name. -/
def lookupName (host : HostNamespace) (memory : Memory) (name : String) : Option Value :=
  match memory.lookup name with
  | some v => some v
  | none => host.get name

end ModHost
