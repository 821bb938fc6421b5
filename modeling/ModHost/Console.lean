set_option autoImplicit false

/-!
# The console

A bounded buffer of what scripts print, oldest first. A full buffer drops its oldest
entry for every new one, and counts what it dropped.
-/

namespace ModHost

inductive ConsoleKind where
  | output
  | debug
deriving DecidableEq, Repr, Inhabited

def ConsoleKind.label : ConsoleKind → String
  | output => "output"
  | debug => "debug"

structure ConsoleEntry where
  kind : ConsoleKind
  text : String
deriving DecidableEq, Repr, Inhabited

structure Console where
  entries : List ConsoleEntry
  capacity : Nat
  dropped : Nat
deriving DecidableEq, Repr, Inhabited

namespace Console

def defaultCapacity : Nat := 256

/-- An empty console; it has room for one entry at least. -/
def ofCapacity (capacity : Nat) : Console := ⟨[], max capacity 1, 0⟩

/-- Drop the oldest entries, and count them, for as long as there are too many. -/
def evict (capacity : Nat) : List ConsoleEntry → Nat → List ConsoleEntry × Nat
  | [], dropped => ([], dropped)
  | oldest :: rest, dropped =>
    if (oldest :: rest).length > capacity then evict capacity rest (dropped + 1)
    else (oldest :: rest, dropped)

def push (c : Console) (e : ConsoleEntry) : Console :=
  let (entries, dropped) := evict c.capacity (c.entries ++ [e]) c.dropped
  { c with entries := entries, dropped := dropped }

/-- Everything buffered, and the console without it. -/
def drain (c : Console) : List ConsoleEntry × Console := (c.entries, { c with entries := [] })

def takeLines (c : Console) : List String × Console :=
  (c.entries.map (·.text), { c with entries := [] })

def length (c : Console) : Nat := c.entries.length

def isEmpty (c : Console) : Bool := c.entries.isEmpty

end Console

end ModHost
