set_option autoImplicit false

/-!
# Places in a script

Lines and columns count from one. Line `0` means "no place known"; column `0` with a
line means the line alone is known.
-/

namespace ModHost.Script

structure Position where
  line : Nat
  column : Nat
deriving DecidableEq, Repr, Inhabited

namespace Position

def unknown : Position := ⟨0, 0⟩

def start : Position := ⟨1, 0⟩

def isUnknown (p : Position) : Bool := p.line == 0

def advance (p : Position) : Position := { p with column := p.column + 1 }

def newLine (p : Position) : Position := ⟨p.line + 1, 0⟩

def text (p : Position) : String :=
  if p.isUnknown then "none" else s!"line {p.line}, position {p.column}"

/-- The place as the end of a message: nothing when it is unknown. -/
def suffix (p : Position) : String :=
  if p.isUnknown then "" else s!" ({p.text})"

def orElse (p q : Position) : Position := if p.isUnknown then q else p

end Position

end ModHost.Script
