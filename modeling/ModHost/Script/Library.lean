import ModHost.Script.Library.Core
import ModHost.Script.Library.Math
import ModHost.Script.Library.Text
import ModHost.Script.Library.Sequence
import ModHost.Script.Library.Mapping

set_option autoImplicit false

/-!
# Libraries

A session chooses which libraries its scripts have. A call looks for a function of
exactly the types given before one that takes any value.
-/

namespace ModHost.Script

inductive Library where
  | core | math | text | sequence | mapping
deriving DecidableEq, Repr, Inhabited

namespace Library

def all : List Library := [core, math, text, sequence, mapping]

def name : Library → String
  | core => "core"
  | math => "math"
  | text => "string"
  | sequence => "array"
  | mapping => "map"

def ofName? (name : String) : Option Library := all.find? (·.name = name)

def native? (l : Library) (name : String) (args : List Value) : Option Native :=
  match l with
  | core => Core.native? name args
  | math => Math.native? name args
  | text => Text.native? name args
  | sequence => Sequence.native? name args
  | mapping => Mapping.native? name args

def anyNative? (l : Library) (name : String) (args : List Value) : Option Native :=
  match l with
  | core => Core.anyNative? name args
  | math => none
  | text => Text.anyNative? name args
  | sequence => Sequence.anyNative? name args
  | mapping => Mapping.anyNative? name args

/-- A property that a library gives to values of a type. -/
def property? (l : Library) (name : String) (v : Value) : Option Value :=
  match l with
  | core => Core.measure? name v
  | math => Math.measure? name v
  | text => Text.measure? name v
  | sequence => Sequence.measure? name v
  | mapping => Mapping.measure? name v

end Library

end ModHost.Script
