import ModHost.Script.Library.Native

set_option autoImplicit false

/-!
# Parts of values

Arrays, maps, strings and integers have parts that an index reaches without a function:
items, entries, characters, bits. A part can be read, and replaced by a new value.
-/

namespace ModHost.Script

inductive Part where
  | item (i : Nat)
  | entry (key : String)
  | character (i : Nat)
  | bit (i : Nat)
deriving Repr, DecidableEq

namespace Part

def at? (length : Nat) (i : Int64) (outside : Nat → Int → Cause) : Except Cause Nat :=
  match placeIn length i with
  | some n => .ok n
  | none => .error (outside length i.toInt)

def bitOf (n : Int64) (i : Nat) : Bool := n.toUInt64.toNat.testBit i

/-- The part that an index reaches, with its value; nothing for values without parts. -/
def find? (v index : Value) : Option (Except Cause (Part × Value)) :=
  match v, index with
  | .array xs, .int i =>
    some ((at? xs.length i .arrayBounds).map fun n => (.item n, xs.getD n .unit))
  | .map es, .str key => some (.ok (.entry key, (Value.lookup key es).getD .unit))
  | .str s, .int i =>
    let cs := s.toList
    some ((at? cs.length i .stringBounds).map fun n => (.character n, .char (cs.getD n ' ')))
  | .int n, .int i => some ((at? 64 i .bitBounds).map fun k => (.bit k, .bool (bitOf n k)))
  | .map _, index => some (.error (.mismatch "string" index.nativeTypeName))
  | .array _, index | .str _, index | .int _, index =>
    some (.error (.mismatch "i64" index.nativeTypeName))
  | _, _ => none

def replace (v : Value) (p : Part) (x : Value) : Except Cause Value :=
  match v, p, x with
  | .array xs, .item i, x => .ok (.array (xs.set i x))
  | .map es, .entry key, x => .ok (.map (Value.insert key x es))
  | .str s, .character i, .char c => .ok (.str (String.ofList (s.toList.set i c)))
  | .str _, .character _, x => .error (.mismatch "char" x.nativeTypeName)
  | .int n, .bit i, .bool b =>
    let mask : Nat := 1 <<< i
    let bits := n.toUInt64.toNat
    let bits := if b then bits ||| mask else bits - (bits &&& mask)
    .ok (.int (UInt64.ofNat bits).toInt64)
  | .int _, .bit _, x => .error (.mismatch "bool" x.nativeTypeName)
  | v, _, _ => .ok v

end Part

end ModHost.Script
