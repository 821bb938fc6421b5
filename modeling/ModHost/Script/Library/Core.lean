import ModHost.Script.Library.Native

set_option autoImplicit false

/-!
# The core library

Signs and parity of numbers, texts of values, ranges by step, the characters of a text
and the bits of an integer one by one, and what a function pointer is.
-/

namespace ModHost.Script.Core

def radixText (base : Nat) (n : Int64) : String :=
  String.ofList (Nat.toDigits base n.toUInt64.toNat)

def stepRangeName : String := "packages::iter_basic::StepRange<i64>"

def floatRangeName : String := "packages::iter_basic::StepRange<f64>"

def charsName : String := "packages::iter_basic::CharsStream"

def bitsName : String := "packages::iter_basic::BitRange"

/-- Numbers from `first` up or down to `last`, which is left out, by a nonzero step. -/
def steps (first last step : Int) : List Value :=
  let count :=
    if step > 0 then (last - first + step - 1) / step else (first - last - step - 1) / (-step)
  (List.range count.toNat).map fun (i : Nat) => Value.int (Int64.ofInt (first + Int.ofNat i * step))

def floatSteps (first last step : Float) : Nat → List Value
  | 0 => []
  | fuel + 1 =>
    if (step > 0 && first < last) || (step < 0 && first > last) then
      .float first :: floatSteps (first + step) last step fuel
    else []

def idleStep : Option Native :=
  some (.fail (.inFunction "range" "" (.raised (.arithmetic "step value cannot be zero") .unknown)
    .unknown))

def stepRange (first last step : Int64) : Option Native :=
  if step = 0 then idleStep
  else Native.ok (.stream stepRangeName (steps first.toInt last.toInt step.toInt))

/-- A part of the characters of a text, a start before it counting from the end. -/
def charsFrom (s : String) (start count : Int) : Value :=
  let cs := s.toList
  let first := if start < 0 then cs.length - (-start).toNat else start.toNat
  .stream charsName (((cs.drop first).take count.toNat).map .char)

def bitsFrom (n start : Int64) (count : Int) : Option Native :=
  match placeIn 64 start with
  | none => Native.fault (.bitBounds 64 start.toInt)
  | some first =>
    let bits := n.toUInt64.toNat
    Native.ok (.stream bitsName
      ((List.range (min count.toNat (64 - first))).map fun i => .bool (bits.testBit (first + i))))

def sign (x : Float) : Option Native :=
  if x.isNaN then Native.fault (.arithmetic "Sign of NaN is undefined")
  else Native.int (if x == 0 then 0 else if x > 0 then 1 else -1)

/-- Functions of numbers that can also be read as properties. -/
def measure? (name : String) (v : Value) : Option Value :=
  match name, v with
  | "is_zero", .int n => some (.bool (n == 0))
  | "is_zero", .float x => some (.bool (x == 0))
  | "is_odd", .int n => some (.bool (n % 2 != 0))
  | "is_even", .int n => some (.bool (n % 2 == 0))
  | "start", .range a _ _ => some (.int a)
  | "end", .range _ b _ => some (.int b)
  | "is_inclusive", .range _ _ inclusive => some (.bool inclusive)
  | "is_exclusive", .range _ _ inclusive => some (.bool !inclusive)
  | "is_empty", .range a b inclusive => some (.bool (if inclusive then b < a else b ≤ a))
  | "name", .fn name _ => some (.str name)
  | "is_anonymous", .fn name _ => some (.bool (isAnonymous name))
  | "chars", .str s => some (.stream charsName (s.toList.map .char))
  | "bits", .int n => some (.stream bitsName
      ((List.range 64).map fun i => .bool (n.toUInt64.toNat.testBit i)))
  | _, _ => none

def native? (name : String) (args : List Value) : Option Native :=
  match name, args with
  | "-", [.int n] => some (.answer (Integer.neg n))
  | "-", [.float x] => Native.float (-x)
  | "+", [.int n] => Native.int n
  | "+", [.float x] => Native.float x
  | "abs", [.int n] => if n < 0 then some (.answer (Integer.neg n)) else Native.int n
  | "abs", [.float x] => Native.float x.abs
  | "sign", [.int n] => Native.int (if n = 0 then 0 else if n > 0 then 1 else -1)
  | "sign", [.float x] => sign x
  | "to_hex", [.int n] => Native.str (radixText 16 n)
  | "to_octal", [.int n] => Native.str (radixText 8 n)
  | "to_binary", [.int n] => Native.str (radixText 2 n)
  | "range", [.int a, .int b] => Native.ok (.range a b false)
  | "range", [.int a, .int b, .int step] => stepRange a b step
  | "range", [.range a b false, .int step] => stepRange a b step
  | "range", [.float a, .float b, .float step] =>
    if a + step == a then idleStep
    else Native.ok (.stream floatRangeName (floatSteps a b step 1000000))
  | "contains", [.range a b inclusive, .int n] =>
    let inside := a ≤ n && (if inclusive then n ≤ b else n < b)
    some (.update (.ok (.bool inside, .range a b inclusive)))
  | "chars", [.str s, .int start] => Native.ok (charsFrom s start.toInt s.length)
  | "chars", [.str s, .int start, .int count] => Native.ok (charsFrom s start.toInt count.toInt)
  | "chars", [.str s, .range a b inclusive] =>
    let (start, count) := rangePart a b inclusive
    Native.ok (charsFrom s start count)
  | "bits", [.int n, .int start] => bitsFrom n start 64
  | "bits", [.int n, .int start, .int count] => bitsFrom n start count.toInt
  | name, [v] => (measure? name v).map fun r => .answer (.ok r)
  | _, _ => none

def anyNative? (name : String) (args : List Value) : Option Native :=
  match name, args with
  | "to_string", [v] => Native.str v.printed
  | "to_debug", [v] => Native.str v.printedDetail
  | "take", [v] => Native.becomeWith .unit v
  | "exit", [] => Native.fault (.exited .unit)
  | "exit", [v] => Native.fault (.exited v)
  | _, _ => none

/-- What a value yields when a loop runs over it. -/
def items? : Value → Option (List Value)
  | .stream _ items => some items
  | .str s => some (s.toList.map .char)
  | _ => none

end ModHost.Script.Core
