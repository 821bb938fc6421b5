import ModHost.Script.EvalError

set_option autoImplicit false

/-!
# Built-in operators

Binary operators on simple values, which hold whatever libraries are chosen. Integer
arithmetic is checked: what does not fit 64 bits is an error. Values of different types
are unequal and unordered.
-/

namespace ModHost.Script

def int64? (n : Int) : Option Int64 :=
  if Int64.minValue.toInt ≤ n ∧ n ≤ Int64.maxValue.toInt then some (Int64.ofInt n) else none

namespace Integer

def checked (what symbol : String) (x y : Int64) (exact : Int) : Except Cause Value :=
  match int64? exact with
  | some r => .ok (.int r)
  | none => .error (.arithmetic s!"{what} overflow: {x.toInt} {symbol} {y.toInt}")

def add (x y : Int64) : Except Cause Value := checked "Addition" "+" x y (x.toInt + y.toInt)

def sub (x y : Int64) : Except Cause Value := checked "Subtraction" "-" x y (x.toInt - y.toInt)

def mul (x y : Int64) : Except Cause Value :=
  checked "Multiplication" "*" x y (x.toInt * y.toInt)

def div (x y : Int64) : Except Cause Value :=
  if y = 0 then .error (.arithmetic s!"Division by zero: {x.toInt} / {y.toInt}")
  else checked "Division" "/" x y (x.toInt.tdiv y.toInt)

def mod (x y : Int64) : Except Cause Value :=
  if y = 0 ∨ (y = -1 ∧ x = Int64.minValue) then
    .error (.arithmetic s!"Modulo division by zero or overflow: {x.toInt} % {y.toInt}")
  else .ok (.int (Int64.ofInt (x.toInt.tmod y.toInt)))

/-- Power by repeated squaring, `none` once a result is out of range. -/
def powNat (x : Int) (n : Nat) : Option Int64 :=
  if x = 0 ∨ x = 1 then int64? (if n = 0 then 1 else x)
  else if x = -1 then int64? (if n % 2 = 0 then 1 else -1)
  else if n > 64 then none
  else int64? (x.pow n)

def pow (x y : Int64) : Except Cause Value :=
  if y.toInt ≥ UInt32.size then
    .error (.arithmetic s!"Exponential overflow: {x.toInt} ** {y.toInt}")
  else if y.toInt < 0 then
    .error (.arithmetic s!"Integer raised to a negative power: {x.toInt} ** {y.toInt}")
  else match powNat x.toInt y.toInt.toNat with
    | some r => .ok (.int r)
    | none => .error (.arithmetic s!"Exponential overflow: {x.toInt} ** {y.toInt}")

/-- Shift by a signed amount: all bits are lost from 64 on, the sign stays. -/
def shift (x : Int64) (left : Int) : Int64 :=
  if left ≥ 64 then 0
  else if left ≥ 0 then Int64.ofInt (x.toInt * Int.pow 2 left.toNat)
  else if left ≤ -64 then (if x < 0 then -1 else 0)
  else Int64.ofInt (x.toInt.fdiv (Int.pow 2 (-left).toNat))

def neg (x : Int64) : Except Cause Value :=
  match int64? (-x.toInt) with
  | some r => .ok (.int r)
  | none => .error (.arithmetic s!"Negation overflow: -{x.toInt}")

end Integer

namespace Real

def parts (x : Float) : Nat × Int :=
  let bits := x.toBits.toNat % (1 <<< 63)
  let e : Nat := bits >>> 52
  let f := bits % (1 <<< 52)
  if e = 0 then (f, -1074) else (f + 1 <<< 52, Int.ofNat e - 1075)

/-- Remainder of truncated division, with the sign of the dividend. It is exact. -/
def mod (x y : Float) : Float :=
  if x.isNaN || y.isNaN || x.isInf || y == 0 then 0.0 / 0.0
  else if y.isInf then x
  else
    let (mx, ex) := parts x
    let (my, ey) := parts y
    let e := min ex ey
    let r := mx <<< (ex - e).toNat % my <<< (ey - e).toNat
    let magnitude := Float.scaleB (Float.ofNat r) e
    if x.toBits.toNat ≥ 1 <<< 63 then -magnitude else magnitude

/-- Nearest integer toward zero that fits 64 bits; no number is zero. -/
def truncate (x : Float) : Int64 := x.toInt64

end Real

namespace Operator

def compare {α : Type} [Ord α] (op : String) (x y : α) : Option Bool :=
  let o := Ord.compare x y
  match op with
  | "==" => some (o == .eq)
  | "!=" => some (o != .eq)
  | "<" => some (o == .lt)
  | "<=" => some (o != .gt)
  | ">" => some (o == .gt)
  | ">=" => some (o != .lt)
  | _ => none

def compareFloat (op : String) (x y : Float) : Option Bool :=
  match op with
  | "==" => some (x == y)
  | "!=" => some (x != y)
  | "<" => some (x < y)
  | "<=" => some (x ≤ y)
  | ">" => some (x > y)
  | ">=" => some (x ≥ y)
  | _ => none

def isComparison (op : String) : Bool :=
  ["==", "!=", "<", "<=", ">", ">="].contains op

def ints (op : String) (x y : Int64) : Option (Except Cause Value) :=
  match op with
  | "+" => some (Integer.add x y)
  | "-" => some (Integer.sub x y)
  | "*" => some (Integer.mul x y)
  | "/" => some (Integer.div x y)
  | "%" => some (Integer.mod x y)
  | "**" => some (Integer.pow x y)
  | "<<" => some (.ok (.int (Integer.shift x y.toInt)))
  | ">>" => some (.ok (.int (Integer.shift x (-y.toInt))))
  | "&" => some (.ok (.int (x &&& y)))
  | "|" => some (.ok (.int (x ||| y)))
  | "^" => some (.ok (.int (x ^^^ y)))
  | ".." => some (.ok (.range x y false))
  | "..=" => some (.ok (.range x y true))
  | op => (compare op x.toInt y.toInt).map fun b => .ok (.bool b)

def floats (op : String) (x y : Float) : Option (Except Cause Value) :=
  match op with
  | "+" => some (.ok (.float (x + y)))
  | "-" => some (.ok (.float (x - y)))
  | "*" => some (.ok (.float (x * y)))
  | "/" => some (.ok (.float (x / y)))
  | "%" => some (.ok (.float (Real.mod x y)))
  | "**" => some (.ok (.float (x.pow y)))
  | op => (compareFloat op x y).map fun b => .ok (.bool b)

def removeAll (s part : String) : String :=
  if part = "" then s else String.join (s.splitOn part)

def occurs (part s : String) : Bool :=
  part = "" || (s.splitOn part).length > 1

def strings (op : String) (x y : String) : Option (Except Cause Value) :=
  match op with
  | "+" => some (.ok (.str (x ++ y)))
  | "-" => some (.ok (.str (removeAll x y)))
  | "contains" => some (.ok (.bool (occurs y x)))
  | op => (compare op x y).map fun b => .ok (.bool b)

def bools (op : String) (x y : Bool) : Option (Except Cause Value) :=
  match op with
  | "&" => some (.ok (.bool (x && y)))
  | "|" => some (.ok (.bool (x || y)))
  | "^" => some (.ok (.bool (x != y)))
  | op => (compare op x.toNat y.toNat).map fun b => .ok (.bool b)

def sameType (a b : Value) : Bool := a.typeName = b.typeName

def binary (op : String) (a b : Value) : Option (Except Cause Value) :=
  let charString (c : Char) := String.ofList [c]
  match a, b with
  | .int x, .int y => ints op x y
  | .float x, .float y => floats op x y
  | .int x, .float y => floats op x.toFloat y
  | .float x, .int y => floats op x y.toFloat
  | .bool x, .bool y => bools op x y
  | .str x, .str y => strings op x y
  | .char x, .char y =>
    match op with
    | "+" => some (.ok (.str (String.ofList [x, y])))
    | op => (compare op x.toNat y.toNat).map fun b => .ok (.bool b)
  | .str x, .char y => strings op x (charString y)
  | .char x, .str y =>
    match op with
    | "-" | "contains" => none
    | op => strings op (charString x) y
  | .unit, .unit =>
    if isComparison op then some (.ok (.bool (op = "=="))) else none
  | .str x, .unit => if op = "+" then some (.ok (.str x)) else unlike op
  | .unit, .str y => if op = "+" then some (.ok (.str y)) else unlike op
  | .range first last inclusive, .int n =>
    if op = "contains" then
      some (.ok (.bool (first ≤ n && (if inclusive then n ≤ last else n < last))))
    else unlike op
  | .map entries, .str key =>
    if op = "contains" then some (.ok (.bool (Value.lookup key entries).isSome)) else unlike op
  | a, b => if sameType a b then none else unlike op
where
  unlike (op : String) : Option (Except Cause Value) :=
    if isComparison op then some (.ok (.bool (op = "!="))) else none

end Operator

end ModHost.Script
