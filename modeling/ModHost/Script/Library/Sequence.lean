import ModHost.Script.Library.Native

set_option autoImplicit false

/-!
# The array library

Functions of arrays that call nothing back. Places count from the start, or from the
end when negative; a part that reaches beyond the array is cut down to what there is.
-/

namespace ModHost.Script.Sequence

def measure? (name : String) (v : Value) : Option Value :=
  match name, v with
  | "len", .array xs => some (.int (Int64.ofNat xs.length))
  | "is_empty", .array xs => some (.bool xs.isEmpty)
  | _, _ => none

def indexFrom (v : Value) : List Value → Nat → Except Cause Int64
  | [], _ => .ok (-1)
  | x :: xs, i =>
    match x.equal v with
    | .ok true => .ok (Int64.ofNat i)
    | .ok false => indexFrom v xs (i + 1)
    | .error c => .error c

def containsItem (v : Value) : List Value → Except Cause Bool
  | [] => .ok false
  | x :: xs =>
    match x.equal v with
    | .ok false => containsItem v xs
    | r => r

def insertAt (xs : List Value) (i : Int64) (v : Value) : List Value :=
  let (at_, _) := partOf xs.length i.toInt 0
  xs.take at_ ++ v :: xs.drop at_

/-- Without repetitions of the item just before. -/
def dedup : List Value → List Value
  | [] => []
  | x :: xs => x :: go x xs
where
  go (last : Value) : List Value → List Value
    | [] => []
    | x :: xs =>
      match last.equal x with
      | .ok true => go last xs
      | _ => x :: go x xs

/-- Order of two values of one simple type. -/
def lessOrEqual? (a b : Value) : Option Bool :=
  match a, b with
  | .int x, .int y => some (x ≤ y)
  | .float x, .float y => some (x ≤ y)
  | .str x, .str y => some (x ≤ y)
  | .char x, .char y => some (x ≤ y)
  | .bool x, .bool y => some (!x || y)
  | .unit, .unit => some true
  | _, _ => none

def sort (xs : List Value) : Except Cause (List Value) :=
  let types := xs.map Value.typeName
  if xs.length ≤ 1 then .ok xs
  else if types.any (· ≠ types.headD "") then
    .error (.functionNotFound "sort() cannot be called with elements of different types")
  else .ok (xs.mergeSort fun a b => (lessOrEqual? a b).getD true)

def takePart (xs : List Value) (start count : Int) : List Value :=
  let (first, n) := partOf xs.length start count
  (xs.drop first).take n

def dropPart (xs : List Value) (start count : Int) : List Value :=
  let (first, n) := partOf xs.length start count
  xs.take first ++ xs.drop (first + n)

/-- With another array in the place of a part. -/
def spliced (xs : List Value) (start count : Int) (ys : List Value) : List Value :=
  let (first, n) := partOf xs.length start count
  xs.take first ++ ys ++ xs.drop (first + n)

def withInt? (name : String) (xs : List Value) (n : Int64) : Option Native :=
  let count := n.toInt.toNat
  match name with
  | "remove" =>
    match placeIn xs.length n with
    | some i => Native.becomeWith (.array (xs.eraseIdx i)) (xs.getD i .unit)
    | none => Native.ok .unit
  | "get" =>
    match placeIn xs.length n with
    | some i => Native.ok (xs.getD i .unit)
    | none => Native.ok .unit
  | "truncate" => Native.become (.array (xs.take count))
  | "chop" => Native.become (.array (xs.drop (xs.length - count)))
  | "extract" => Native.ok (.array (takePart xs n.toInt xs.length))
  | "split" =>
    let (at_, _) := partOf xs.length n.toInt 0
    Native.becomeWith (.array (xs.take at_)) (.array (xs.drop at_))
  | _ => none

def withPart? (name : String) (xs : List Value) (start count : Int) : Option Native :=
  match name with
  | "extract" => Native.ok (.array (takePart xs start count))
  | "drain" => Native.becomeWith (.array (dropPart xs start count))
      (.array (takePart xs start count))
  | "retain" => Native.becomeWith (.array (takePart xs start count))
      (.array (dropPart xs start count))
  | _ => none

def native? (name : String) (args : List Value) : Option Native :=
  match name, args with
  | "append", [.array xs, .array ys] => Native.become (.array (xs ++ ys))
  | "+=", [.array xs, .array ys] => Native.become (.array (xs ++ ys))
  | "+", [.array xs, .array ys] => Native.ok (.array (xs ++ ys))
  | "==", [.array xs, .array ys] =>
    some (.answer ((Value.equal (.array xs) (.array ys)).map .bool))
  | "!=", [.array xs, .array ys] =>
    some (.answer ((Value.equal (.array xs) (.array ys)).map fun b => .bool !b))
  | "pop", [.array xs] =>
    match xs.reverse with
    | [] => Native.ok .unit
    | x :: rest => Native.becomeWith (.array rest.reverse) x
  | "shift", [.array xs] =>
    match xs with
    | [] => Native.ok .unit
    | x :: rest => Native.becomeWith (.array rest) x
  | "clear", [.array _] => Native.become (.array [])
  | "reverse", [.array xs] => Native.become (.array xs.reverse)
  | "dedup", [.array xs] => Native.become (.array (dedup xs))
  | "sort", [.array xs] =>
    some (.update ((sort xs).map fun ys => (.unit, .array ys)))
  | "extract", [.array xs, .range a b inclusive]
  | "drain", [.array xs, .range a b inclusive]
  | "retain", [.array xs, .range a b inclusive] =>
    let (start, count) := rangePart a b inclusive
    withPart? name xs start count
  | "splice", [.array xs, .range a b inclusive, .array ys] =>
    let (start, count) := rangePart a b inclusive
    Native.become (.array (spliced xs start count ys))
  | name, [.array xs, .int a, .int b] => withPart? name xs a.toInt b.toInt
  | "splice", [.array xs, .int start, .int count, .array ys] =>
    Native.become (.array (spliced xs start.toInt count.toInt ys))
  | name, [.array xs, .int n] => withInt? name xs n
  | name, [v] => (measure? name v).map fun r => .answer (.ok r)
  | _, _ => none

def anyNative? (name : String) (args : List Value) : Option Native :=
  match name, args with
  | "push", [.array xs, v] => Native.become (.array (xs ++ [v]))
  | "+=", [.array xs, v] => Native.become (.array (xs ++ [v]))
  | "contains", [.array xs, v] => some (.answer ((containsItem v xs).map .bool))
  | "index_of", [.array xs, v] => some (.answer ((indexFrom v xs 0).map .int))
  | "index_of", [.array xs, v, .int start] =>
    let (first, _) := partOf xs.length start.toInt 0
    some (.answer ((indexFrom v (xs.drop first) first).map .int))
  | "insert", [.array xs, .int i, v] => Native.become (.array (insertAt xs i v))
  | "set", [.array xs, .int i, v] =>
    match placeIn xs.length i with
    | some at_ => Native.become (.array (xs.set at_ v))
    | none => Native.become (.array xs)
  | "pad", [.array xs, .int n, v] =>
    Native.become (.array (xs ++ List.replicate (n.toInt.toNat - xs.length) v))
  | _, _ => none

end ModHost.Script.Sequence
