import ModHost.Proxy
import ModHost.Script.Operator

set_option autoImplicit false

/-!
# Native functions

What a native function does with its arguments. One that takes its first argument in
place may change it, and for that reason refuses a constant, even when it changes
nothing.
-/

namespace ModHost.Script

inductive Native where
  | answer (r : Except Cause Value)
  | update (r : Except Cause (Value × Value))
  /-- Fails with a fault that has a place of its own. -/
  | fail (e : EvalError)

namespace Native

def ok (v : Value) : Option Native := some (.answer (.ok v))

def int (n : Int64) : Option Native := ok (.int n)

def nat (n : Nat) : Option Native := ok (.int (Int64.ofNat n))

def bool (b : Bool) : Option Native := ok (.bool b)

def float (x : Float) : Option Native := ok (.float x)

def str (s : String) : Option Native := ok (.str s)

def fault (c : Cause) : Option Native := some (.answer (.error c))

def become (target : Value) : Option Native := some (.update (.ok (.unit, target)))

def becomeWith (target result : Value) : Option Native := some (.update (.ok (result, target)))

end Native

/-- A place counted from the start, or from the end when negative. -/
def placeIn (length : Nat) (i : Int64) : Option Nat :=
  let n := i.toInt
  if n < 0 then
    if (-n).toNat ≤ length then some (length - (-n).toNat) else none
  else if n.toNat < length then some n.toNat else none

/-- Start and length of a part of a sequence, cut down to what there is. -/
def partOf (length : Nat) (start count : Int) : Nat × Nat :=
  let first :=
    if start < 0 then length - (-start).toNat
    else min start.toNat length
  if 0 ≤ start ∧ length ≤ start.toNat then (length, 0)
  else (first, if count ≤ 0 then 0 else min count.toNat (length - first))

def rangePart (first last : Int64) (inclusive : Bool) : Int × Int :=
  let start := max first.toInt 0
  let stop := max last.toInt start
  (start, stop - start + (if inclusive then 1 else 0))

mutual

/-- Whether two values are equal; `none` when their common type has no equality. -/
def Value.equal? : Value → Value → Option Bool
  | .array xs, .array ys => if xs.length = ys.length then equalItems? xs ys else some false
  | .map xs, .map ys => if xs.length = ys.length then equalEntries? xs ys else some false
  | .player a, .player b => some (a = b)
  | .fn _ _, .fn _ _ => none
  | .stream _ _, .stream _ _ => none
  | a, b =>
    match Operator.binary "==" a b with
    | some (.ok (.bool r)) => some r
    | _ => some false

def equalItems? : List Value → List Value → Option Bool
  | x :: xs, y :: ys =>
    match Value.equal? x y with
    | some true => equalItems? xs ys
    | r => r
  | _, _ => some true

def equalEntries? : List (String × Value) → List (String × Value) → Option Bool
  | (k, x) :: xs, (k', y) :: ys =>
    if k = k' then
      match Value.equal? x y with
      | some true => equalEntries? xs ys
      | r => r
    else some false
  | _, _ => some true

end

def noEquality (a b : Value) : Cause :=
  .functionNotFound s!"== ({a.signatureName}, {b.signatureName})"

def Value.equal (a b : Value) : Except Cause Bool :=
  match Value.equal? a b with
  | some r => .ok r
  | none => .error (noEquality a b)

namespace Value

mutual

/-- Detailed text as scripts print it, in which a proxy shows what it holds and a function
only its name. -/
def printedDetail : Value → String
  | array items => "[" ++ printedItems items ++ "]"
  | map entries => "#\x7b" ++ printedEntries entries ++ "\x7d"
  | player slot => Proxy.debugText .playerState slot
  | fn name given => (fn name given).displayText
  | v => v.debugText

def printedItems : List Value → String
  | [] => ""
  | [v] => printedDetail v
  | v :: rest => printedDetail v ++ ", " ++ printedItems rest

def printedEntries : List (String × Value) → String
  | [] => ""
  | [(k, v)] => quoted k ++ ": " ++ printedDetail v
  | (k, v) :: rest => quoted k ++ ": " ++ printedDetail v ++ ", " ++ printedEntries rest

end

def printed : Value → String
  | array items => (array items).printedDetail
  | map entries => (map entries).printedDetail
  | player slot => Proxy.text .playerState slot
  | v => v.displayText

end Value

end ModHost.Script
