import ModHost.Letters
import ModHost.Script.Library.Native

set_option autoImplicit false

/-!
# The string library

Functions of strings and characters. Places and lengths count characters. Functions
that change a string answer nothing and leave the new string in its place.
-/

namespace ModHost.Script.Text

def trim (s : String) : String :=
  String.ofList ((s.toList.dropWhile isBlank).reverse.dropWhile isBlank).reverse

/-- Where `part` first occurs in `cs`, counted from `at_`. -/
def indexOf (part : List Char) : List Char → Nat → Option Nat
  | [], at_ => if part.isEmpty then some at_ else none
  | c :: cs, at_ => if part.isPrefixOf (c :: cs) then some at_ else indexOf part cs (at_ + 1)

def indexFrom (s part : String) (start : Int) : Int64 :=
  let cs := s.toList
  let first := if start < 0 then cs.length - (-start).toNat else start.toNat
  if s = "" ∨ (0 ≤ start ∧ cs.length ≤ start.toNat) then -1
  else match indexOf part.toList (cs.drop first) first with
    | some i => Int64.ofNat i
    | none => -1

def sub (s : String) (start count : Int) : String :=
  let cs := s.toList
  let (first, n) := partOf cs.length start count
  String.ofList ((cs.drop first).take n)

def words (s : String) : List String :=
  let step (c : Char) (acc : List (List Char) × List Char) : List (List Char) × List Char :=
    if isBlank c then (if acc.2.isEmpty then acc else (acc.2 :: acc.1, []))
    else (acc.1, c :: acc.2)
  let (done, last) := s.toList.foldr step ([], [])
  (if last.isEmpty then done else last :: done).map String.ofList

def pieces (s separator : String) : List String :=
  if separator = "" then
    "" :: s.toList.map (fun c => String.ofList [c]) ++ [""]
  else s.splitOn separator

/-- The first pieces alone, and everything after them joined again as the last. -/
def piecesUpTo (s separator : String) (count : Int) : List String :=
  let all := pieces s separator
  let n := count.toNat
  if count < 1 then [s]
  else if all.length ≤ n then all
  else all.take (n - 1) ++ [separator.intercalate (all.drop (n - 1))]

/-- The last pieces alone, from the end, and everything before them as the last. -/
def lastPieces (s separator : String) (count : Int) : List String :=
  let all := pieces s separator
  let n := count.toNat
  if count < 1 then [s]
  else if all.length ≤ n then all.reverse
  else (all.drop (all.length - (n - 1))).reverse
    ++ [separator.intercalate (all.take (all.length - (n - 1)))]

def replaceAll (s part by_ : String) : String := by_.intercalate (pieces s part)

def pad (s : String) (count : Int) (filler : List Char) : String :=
  let have_ := s.toList
  let rec go : Nat → List Char → List Char
    | 0, cs => cs
    | fuel + 1, cs => if Int.ofNat cs.length < count then go fuel (cs ++ filler) else cs
  if filler.isEmpty then s
  else
    let full := go (count.toNat - have_.length) have_
    String.ofList (full.take (max have_.length count.toNat))

def remove (s part : String) : String := String.join (pieces s part)

def charText (c : Char) : String := String.ofList [c]

def textOf? : Value → Option String
  | .str s => some s
  | .char c => some (charText c)
  | _ => none

def strings (xs : List String) : Value := .array (xs.map .str)

def measure? (name : String) (v : Value) : Option Value :=
  match name, v with
  | "len", .str s => some (.int (Int64.ofNat s.length))
  | "is_empty", .str s => some (.bool (s = ""))
  | "bytes", .str s => some (.int (Int64.ofNat s.utf8ByteSize))
  | _, _ => none

def withText? (name s part : String) : Option Native :=
  match name with
  | "contains" => Native.bool (Operator.occurs part s)
  | "index_of" => Native.int (indexFrom s part 0)
  | "split" => Native.ok (strings (pieces s part))
  | "split_rev" => Native.ok (strings (pieces s part).reverse)
  | "remove" => Native.become (.str (remove s part))
  | _ => none

def withInt? (name s : String) (n : Int64) : Option Native :=
  let cs := s.toList
  match name with
  | "sub_string" => Native.str (sub s n.toInt cs.length)
  | "crop" => Native.become (.str (sub s n.toInt cs.length))
  | "truncate" => Native.become (.str (String.ofList (cs.take n.toInt.toNat)))
  | "pop" =>
    if n ≤ 0 then Native.str ""
    else
      let kept := cs.length - n.toInt.toNat
      Native.becomeWith (.str (String.ofList (cs.take kept)))
        (.str (String.ofList (cs.drop kept)))
  | "split" =>
    let at_ := if n < 0 then cs.length - (-n.toInt).toNat else min n.toInt.toNat cs.length
    Native.ok (strings [String.ofList (cs.take at_), String.ofList (cs.drop at_)])
  | "get" =>
    match placeIn cs.length n with
    | some i => Native.ok ((cs[i]?).elim .unit .char)
    | none => Native.ok .unit
  | _ => none

def native? (name : String) (args : List Value) : Option Native :=
  match name, args with
  | "trim", [.str s] => Native.become (.str (trim s))
  | "clear", [.str _] => Native.become (.str "")
  | "to_upper", [.str s] => Native.str (capitals s)
  | "to_lower", [.str s] => Native.str (smalls s)
  | "make_upper", [.str s] => Native.become (.str (capitals s))
  | "make_lower", [.str s] => Native.become (.str (smalls s))
  | "to_upper", [.char c] => Native.ok (.char (capital c))
  | "to_lower", [.char c] => Native.ok (.char (small c))
  | "make_upper", [.char c] => Native.become (.char (capital c))
  | "make_lower", [.char c] => Native.become (.char (small c))
  | "to_int", [.char c] => Native.nat c.toNat
  | "split", [.str s] => Native.ok (strings (words s))
  | "pop", [.str s] =>
    match s.toList.reverse with
    | [] => Native.ok .unit
    | c :: rest => Native.becomeWith (.str (String.ofList rest.reverse)) (.char c)
  | "starts_with", [.str s, .str part] => Native.bool (part.toList.isPrefixOf s.toList)
  | "ends_with", [.str s, .str part] => Native.bool (part.toList.isSuffixOf s.toList)
  | "+", [.str s, .unit] => Native.str s
  | "+", [.unit, .str s] => Native.str s
  | "sub_string", [.str s, .int start, .int count] =>
    Native.str (sub s start.toInt count.toInt)
  | "sub_string", [.str s, .range a b inclusive] =>
    let (start, count) := rangePart a b inclusive
    Native.str (sub s start count)
  | "crop", [.str s, .int start, .int count] =>
    Native.become (.str (sub s start.toInt count.toInt))
  | "crop", [.str s, .range a b inclusive] =>
    let (start, count) := rangePart a b inclusive
    Native.become (.str (sub s start count))
  | "set", [.str s, .int i, .char c] =>
    let cs := s.toList
    match placeIn cs.length i with
    | some at_ => Native.become (.str (String.ofList (cs.set at_ c)))
    | none => Native.become (.str s)
  | "pad", [.str s, .int n, .char c] => Native.become (.str (pad s n.toInt [c]))
  | "pad", [.str s, .int n, .str filler] => Native.become (.str (pad s n.toInt filler.toList))
  | "index_of", [.str s, part, .int start] =>
    (textOf? part).bind fun p => Native.int (indexFrom s p start.toInt)
  | "split", [.str s, part, .int n] =>
    (textOf? part).bind fun p => Native.ok (strings (piecesUpTo s p n.toInt))
  | "split_rev", [.str s, part, .int n] =>
    (textOf? part).bind fun p => Native.ok (strings (lastPieces s p n.toInt))
  | "to_chars", [.str s] => Native.ok (.array (s.toList.map .char))
  | "replace", [.str s, part, by_] =>
    match textOf? part, textOf? by_ with
    | some p, some b => Native.become (.str (replaceAll s p b))
    | _, _ => none
  | name, [.str s, .int n] => withInt? name s n
  | name, [.str s, .str part] => withText? name s part
  | name, [.str s, .char part] => withText? name s (charText part)
  | name, [v] => (measure? name v).map fun r => .answer (.ok r)
  | _, _ => none

/-- Joining a string with the text of any other value. -/
def anyNative? (name : String) (args : List Value) : Option Native :=
  match name, args with
  | "+", [.str s, v] => Native.str (s ++ v.printed)
  | "+", [v, .str s] => Native.str (v.printed ++ s)
  | _, _ => none

end ModHost.Script.Text
