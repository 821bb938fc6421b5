import ModHost.Decimal

set_option autoImplicit false

/-!
# JSON documents

The values of a JSON document and their text. An object keeps its entries in the order
in which they are to be written; what a reader makes has them sorted by key, one entry
a key. Two texts are written: a compact one, and one with a line for each item, two
spaces deeper than the line of its container.
-/

namespace ModHost

inductive Json where
  | null
  | bool (b : Bool)
  /-- An integer; those from `-2 ^ 63` up to `2 ^ 64 - 1` can be read back. -/
  | int (n : Int)
  | float (x : Float)
  | str (s : String)
  | arr (items : List Json)
  | obj (entries : List (String × Json))
deriving Inhabited

namespace Json

def insert (key : String) (value : Json) : List (String × Json) → List (String × Json)
  | [] => [(key, value)]
  | (k, v) :: rest =>
    if key = k then (key, value) :: rest
    else if key < k then (key, value) :: (k, v) :: rest
    else (k, v) :: insert key value rest

/-- An object with sorted entries; of two entries with one key the later stays. -/
def ofEntries (entries : List (String × Json)) : Json :=
  .obj (entries.foldl (fun m (k, v) => insert k v m) [])

def lookup (key : String) : List (String × Json) → Option Json
  | [] => none
  | (k, v) :: rest => if k = key then some v else lookup key rest

def get? (key : String) : Json → Option Json
  | obj entries => lookup key entries
  | _ => none

def field (j : Json) (name : String) : Json := (j.get? name).getD .null

def flag : Json → Bool
  | bool b => b
  | _ => false

def integer : Json → Int
  | int n => n
  | _ => 0

def natural (j : Json) : Nat := j.integer.toNat

def text : Json → String
  | str s => s
  | _ => ""

def elements : Json → List Json
  | arr items => items
  | _ => []

def present? : Json → Option Json
  | null => none
  | j => some j

mutual

/-- Equality of documents. Integers and floats are different numbers; floats are compared
as numbers. -/
def same : Json → Json → Bool
  | null, null => true
  | bool a, bool b => a = b
  | int a, int b => a = b
  | float x, float y => x == y
  | str a, str b => a = b
  | arr a, arr b => sameItems a b
  | obj a, obj b => sameEntries a b
  | _, _ => false

def sameItems : List Json → List Json → Bool
  | [], [] => true
  | a :: as, b :: bs => same a b && sameItems as bs
  | _, _ => false

def sameEntries : List (String × Json) → List (String × Json) → Bool
  | [], [] => true
  | (k, a) :: as, (l, b) :: bs => k = l && same a b && sameEntries as bs
  | _, _ => false

end

def escape (c : Char) : String :=
  if c = '"' then "\\\""
  else if c = '\\' then "\\\\"
  else if c = '\n' then "\\n"
  else if c = '\r' then "\\r"
  else if c = '\t' then "\\t"
  else if c = '\x08' then "\\b"
  else if c = '\x0c' then "\\f"
  else if c.toNat < 32 then
    String.ofList ['\\', 'u', '0', '0', Nat.digitChar (c.toNat / 16), Nat.digitChar (c.toNat % 16)]
  else String.ofList [c]

def stringText (s : String) : String := "\"" ++ String.join (s.toList.map escape) ++ "\""

/-- A float; one that is no number is written as nothing. -/
def floatText (x : Float) : String := if x.isFinite then FloatStyle.json.render x else "null"

mutual

def compact : Json → String
  | null => "null"
  | bool b => if b then "true" else "false"
  | int n => toString n
  | float x => floatText x
  | str s => stringText s
  | arr items => "[" ++ compactItems items ++ "]"
  | obj entries => "\x7b" ++ compactEntries entries ++ "\x7d"

def compactItems : List Json → String
  | [] => ""
  | [j] => compact j
  | j :: rest => compact j ++ "," ++ compactItems rest

def compactEntries : List (String × Json) → String
  | [] => ""
  | [(k, j)] => stringText k ++ ":" ++ compact j
  | (k, j) :: rest => stringText k ++ ":" ++ compact j ++ "," ++ compactEntries rest

end

def newline (depth : Nat) : String := "\n" ++ String.ofList (List.replicate (2 * depth) ' ')

mutual

/-- Text over several lines, inside containers of the given depth. -/
def prettyAt (depth : Nat) : Json → String
  | arr [] => "[]"
  | arr items => "[" ++ prettyItems (depth + 1) items ++ newline depth ++ "]"
  | obj [] => "\x7b\x7d"
  | obj entries => "\x7b" ++ prettyEntries (depth + 1) entries ++ newline depth ++ "\x7d"
  | null => "null"
  | bool b => if b then "true" else "false"
  | int n => toString n
  | float x => floatText x
  | str s => stringText s

def prettyItems (depth : Nat) : List Json → String
  | [] => ""
  | [j] => newline depth ++ prettyAt depth j
  | j :: rest => newline depth ++ prettyAt depth j ++ "," ++ prettyItems depth rest

def prettyEntries (depth : Nat) : List (String × Json) → String
  | [] => ""
  | [(k, j)] => newline depth ++ stringText k ++ ": " ++ prettyAt depth j
  | (k, j) :: rest =>
    newline depth ++ stringText k ++ ": " ++ prettyAt depth j ++ "," ++ prettyEntries depth rest

end

def pretty (j : Json) : String := prettyAt 0 j

end Json

end ModHost
