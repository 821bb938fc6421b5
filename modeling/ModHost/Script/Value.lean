import ModHost.Decimal
import ModHost.Quoting

set_option autoImplicit false

/-!
# Script values

The dynamic values of the script language. A function pointer is a name with the
arguments already given to it. A captured variable is a reference to a cell of the
unit's memory; such references occur only in variables and in given arguments.
Maps are kept sorted by key, one entry a key.
-/

namespace ModHost.Script

inductive Value where
  | unit
  | bool (b : Bool)
  | int (n : Int64)
  | float (x : Float)
  | char (c : Char)
  | str (s : String)
  | array (items : List Value)
  | blob (bytes : List UInt8)
  | map (entries : List (String × Value))
  | range (first last : Int64) (inclusive : Bool)
  | stream (kind : String) (items : List Value)
  | fn (name : String) (given : List Value)
  /-- A player record of the host, by its slot. -/
  | player (slot : Nat)
  /-- A captured variable, by its cell. -/
  | shared (cell : Nat)
deriving Inhabited

def anonymousMark : String := "anon$"

def isAnonymous (name : String) : Bool := name.startsWith anonymousMark

namespace Value

def typeName : Value → String
  | unit => "()"
  | bool _ => "bool"
  | int _ => "i64"
  | float _ => "f64"
  | char _ => "char"
  | str _ => "string"
  | array _ => "array"
  | blob _ => "blob"
  | map _ => "map"
  | range _ _ false => "range"
  | range _ _ true => "range="
  | stream kind _ => kind
  | fn _ _ => "Fn"
  | player _ => "ObjectProxy"
  | shared _ => "shared"

/-- Name of a value's type in the signature of a call: a string shows the three forms
in which a native function may take it. -/
def signatureName : Value → String
  | str _ => "&str | ImmutableString | String"
  | v => v.typeName

def nativeTypeName : Value → String
  | player _ => "kestrel_modding::proxy::ObjectProxy"
  | range _ _ false => "core::ops::range::Range<i64>"
  | range _ _ true => "core::ops::range::RangeInclusive<i64>"
  | stream kind _ => "rhai::" ++ kind
  | v => v.typeName

end Value

def naturalFloatMax : Float := (Float32.ofScientific 10000000000000 false 0).toFloat

def naturalFloatMin : Float := (Float32.ofScientific 1 true 13).toFloat

/-- A float as scripts print it: `0.0` for both zeros, an exponent for very large and
very small values, and `.0` after a whole number. -/
def floatText (x : Float) : String :=
  let magnitude := x.abs
  if magnitude == 0 then "0.0"
  else if magnitude > naturalFloatMax || magnitude < naturalFloatMin then
    FloatStyle.exponent.render x
  else
    let body := FloatStyle.plain.render x
    if body.contains '.' || x.isNaN then body else body ++ ".0"

def hexByte (b : UInt8) : String :=
  String.ofList [Nat.digitChar (b.toNat / 16), Nat.digitChar (b.toNat % 16)]

def blobText (bytes : List UInt8) : String :=
  "[" ++ String.join (bytes.zipIdx.map fun (b, i) =>
    (if i = 0 then "" else if i % 8 = 0 then " " else "") ++ hexByte b) ++ "]"

namespace Value

mutual

def debugText : Value → String
  | unit => "()"
  | bool b => if b then "true" else "false"
  | int n => toString n.toInt
  | float x => FloatStyle.detailed.render x
  | char c => quotedChar c
  | str s => quoted s
  | array items => "[" ++ debugItems items ++ "]"
  | blob bytes => blobText bytes
  | map entries => "#\x7b" ++ debugEntries entries ++ "\x7d"
  | range a b inclusive =>
    toString a.toInt ++ (if inclusive then "..=" else "..") ++ toString b.toInt
  | stream kind items => (stream kind items).nativeTypeName
  | fn name given =>
    (if isAnonymous name then "Fn*(" else "Fn(") ++ quoted name ++ debugGiven given ++ ")"
  | player _ => "kestrel_modding::proxy::ObjectProxy"
  | shared _ => "<shared>"

def debugItems : List Value → String
  | [] => ""
  | [v] => debugText v
  | v :: rest => debugText v ++ ", " ++ debugItems rest

def debugEntries : List (String × Value) → String
  | [] => ""
  | [(k, v)] => quoted k ++ ": " ++ debugText v
  | (k, v) :: rest => quoted k ++ ": " ++ debugText v ++ ", " ++ debugEntries rest

def debugGiven : List Value → String
  | [] => ""
  | v :: rest => ", " ++ debugText v ++ debugGiven rest

end

def displayText : Value → String
  | unit => ""
  | float x => floatText x
  | char c => String.ofList [c]
  | str s => s
  | fn name _ => "Fn(" ++ name ++ ")"
  | v => v.debugText

def lookup (key : String) : List (String × Value) → Option Value
  | [] => none
  | (k, v) :: rest => if k = key then some v else lookup key rest

def insert (key : String) (value : Value) : List (String × Value) → List (String × Value)
  | [] => [(key, value)]
  | (k, v) :: rest =>
    if key = k then (key, value) :: rest
    else if key < k then (key, value) :: (k, v) :: rest
    else (k, v) :: insert key value rest

def erase (key : String) (entries : List (String × Value)) : List (String × Value) :=
  entries.filter (·.1 ≠ key)

def ofEntries (entries : List (String × Value)) : List (String × Value) :=
  entries.foldl (fun m (k, v) => insert k v m) []

end Value

end ModHost.Script
