import ModHost.Json
import ModHost.Quoting

set_option autoImplicit false

/-!
# Faults of JSON documents

What is wrong with a text that is no document, and with a document that does not have
the shape asked for.
-/

namespace ModHost

inductive JsonFinding where
  | null
  | bool (b : Bool)
  | int (n : Int)
  | float (x : Float)
  | str (s : String)
  | sequence
  | map
deriving Inhabited

namespace JsonFinding

def text : JsonFinding → String
  | null => "null"
  | bool b => if b then "boolean `true`" else "boolean `false`"
  | int n => s!"integer `{n}`"
  | float x => "floating point `" ++ FloatStyle.json.render x ++ "`"
  | str s => "string " ++ quoted s
  | sequence => "sequence"
  | map => "map"

def ofJson : Json → JsonFinding
  | .null => null
  | .bool b => bool b
  | .int n => int n
  | .float x => float x
  | .str s => str s
  | .arr _ => sequence
  | .obj _ => map

end JsonFinding

inductive JsonFault where
  | listEnds
  | objectEnds
  | stringEnds
  | valueEnds
  | colonExpected
  | listContinuationExpected
  | objectContinuationExpected
  | identExpected
  | valueExpected
  | invalidEscape
  | invalidNumber
  | numberOutOfRange
  | invalidCodePoint
  | controlCharacter
  | keyNotString
  | loneSurrogate
  | trailingComma
  | trailingCharacters
  | escapeEnds
  | tooDeep
  | wrongType (found : JsonFinding) (expected : String)
  | wrongValue (found : JsonFinding) (expected : String)
  | wrongLength (length : Nat) (expected : String)
  | unknownVariant (name : String) (known : List String)
  | missingField (name : String)
  | duplicateField (name : String)
deriving Inhabited

namespace JsonFault

def oneOf : List String → String
  | [] => "there are no variants"
  | [a] => s!"expected `{a}`"
  | [a, b] => s!"expected `{a}` or `{b}`"
  | names => "expected one of " ++ ", ".intercalate (names.map fun n => s!"`{n}`")

def message : JsonFault → String
  | listEnds => "EOF while parsing a list"
  | objectEnds => "EOF while parsing an object"
  | stringEnds => "EOF while parsing a string"
  | valueEnds => "EOF while parsing a value"
  | colonExpected => "expected `:`"
  | listContinuationExpected => "expected `,` or `]`"
  | objectContinuationExpected => "expected `,` or `\x7d`"
  | identExpected => "expected ident"
  | valueExpected => "expected value"
  | invalidEscape => "invalid escape"
  | invalidNumber => "invalid number"
  | numberOutOfRange => "number out of range"
  | invalidCodePoint => "invalid unicode code point"
  | controlCharacter => "control character (\\u0000-\\u001F) found while parsing a string"
  | keyNotString => "key must be a string"
  | loneSurrogate => "lone leading surrogate in hex escape"
  | trailingComma => "trailing comma"
  | trailingCharacters => "trailing characters"
  | escapeEnds => "unexpected end of hex escape"
  | tooDeep => "recursion limit exceeded"
  | wrongType found expected => s!"invalid type: {found.text}, expected {expected}"
  | wrongValue found expected => s!"invalid value: {found.text}, expected {expected}"
  | wrongLength n expected => s!"invalid length {n}, expected {expected}"
  | unknownVariant name known => s!"unknown variant `{name}`, " ++ oneOf known
  | missingField name => s!"missing field `{name}`"
  | duplicateField name => s!"duplicate field `{name}`"

end JsonFault

/-- A fault and where it was seen: a line from one, and how many of its bytes. -/
structure PlacedFault where
  fault : JsonFault
  place : Option (Nat × Nat)
deriving Inhabited

namespace PlacedFault

def text (f : PlacedFault) : String :=
  match f.place with
  | some (line, column) => f.fault.message ++ s!" at line {line} column {column}"
  | none => f.fault.message

end PlacedFault

end ModHost
