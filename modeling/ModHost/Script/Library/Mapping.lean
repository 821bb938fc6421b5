import ModHost.Script.Library.Native

set_option autoImplicit false

/-!
# The map library

Functions of object maps. Keys come in alphabetical order.
-/

namespace ModHost.Script.Mapping

def measure? (name : String) (v : Value) : Option Value :=
  match name, v with
  | "len", .map es => some (.int (Int64.ofNat es.length))
  | "is_empty", .map es => some (.bool es.isEmpty)
  | _, _ => none

/-- All entries of the second map over those of the first. -/
def merge (xs ys : List (String × Value)) : List (String × Value) :=
  ys.foldl (fun m (k, v) => Value.insert k v m) xs

def fill (xs ys : List (String × Value)) : List (String × Value) :=
  ys.foldl (fun m (k, v) => if (Value.lookup k m).isSome then m else Value.insert k v m) xs

def native? (name : String) (args : List Value) : Option Native :=
  match name, args with
  | "keys", [.map es] => Native.ok (.array (es.map fun e => .str e.1))
  | "values", [.map es] => Native.ok (.array (es.map (·.2)))
  | "clear", [.map _] => Native.become (.map [])
  | "contains", [.map es, .str k] => Native.bool (Value.lookup k es).isSome
  | "get", [.map es, .str k] => Native.ok ((Value.lookup k es).getD .unit)
  | "remove", [.map es, .str k] =>
    Native.becomeWith (.map (Value.erase k es)) ((Value.lookup k es).getD .unit)
  | "mixin", [.map xs, .map ys] => Native.become (.map (merge xs ys))
  | "+=", [.map xs, .map ys] => Native.become (.map (merge xs ys))
  | "+", [.map xs, .map ys] => Native.ok (.map (merge xs ys))
  | "fill_with", [.map xs, .map ys] => Native.become (.map (fill xs ys))
  | "==", [.map xs, .map ys] => some (.answer ((Value.equal (.map xs) (.map ys)).map .bool))
  | "!=", [.map xs, .map ys] =>
    some (.answer ((Value.equal (.map xs) (.map ys)).map fun b => .bool !b))
  | name, [v] => (measure? name v).map fun r => .answer (.ok r)
  | _, _ => none

def anyNative? (name : String) (args : List Value) : Option Native :=
  match name, args with
  | "set", [.map es, .str k, v] => Native.become (.map (Value.insert k v es))
  | _, _ => none

end ModHost.Script.Mapping
