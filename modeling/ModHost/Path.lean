set_option autoImplicit false

/-!
# Paths

A path is its text, as it was written. Two paths are the same when their components
are: repeated and trailing separators do not count, nor does a `.` that is not the first
component. Nothing is looked up, so `x/..` stays as it is.
-/

namespace ModHost

abbrev Path := String

namespace Path

def splitReversed : List Char → List Char → List (List Char) → List (List Char)
  | [], piece, acc => piece.reverse :: acc
  | '/' :: rest, piece, acc => splitReversed rest [] (piece.reverse :: acc)
  | c :: rest, piece, acc => splitReversed rest (c :: piece) acc

def pieces (p : Path) : List String :=
  ((splitReversed p.toList [] []).reverse).map String.ofList

def isAbsolute (p : Path) : Bool := p.startsWith "/"

/-- The components: the root, if the path is absolute, then the names. -/
def components (p : Path) : List String :=
  let ps := pieces p
  let first := match ps with
    | "." :: _ => ["."]
    | _ => []
  (if isAbsolute p then ["/"] else first) ++ ps.filter fun c => c ≠ "" && c ≠ "."

def same (p q : Path) : Bool := components p = components q

@[simp] theorem same_refl (p : Path) : same p p = true := decide_eq_true rfl

theorem same_iff {p q : Path} : same p q = true ↔ components p = components q :=
  decide_eq_true_iff

theorem same_comm (p q : Path) : same p q = same q p := by
  simp only [same, eq_comm]

theorem same_congr {p q : Path} (equal : same p q = true) (r : Path) : same p r = same q r := by
  simp only [same, same_iff.1 equal]

def isName (c : String) : Bool := c ≠ "/" && c ≠ "." && c ≠ ".."

def fileName? (p : Path) : Option String :=
  match (components p).getLast? with
  | some c => if isName c then some c else none
  | none => none

def stemOf (name : String) : String :=
  match name.toList.reverse.dropWhile (· ≠ '.') with
  | [] | [_] => name
  | _ :: before => String.ofList before.reverse

def stem? (p : Path) : Option String := (fileName? p).map stemOf

/-- The text without trailing separators and trailing `.` components; a path that is
only one of those stays. -/
def trimEnd (isRooted : Bool) : Nat → List Char → List Char
  | 0, cs => cs
  | fuel + 1, cs =>
    match cs with
    | ['/'] => if isRooted then cs else []
    | '/' :: rest => trimEnd isRooted fuel rest
    | '.' :: '/' :: rest => trimEnd isRooted fuel ('/' :: rest)
    | cs => cs

/-- The path without its last component; nothing for the root and the empty path. -/
def parent? (p : Path) : Option Path :=
  match (components p).getLast? with
  | none => none
  | some "/" => none
  | some c =>
    let n := p.toList.length + 1
    let rooted := isAbsolute p
    let body := trimEnd rooted n p.toList.reverse
    some (String.ofList (trimEnd rooted n (body.drop c.length)).reverse)

/-- A path below a base; an absolute path stays as it is. -/
def join (base p : Path) : Path :=
  if isAbsolute p then p
  else if base = "" || base.endsWith "/" then base ++ p
  else base ++ "/" ++ p

def withFileName (p : Path) (name : String) : Path :=
  match fileName? p with
  | some _ => join ((parent? p).getD "") name
  | none => join p name

end Path

end ModHost
