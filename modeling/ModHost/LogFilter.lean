import ModHost.Log

set_option autoImplicit false

/-!
# Log filters

Which events a program shows. A filter is a list of directives, each a threshold for all
speakers or for those whose name starts with a given text; the directive with the longest
such text decides. As text, directives stand between commas: a level, a speaker with a
level after `=`, or a speaker alone, of which everything is shown.
-/

namespace ModHost

structure LogDirective where
  target : String
  threshold : Nat
deriving DecidableEq, Repr, Inhabited

abbrev LogFilter := List LogDirective

namespace LogFilter

def standard : LogFilter := [⟨"", LogLevel.info.verbosity⟩]

def threshold? (s : String) : Option Nat :=
  match String.ofList (s.toList.map Char.toLower) with
  | "off" | "0" => some 0
  | "error" | "1" | "" => some 1
  | "warn" | "2" => some 2
  | "info" | "3" => some 3
  | "debug" | "4" => some 4
  | "trace" | "5" => some 5
  | _ => none

def pieces (separator : Char) (s : String) : List String :=
  let (last, before) := s.toList.foldr (fun c (piece, acc) =>
    if c = separator then ([], String.ofList piece :: acc) else (c :: piece, acc)) ([], [])
  String.ofList last :: before

def isTargetChar (c : Char) : Bool := c.isAlphanum || c = '_' || c = ':' || c = '-'

/-- A directive; one that is about a part of a program's course lets nothing through. -/
def directive? (s : String) : Option (Option LogDirective) :=
  if s.contains '[' then some none
  else match pieces '=' s with
    | [word] =>
      match threshold? word with
      | some n => some (some ⟨"", n⟩)
      | none => if word.all isTargetChar then some (some ⟨word, 5⟩) else none
    | [target, level] =>
      if target.all isTargetChar then
        (threshold? level).map fun n => some ⟨target, n⟩
      else none
    | _ => none

/-- The filter in a text, if every directive of it is one. Without directives only errors
are shown. -/
def parse? (s : String) : Option LogFilter := do
  let directives ← ((pieces ',' s).filter (· ≠ "")).mapM directive?
  if directives.isEmpty then some [⟨"", LogLevel.error.verbosity⟩]
  else some (directives.filterMap id)

def ofSetting : Option String → LogFilter
  | none => standard
  | some s => (parse? s).getD standard

/-- The directive that decides about a speaker: the one with the longest text, and of
two with the same text the later. -/
def deciding (f : LogFilter) (target : String) : Option LogDirective :=
  (f.filter fun d => target.startsWith d.target).foldl (fun best d =>
    match best with
    | none => some d
    | some b => if b.target.length ≤ d.target.length then some d else some b) none

def allows (f : LogFilter) (e : LogEvent) : Bool :=
  match f.deciding e.target with
  | some d => e.level.verbosity ≤ d.threshold
  | none => false

end LogFilter

namespace LogEvent

def shownChar (c : Char) : String :=
  if c = '\x1b' then "\\x1b"
  else if c = '\x07' then "\\x07"
  else if c = '\x08' then "\\x08"
  else if c = '\x0c' then "\\x0c"
  else if c = '\x7f' then "\\x7f"
  else if 0x80 ≤ c.toNat && c.toNat ≤ 0x9f then
    "\\u\x7b" ++ String.ofList (Nat.toDigits 16 c.toNat) ++ "\x7d"
  else String.ofList [c]

def shown (e : LogEvent) : String :=
  e.level.label ++ " " ++ e.target ++ ": " ++ String.join (e.message.toList.map shownChar)

end LogEvent

end ModHost
