set_option autoImplicit false

/-!
# Reports of errors

What a program tells of an error: what could not be done, and why, if something else was
the cause.
-/

namespace ModHost

structure Report where
  message : String
  cause : Option String
deriving DecidableEq, Repr, Inhabited

namespace Report

def indented (s : String) : String :=
  "    " ++ String.join (s.toList.map fun c =>
    if c = '\n' then "\n    " else String.ofList [c])

/-- The message, and below it the cause. -/
def detailed (r : Report) : String :=
  match r.cause with
  | none => r.message
  | some cause => r.message ++ "\n\nCaused by:\n" ++ indented cause

end Report

end ModHost
