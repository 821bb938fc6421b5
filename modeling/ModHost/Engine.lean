import ModHost.HookRegistry
import ModHost.Script.Interpreter

set_option autoImplicit false

/-!
# The script engine

What the host needs of a script language: to compile a text, to run a unit's top level,
and to call one of its callbacks. Everything around scripts is written over an engine,
so that it holds whatever a script does with what it is given. `Engine.standard` is the
interpreter of this library.
-/

namespace ModHost

open Script (Env Memory World RunResult Program Value)

structure Engine where
  /-- The program of a text, or the text of what is wrong with it. -/
  compile : String → Except String Program
  runTopLevel : Env → Memory → World → RunResult
  call : Env → Memory → World → Callback → List Value → RunResult

def Engine.standard : Engine where
  compile source :=
    match Script.compile source with
    | .ok p => .ok p
    | .error e => .error e.text
  runTopLevel := Script.runTopLevel
  call env memory world callback args :=
    Script.runCallback env memory world callback.name callback.given args

end ModHost
