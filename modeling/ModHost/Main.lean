import ModHost.Programs

set_option autoImplicit false

/-!
# Command line

Reads the files below the working directory, runs a program on them, writes the files
that it changed, and prints its output and the events that the `RUST_LOG` setting lets
through. The host runs unless the first argument is `harness`. What lies outside of the
working directory is not read, so no file is found there.
-/

namespace ModHost.Main

/-- The files below a directory, at its place, added to those known. -/
partial def readTree (entries : Array IO.FS.DirEntry) (place : Place) (files : Files) :
    IO Files :=
  entries.foldlM (fun files entry => do
    let path := entry.path
    let place := place ++ [entry.fileName]
    let data ← path.metadata
    match data.type with
    | .dir => readTree (← path.readDir) place (files.put place (.dir 0))
    | .file =>
      let content ← IO.FS.readBinFile path
      let modified := data.modified.sec * 1000000000 + Int.ofNat data.modified.nsec.toNat
      pure (files.put place (.file content modified))
    | _ => pure files) files

def onTheWay (working : Place) : Files :=
  ⟨(List.range working.length).map fun i => (working.take (i + 1), .dir 0), 0, working⟩

def writeChanges (before after : Files) : IO Unit :=
  after.nodes.forM fun (place, node) => do
    let path := "/" ++ "/".intercalate place
    match node, before.node? place with
    | .file content _, some (.file old _) =>
      if content.data ≠ old.data then IO.FS.writeBinFile path content
    | .file content _, _ => IO.FS.writeBinFile path content
    | .dir _, _ => pure ()

def runProgram (files : Files) : List String → Outcome
  | "harness" :: args => HarnessProgram.run Engine.standard files (HarnessProgram.name :: args)
  | args => HostProgram.run Engine.standard files (HostProgram.name :: args)

end ModHost.Main

open ModHost in
def main (args : List String) : IO UInt32 := do
  let dir ← IO.currentDir
  let working := dir.components.filter (· ≠ "")
  let files ← Main.readTree (← dir.readDir) working (Main.onTheWay working)
  let filter := LogFilter.ofSetting (← IO.getEnv "RUST_LOG")
  let outcome := Main.runProgram files args
  (outcome.log.filter filter.allows).forM fun e => IO.eprintln e.shown
  Main.writeChanges files outcome.files
  IO.print outcome.output
  pure (UInt32.ofNat outcome.exitCode)
