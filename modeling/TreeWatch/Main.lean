/-
This file is the program as a process: files on the disk, text on the standard streams,
variables of the environment. There is no network here, so no address can be listened
on and no stream can be followed.
-/

import TreeWatch.Program

namespace TreeWatch

namespace OnDisk

/-- Why the system could not do something with a file. A path of the wrong kind is either
a directory itself or leads through something that is none. -/
def fileFault : IO.Error → FileFault
  | .noFileOrDirectory _ _ _ => .missing
  | .inappropriateType _ _ details =>
    if details.toLower = "is a directory" then .isDirectory else .notDirectory
  | error => .other (toString error)

/-- Tries something with a file. -/
def attempt {α : Type} (action : IO α) : IO (Except FileFault α) := do
  try
    let result ← action
    pure (.ok result)
  catch error => pure (.error (fileFault error))

def host : Host IO :=
  { read := fun path => attempt do
      let content ← IO.FS.readBinFile path
      pure content.data.toList
    write := fun path content => attempt (IO.FS.writeBinFile path ⟨content.toArray⟩)
    print := IO.print
    listen := fun _ => pure false }

/-- The variables the program looks at. -/
def environment : IO (List (String × String)) :=
  ["BT_LIVE_CONFIG", "BT_LIVE_URL", "BT_LIVE_WATCHDOG_TIMEOUT_MS", "BT_LIVE_BIND"].filterMapM
    fun name => do
      let value ← IO.getEnv name
      pure (value.map fun text => (name, text))

/-- How the program is used. -/
def usage : String :=
  "Usage: [--config FILE] COMMAND\n\nCommands:\n" ++
    "  serve [--bind ADDRESS] [--diagram FILE] [--demo]\n" ++
    "  watch [--url URL] [--diagram FILE] [--entity ID]... [--log-only]\n" ++
    "  preview FILE [--output FILE]\n"

end OnDisk

end TreeWatch

open TreeWatch in
def main (arguments : List String) : IO UInt32 := do
  let outcome ← Program.run OnDisk.host arguments (← OnDisk.environment)
  match outcome with
  | .failed error => IO.eprintln error.report
  | .stopped .misuse => IO.eprint OnDisk.usage
  | .stopped .help => IO.print OnDisk.usage
  | .watching config _ _ => IO.eprintln ("Error: no network to reach " ++ config.url)
  | .serving _ _ | .finished => pure ()
  pure outcome.code.toUInt32
