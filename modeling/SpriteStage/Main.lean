import SpriteStage.CommandLine.Session

/-!
# The program

Reads the arguments and the settings, runs the session, and prints what it leaves behind: the output
on standard output and the notes on standard error.
-/

namespace SpriteStage

/-- The fault with a number and a reason. Some numbers arrive negated. -/
def FileFault.ofCode (code : UInt32) (reason : String) : FileFault :=
  match if code < 0x80000000 then code else -code with
  | 2 => .missing
  | 20 => .notFolder
  | 21 => .isFolder
  | 36 => .nameTooLong
  | code => .other reason code.toNat

/-- The fault behind an error of the operating system. -/
def FileFault.ofError : IO.Error → FileFault
  | .noFileOrDirectory _ code reason => .ofCode code reason
  | .inappropriateType _ code reason => .ofCode code reason
  | .permissionDenied _ code reason => .ofCode code reason
  | .resourceExhausted _ code reason => .ofCode code reason
  | .invalidArgument _ code reason => .ofCode code reason
  | .otherError code reason => .ofCode code reason
  | error => .other (toString error) 5

/-- Print a report. -/
def Report.print (report : Report) : IO UInt32 := do
  IO.eprint report.log
  IO.print report.output
  return report.status.toUInt32

/-- Run one session. -/
def Options.run (options : Options) : IO UInt32 := do
  let file ← try
      Except.ok <$> IO.FS.readBinFile options.configPath
    catch error => pure (Except.error (FileFault.ofError error))
  match options.session file with
  | .over report => report.print
  | .save path text conclude =>
    let fault ← try
        IO.FS.writeFile path text
        pure none
      catch error => pure (some (FileFault.ofError error))
    (conclude fault).print

end SpriteStage

open SpriteStage in
/-- The entry point. -/
def main (arguments : List String) : IO UInt32 :=
  match Options.ofArguments arguments with
  | .ok options => options.run
  | .error stop => do
    if stop = .usage then
      IO.eprintln "error: invalid arguments\n\nFor more information, try '--help'."
    stop.report.print
