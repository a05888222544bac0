import ScriptGate.Startup

/-! The command line: look up the configuration file, and say whether a gateway starts
from it.

Everything that is decided is decided by `Startup.start`; here the environment and
the file are read and the outcome is printed. -/
namespace ScriptGate.CommandLine

/-- The cause of a failure to read a file. -/
def readFault : IO.Error → ReadFault
  | .noFileOrDirectory .. => .notFound
  | .inappropriateType _ code _ => if code = 21 then .isDirectory else .notDirectory
  | .invalidArgument _ code _ => if code = 22 then .nulInName else .nameTooLong
  | e => .other (toString e)

def contents (path : String) : IO (Except ReadFault ByteArray) := do
  try
    return .ok (← IO.FS.readBinFile path)
  catch e => return .error (readFault e)

/-- Start from the file that the environment names. The exit code is zero if that
succeeds and one if not. -/
def run : IO UInt32 := do
  let path := (← IO.getEnv Startup.configVariable).getD Startup.defaultPath
  match Startup.start path (← contents path) with
  | .error e =>
    IO.eprintln e.message
    return 1
  | .ok (_, gateway) =>
    IO.println ("gateway ready for " ++ gateway.config.gateway.listen)
    return 0

end ScriptGate.CommandLine

def main : IO UInt32 := ScriptGate.CommandLine.run
