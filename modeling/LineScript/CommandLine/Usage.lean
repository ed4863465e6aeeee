/-!
The texts that explain the command line.
-/

namespace LineScript.CommandLine

/-- The line that shows how the command is called; `name` is the name of the command. -/
def usage (name : String) : String :=
  "usage: " ++ name ++ " [-h] [-source] [-verbose] [--traceback-json] [program]\n"

def help (name : String) : String :=
  usage name ++ "\n" ++
  "SegLang reference interpreter\n" ++
  "\n" ++
  "positional arguments:\n" ++
  "  program              Program file path or literal source with -source\n" ++
  "\n" ++
  "options:\n" ++
  "  -h, --help           show this help message and exit\n" ++
  "  -source, --source    Treat program argument as literal source text\n" ++
  "  -verbose, --verbose  Emit variable snapshots in tracebacks\n" ++
  "  --traceback-json     Also emit JSON traceback\n"

/-- What is said about arguments that are not understood. -/
def misuse (name message : String) : String :=
  usage name ++ name ++ ": error: " ++ message ++ "\n"

end LineScript.CommandLine
