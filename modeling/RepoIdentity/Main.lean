import RepoIdentity.Program

/-!
# The command line of the program

Reads the arguments, the environment and the files that a run can ask for, and
writes what the run writes, in the same order. All decisions are made in
`RepoIdentity.transcript`.
-/

namespace RepoIdentity.Console

/-- The value of a variable of the environment, if it is set. -/
def lookUp (name : String) : IO (Option Text) := do
  return (← IO.getEnv name).map String.toList

/-- The lines of a text file, or none if it cannot be read. -/
def linesOf (path : String) : IO (List Text) := do
  let content ← (IO.FS.readFile path).catchExceptions fun _ => return ""
  return Text.splitOn '\n' content.toList

/-- The number of the account that the program runs under: the first number on the line
for it in what the system tells of the process. -/
def accountNumber : IO Text := do
  let numbers := (← linesOf "/proc/self/status").findSome? (Text.dropPrefix? "Uid:\t".toList)
  return (numbers.getD []).takeWhile Char.isDigit

/-- The directory of the account, from the list of accounts: a line for each, with its
number in the third place and its directory in the sixth. -/
def accountHome : IO (Option Text) := do
  let number ← accountNumber
  let accounts := (← linesOf "/etc/passwd").map (Text.splitOn ':')
  return accounts.findSome? fun fields =>
    if fields[2]? = some number then fields[5]?.filter (· ≠ []) else none

def environment : IO Environment := do
  return {
    configPath := ← lookUp "REPO_REF_CONFIG"
    configHome := ← lookUp "XDG_CONFIG_HOME"
    home := ← lookUp "HOME"
    strict := ← lookUp "REPO_REF_STRICT"
    accountHome := ← accountHome }

/-- The fault of a number that the system gives; it may come with a minus sign, as
a number of 32 bits. -/
def faultOfCode (code : UInt32) (details : String) : FileFault :=
  .ofCode (if code < 0x80000000 then code else 0 - code).toNat details.toList

def faultOf : IO.Error → FileFault
  | .noFileOrDirectory _ code details => faultOfCode code details
  | .permissionDenied _ code details => faultOfCode code details
  | .inappropriateType _ code details => faultOfCode code details
  | .invalidArgument _ code details => faultOfCode code details
  | .resourceExhausted _ code details => faultOfCode code details
  | .otherError code details => faultOfCode code details
  | e => .refused e.toString.toList 0

/-- What stands at a path, or why nothing does. -/
def probe (path : Text) : IO (Except FileFault Standing) := do
  let name := String.ofList path
  let place ← (do
    let _ ← IO.FS.realPath name
    return Except.ok ()).catchExceptions fun e => return Except.error (faultOf e)
  match place with
  | .error fault => return .error fault
  | .ok () =>
    let bytes ← (do
      let content ← IO.FS.readBinFile name
      return Except.ok content.toList).catchExceptions fun e => return Except.error (faultOf e)
    match bytes with
    | .ok bytes => return .ok (.file bytes)
    | .error fault => return .ok (if fault = .isDirectory then .directory else .closed fault)

/-- The paths that a run can ask for. -/
def pathsOf (inv : CommandLine.Invocation) (env : Environment) : List Text :=
  inv.config.toList ++ Configuration.candidates env
    ++ (match inv.command with
        | .describe path _ _ => [path]
        | _ => [])

/-- The file system at the paths that a run can ask for. -/
def fileSystemFor (args : List Text) (env : Environment) : IO FileSystem := do
  let paths := match CommandLine.Invocation.ofArguments args with
    | .ok inv => pathsOf inv env
    | .error _ => []
  let found ← paths.mapM fun path => return (path, ← probe path)
  return ⟨fun path => (found.lookup path).getD (.error .badName)⟩

/-- Writes a text to the stream that it is for. -/
def put (x : Write) : IO Unit := do
  match x.stream with
  | .output => (← IO.getStdout).putStr (String.ofList x.text)
  | .errors => (← IO.getStderr).putStr (String.ofList x.text)

end RepoIdentity.Console

def main (args : List String) : IO UInt32 := do
  let args := args.map String.toList
  let env ← RepoIdentity.Console.environment
  let fs ← RepoIdentity.Console.fileSystemFor args env
  let transcript := RepoIdentity.transcript .builtIn args env fs
  transcript.writes.forM RepoIdentity.Console.put
  return UInt32.ofNat transcript.exitCode
