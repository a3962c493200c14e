import KustoSearch.Flags
import KustoSearch.Http.Exchange

/-! # Command line

Shows the statement for a search without sending it: the configuration and the flags say which
database serves an index that names none, the argument is the index, and the request document comes
from standard input. A configuration that does not exist yet is written with its defaults.
-/

namespace KustoSearch.Main

/-- The flags, with environment variables for those that are missing. -/
def withEnvironment (flags : Flags) : IO Flags :=
  Flag.all.foldlM (fun flags flag => do
    match flags.get? flag, ← IO.getEnv flag.variableName with
    | none, some value => pure { flags with values := (flag, value) :: flags.values }
    | _, _ => pure flags) flags

/-- The text of a file, or nothing where there is none. -/
def readText? (path : String) : IO (Option String) := do
  try
    let text ← IO.FS.readFile path
    pure (some text)
  catch
    | .noFileOrDirectory .. => pure none
    | e => throw e

/-- The configuration in a file; a missing file is written. -/
def loadConfig (path : String) : IO Config := do
  match ← readText? path with
  | some text =>
    match Config.read? text with
    | some config => pure config
    | none => throw (IO.userError ("invalid config " ++ path))
  | none =>
    try IO.FS.writeFile path Config.default.text
    catch _ => pure ()
    pure Config.default

/-- The bytes of a stream up to its end. -/
partial def readAll (stream : IO.FS.Stream) (read : List UInt8) : IO (List UInt8) := do
  let chunk ← stream.read 65536
  if chunk.isEmpty then pure read else readAll stream (read ++ chunk.toList)

/-- The statement for a request document, or the wording of its failure. -/
def statement (config : Config) (index : String) (body : List UInt8) : Except String String :=
  let settings : Settings := ⟨config.cluster.database, config.cluster.timeout⟩
  match Http.document body with
  | .error failure => .error failure.message
  | .ok document =>
    match Attempt.prepare settings index document with
    | .ok (_, batch) => .ok batch.text
    | .error (failure, _) => .error failure.message

/-- Shows the statement for the search of an index. -/
def explain (flags : Flags) (index : String) : IO UInt32 := do
  let config := flags.apply (← loadConfig ((flags.get? .config).getD "kqlbridge.toml"))
  match config.problem? with
  | some problem =>
    IO.eprintln problem.message
    pure 1
  | none =>
    match statement config index (← readAll (← IO.getStdin) []) with
    | .ok text =>
      IO.println text
      pure 0
    | .error message =>
      IO.eprintln message
      pure 1

end KustoSearch.Main

def main (arguments : List String) : IO UInt32 := do
  match KustoSearch.Flags.read arguments with
  | .error problem =>
    IO.eprintln problem.message
    pure 2
  | .ok flags =>
    match flags.arguments with
    | [index] => KustoSearch.Main.explain (← KustoSearch.Main.withEnvironment flags) index
    | _ =>
      IO.eprintln "usage: kusto-search [--config FILE] [--cluster-url URL] [--database NAME] INDEX"
      pure 2
