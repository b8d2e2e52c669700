import ClusterSchema.Cli.Run
import ClusterSchema.Command.Yaml

/-!
# The program

The command line program: it reads arguments and input, hands them to the library, and prints what
comes out.  It has no network of its own, so every host is out of reach, and it keeps no log.
-/

namespace ClusterSchema.Cli

/-- Reads a stream to its end. -/
partial def readAll (stream : IO.FS.Stream) (soFar : ByteArray) : IO ByteArray := do
  let block ← stream.read 65536
  if block.isEmpty then return soFar else readAll stream (soFar ++ block)

/-- Why the system could not read an input. -/
def inputError : IO.Error → InputError
  | .noFileOrDirectory .. => .notFound
  | error => .other (toString error)

/-- Reads a source. -/
def Source.read : Source → IO (Except InputError String)
  | stdin => do
    let bytes ← readAll (← IO.getStdin) .empty
    return textOfBytes bytes
  | file path => do
    try
      let bytes ← IO.FS.readBinFile path
      return textOfBytes bytes
    catch error => return .error (inputError error)

/-- The network of a program without one. -/
def noNetwork : Client.Dialer Unit Unit := fun _ _ =>
  (.error (.dueTo "error connecting to server" (.root "no network")), ())

/-- What can be done on connections that nobody has. -/
def noSession : Session Unit where
  execute _ _ := (.error (.root "no network"), ())
  queryTables _ _ := (.error (.root "no network"), ())

/-- Random words, enough for a shuffle of a host list. -/
def randomWords (hosts : Nat) : IO (List UInt32) := do
  let bytes ← IO.getRandomBytes 8
  let seed := bytes.foldl (fun (seed : UInt64) byte => seed <<< 8 ||| byte.toUInt64) 0
  return HostShuffle.wordsOfSeed seed (64 * hosts)

/-- Lists tables without a network. -/
def listOffline (driver : Driver) (config : ConnectionConfig) (policy : ResolvePolicy) :
    IO Printed := do
  let around : Surroundings Unit (List UInt32) Unit :=
    { dial := noNetwork, session := noSession, shuffle := .random }
  return (listTables around driver config policy () (← randomWords config.host.size)).printed

end ClusterSchema.Cli

open ClusterSchema.Cli in
/-- Runs the program. -/
def main (arguments : List String) : IO UInt32 := do
  let ending ←
    match Invocation.ofArguments arguments with
    | .error halt => pure (Ending.ofHalt halt)
    | .ok invocation =>
      invocation.ending ClusterSchema.CommandEntry.listOfYaml Source.read listOffline
  (← IO.getStdout).putStr ending.stdout
  (← IO.getStderr).putStr ending.report
  return ending.code.toUInt32
