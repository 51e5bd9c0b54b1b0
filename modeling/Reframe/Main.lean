import Reframe.Command.Program
import Reframe.Command.Usage
import Std.Time.DateTime.Timestamp

/-
  This file defines the entry of the program.  It loads what
  a command reads, runs the command, and then stores and
  prints what the command left behind.

  Key definitions include:
    * `Host.load`
    * `Host.store`
    * `Host.run`
    * `main`
-/

namespace Reframe

namespace Host

------------------------------------------------------------
-- Files
------------------------------------------------------------

/- What there is at a place, if there is anything. -/
def nodeAt
    (place : List String) : IO (Option FileNode) := do
  try
    let content ← IO.FS.readBinFile (FilePath.textOf place)
    pure (some (.file content.toList))
  catch
  | .noFileOrDirectory _ _ _ => pure none
  | .inappropriateType _ 21 _ => pure (some .directory)
  | .inappropriateType _ _ _ => pure none
  | e => throw e

/- Load what there is at places that are not known yet. -/
def loadPlaces
    (t : FileTree) : List (List String) → IO FileTree
| [] => pure t
| place :: rest =>
    match t.node? place with
    | some _ => loadPlaces t rest
    | none => do
        match ← nodeAt place with
        | none => loadPlaces t rest
        | some n => loadPlaces (t.put place n) rest

/- Load what paths lead to, and all on the way there. -/
def load
    (paths : List String) : IO FileTree :=
  loadPlaces []
    (paths.flatMap (fun s =>
      FilePath.places [] (FilePath.ofText s).names))

/- Store a node where a text leads to. -/
def storeNode
    (path : String) : FileNode → IO Unit
| .directory => IO.FS.createDirAll path
| .file content =>
    IO.FS.writeBinFile path ⟨content.toArray⟩

/- Store nodes, first one first. -/
def store
    (t : FileTree) : IO Unit :=
  t.forM (fun e => storeNode e.1 e.2)

------------------------------------------------------------
-- Standard Input And The Clock
------------------------------------------------------------

/- Read a stream to its end. -/
partial def readToEnd
    (stream : IO.FS.Stream)
    (content : ByteArray) : IO ByteArray := do
  let part ← stream.read 65536
  if part.isEmpty then pure content
  else readToEnd stream (content ++ part)

/- The bytes on standard input. -/
def standardInput : IO Bytes := do
  let content ← readToEnd (← IO.getStdin) .empty
  pure content.toList

/- The present time. -/
def now : IO Timestamp := do
  let t ← Std.Time.Timestamp.now
  let nanos := t.toNanosecondsSinceUnixEpoch.val
  if 0 ≤ nanos then pure (.since ⟨nanos.toNat⟩)
  else pure (.before ⟨(-nanos).toNat⟩)

------------------------------------------------------------
-- Running
------------------------------------------------------------

/- The session that a command starts from. -/
def sessionFor
    (c : Command) : IO Session := do
  let files ← load c.paths
  let input ←
    if c.ReadsInput then standardInput else pure []
  let clock ← now
  let onTerminal ← (← IO.getStdout).isTty
  pure
    { files := files
      input := input
      clock := clock
      format := if onTerminal then .table else .json }

/- The session that arguments start from. -/
def sessionOf : CommandLine → IO Session
| .run i => sessionFor i.command
| _ => pure {}

/- Explain the use of the program to whoever needs it. -/
def explain : CommandLine → IO Unit
| .help => IO.print Program.usage
| .refused => IO.eprint Program.usage
| _ => pure ()

/- Run the program. -/
def run
    (arguments : List String) : IO UInt32 := do
  let line := CommandLine.read arguments
  explain line
  let before ← sessionOf line
  let o := Program.run before arguments
  store (o.session.files.beyond before.files)
  let stdout ← IO.getStdout
  stdout.write ⟨o.session.output.toArray⟩
  stdout.flush
  match o.complaint with
  | none => pure ()
  | some message => IO.eprintln ("error: " ++ message)
  pure (UInt32.ofNat o.code)

end Host

end Reframe

/- Run the program, and report what the system refuses. -/
def main
    (arguments : List String) : IO UInt32 := do
  try Reframe.Host.run arguments
  catch e =>
    IO.eprintln ("error: " ++ toString e)
    pure (UInt32.ofNat Reframe.ExitCode.internal)
