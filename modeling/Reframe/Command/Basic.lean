import Reframe.Command.Arguments
import Reframe.Fragment.Writer
import Reframe.Report.Printer
import Reframe.Scan.Reader

/-
  This file defines the commands and their arguments.

  Key definitions include:
    * `Command`
    * `Command.paths`
    * `Command.ReadsInput`
    * `Invocation`
    * `CommandLine`
    * `CommandLine.read`
-/

namespace Reframe

------------------------------------------------------------
-- Commands
------------------------------------------------------------

/- The arguments of the command that receives a stream. -/
structure ReceiveArguments where
  baseUrl : String
  device : String
  codec : String
  port : Nat
  bind : IpAddress
  target : Option IpAddress
  width : Nat
  height : Nat
  fps : Nat
  bitrate : Option Nat
  gop : Option Nat
  decode : Bool
  count : Option Nat
  idleTimeout : String
  timeout : String
deriving DecidableEq, Repr

/- The arguments of the command that pulls a live stream. -/
structure PullArguments where
  baseUrl : String
  device : String
  width : Option Nat
  height : Option Nat
  fps : Option Nat
  params : List String
  count : Option Nat
  out : Option String
  timeout : String
deriving DecidableEq, Repr

/- The arguments of the command that scans a file. -/
structure ScanArguments where
  input : String
  chunkSize : Nat := defaultChunkSize
  maxFrameSize : Option Nat := none
  count : Option Nat := none
  out : Option String := none
deriving DecidableEq, Repr

/- The arguments of the command that sends files. -/
structure SendArguments where
  address : SocketAddress
  files : List String
  mtu : Nat
  passes : Nat
  interval : Option String
  startId : UInt32
deriving DecidableEq, Repr

/- A command with its arguments. -/
inductive Command where
| receive (a : ReceiveArguments)
| pull (a : PullArguments)
| scan (a : ScanArguments)
| send (a : SendArguments)
| version (extended : Bool)
deriving DecidableEq, Repr

namespace Command

/- The paths that a command reads or writes at. -/
def paths : Command → List String
| .receive _ => []
| .pull a => a.out.toList
| .scan a =>
    (if a.input = "-" then [] else [a.input]) ++ a.out.toList
| .send a => a.files
| .version _ => []

/- The command reads standard input. -/
def ReadsInput : Command → Prop
| .scan a => a.input = "-"
| _ => False

instance (c : Command) : Decidable c.ReadsInput := by
  cases c <;> unfold ReadsInput <;> infer_instance

end Command

/- A command, and the format that was asked for, if any. -/
structure Invocation where
  format : Option OutputFormat
  command : Command
deriving DecidableEq, Repr

/- What the arguments of the program come to. -/
inductive CommandLine where
/- A command is to be run. -/
| run (i : Invocation)
/- Somebody asks how the program is used. -/
| help
/- Somebody asks for the version. -/
| version
/- The arguments are of no use. -/
| refused
deriving DecidableEq, Repr

namespace CommandLine

------------------------------------------------------------
-- Options
------------------------------------------------------------

/- An option with a value of a kind. -/
def valued
    (name : String)
    (kind : ValueKind) : OptionSpec where
  name := name
  value := some kind

/- An option without a value. -/
def flag
    (name : String) : OptionSpec where
  name := name
  value := none

/- A number of 16 bits. -/
def word16 : ValueKind :=
  .signed 65535

/- A number of 32 bits. -/
def word32 : ValueKind :=
  .signed 4294967295

/- A number of 64 bits. -/
def word64 : ValueKind :=
  .number Matches.numberLimit

/- The options that every command takes. -/
def globals : List OptionSpec :=
  [valued "format"
      (.oneOf ["json", "table", "pretty", "raw"]),
    valued "log-format" (.oneOf ["text", "json"]),
    valued "log-level"
      (.oneOf ["error", "warn", "info", "debug", "trace"])]

/- What the command that receives a stream takes. -/
def receiveSpec : ArgumentSpec where
  options :=
    [valued "device" .text, valued "codec" .text,
      valued "port" word16, valued "bind" .host,
      valued "target" .host, valued "width" word32,
      valued "height" word32, valued "fps" word32,
      valued "bitrate" word32, valued "gop" word32,
      flag "decode", valued "count" word64,
      valued "idle-timeout" .text,
      valued "timeout" .text] ++ globals
  positions := [.text]

/- What the command that pulls a live stream takes. -/
def pullSpec : ArgumentSpec where
  options :=
    [valued "device" .text, valued "width" word32,
      valued "height" word32, valued "fps" word32,
      { valued "param" .text with repeatable := true },
      valued "count" word64, valued "out" .path,
      valued "timeout" .text] ++ globals
  positions := [.text]

/- What the command that scans a file takes. -/
def scanSpec : ArgumentSpec where
  options :=
    [valued "chunk-size" word64,
      valued "max-frame-size" word64,
      valued "count" word64, valued "out" .path] ++ globals
  positions := [.path]

/- What the command that sends files takes. -/
def sendSpec : ArgumentSpec where
  options :=
    [valued "mtu" word64, valued "repeat" word32,
      valued "interval" .text,
      valued "start-id" word32] ++ globals
  positions := [.socket]
  further := some .path

/- What the command that tells the version takes. -/
def versionSpec : ArgumentSpec where
  options := flag "extended" :: globals

------------------------------------------------------------
-- Commands From Arguments
------------------------------------------------------------

/- The host that an option has for a value. -/
def host?
    (m : Matches)
    (name : String) : Option IpAddress :=
  (m.value? name).bind (fun s => IpAddress.parse? s.toList)

/- The arguments of the command that receives a stream. -/
def receiveOf
    (m : Matches) : ReceiveArguments where
  baseUrl := m.position 0
  device := m.text "device" "video0"
  codec := m.text "codec" "mjpeg"
  port := m.number "port" 5000
  bind := (host? m "bind").getD .anyV4
  target := host? m "target"
  width := m.number "width" 1280
  height := m.number "height" 720
  fps := m.number "fps" 30
  bitrate := m.number? "bitrate"
  gop := m.number? "gop"
  decode := decide (m.Has "decode")
  count := m.number? "count"
  idleTimeout := m.text "idle-timeout" "10s"
  timeout := m.text "timeout" "5s"

/- The arguments of the command that pulls a live stream. -/
def pullOf
    (m : Matches) : PullArguments where
  baseUrl := m.position 0
  device := m.text "device" "video0"
  width := m.number? "width"
  height := m.number? "height"
  fps := m.number? "fps"
  params := m.all "param"
  count := m.number? "count"
  out := m.value? "out"
  timeout := m.text "timeout" "5s"

/- The arguments of the command that scans a file. -/
def scanOf
    (m : Matches) : ScanArguments where
  input := m.position 0
  chunkSize := m.number "chunk-size" defaultChunkSize
  maxFrameSize := m.number? "max-frame-size"
  count := m.number? "count"
  out := m.value? "out"

/- The arguments of the command that sends files. -/
def sendOf
    (m : Matches) : SendArguments where
  address :=
    (SocketAddress.parse? (m.position 0).toList).getD
      ⟨.anyV4, 0, 0⟩
  files := m.positions.drop 1
  mtu := m.number "mtu" FragmentWriter.defaultMtu
  passes := m.number "repeat" 1
  interval := m.value? "interval"
  startId := UInt32.ofNat (m.number "start-id" 0)

/- What a command takes, and how its arguments are read. -/
def commandOf? :
    String → Option (ArgumentSpec × (Matches → Command))
| "receive" =>
    some (receiveSpec, fun m => .receive (receiveOf m))
| "pull" => some (pullSpec, fun m => .pull (pullOf m))
| "scan" => some (scanSpec, fun m => .scan (scanOf m))
| "send" => some (sendSpec, fun m => .send (sendOf m))
| "version" =>
    some (versionSpec,
      fun m => .version (decide (m.Has "extended")))
| _ => none

------------------------------------------------------------
-- Reading
------------------------------------------------------------

/- The format that was asked for. -/
def format?
    (m : Matches) : Option OutputFormat :=
  (m.value? "format").bind OutputFormat.ofName?

/-
  Read the arguments of a command.  Options of the command
  come before those in front of it, and a question for help
  is answered even if those are of no use.
-/
def readCommand
    (front : Option Matches)
    (spec : ArgumentSpec)
    (build : Matches → Command)
    (arguments : List String) : CommandLine :=
  match spec.parse arguments, front with
  | .help, _ => .help
  | .matched m, some front =>
      .run
        { format := (format? m).or (format? front)
          command := build m }
  | _, _ => .refused

/- Read a question for help, perhaps on one command. -/
def readHelp : List String → CommandLine
| [] => .help
| [name] =>
    if (commandOf? name).isSome ∨ name = "help" then .help
    else .refused
| _ => .refused

/- Read a command and its arguments. -/
def readName
    (front : Option Matches)
    (name : String)
    (arguments : List String) : CommandLine :=
  match commandOf? name with
  | some (spec, build) =>
      readCommand front spec build arguments
  | none =>
      if name = "help" then readHelp arguments else .refused

/- What is taken in front of the command. -/
def frontSpec : ArgumentSpec where
  options := globals

/-
  An option that was named last, and its value if that was
  given, which is not looked at yet.
-/
abbrev Pending :=
  Option (OptionSpec × Option String)

/- Look at the value of the option that was named last. -/
def settle?
    (front : Matches) : Pending → Option Matches
| none => some front
| some (_, none) => none
| some (o, some value) => ArgumentSpec.give? o value front

/-
  Read options, and then the command.  The value of an
  option is looked at when the next one is named, or once
  the command is read.
-/
def readFrom
    (pending : Pending)
    (front : Matches) : List String → CommandLine
| [] => .refused
| s :: rest =>
    match pending, ArgumentShape.of s with
    | some (o, none), .plain =>
        readFrom (some (o, some s)) front rest
    | _, .plain => readName (settle? front pending) s rest
    | _, shape =>
        match settle? front pending, shape with
        | some _, .short ('h' :: _) => .help
        | some _, .short ('V' :: _) => .version
        | some _, .long "help" none => .help
        | some _, .long "version" none => .version
        | some front, .long name value =>
            match frontSpec.option? name, value with
            | none, _ => .refused
            | some o, none =>
                readFrom (some (o, none)) front rest
            | some o, some value =>
                match ArgumentSpec.give? o value front with
                | none => .refused
                | some front => readFrom none front rest
        | _, _ => .refused

/- Read the arguments of the program. -/
def read
    (arguments : List String) : CommandLine :=
  readFrom none {} arguments

end CommandLine

end Reframe
