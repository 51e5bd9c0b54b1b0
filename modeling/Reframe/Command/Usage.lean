import Reframe.Command.Version

/- This file defines how the program explains its use. -/

namespace Reframe

namespace Program

/- The arguments of each command, a line each. -/
def commandLines : List String :=
  ["receive <URL> [--device D] [--codec C] [--port N]",
    "    [--bind IP] [--target IP] [--width N] [--height N]",
    "    [--fps N] [--bitrate N] [--gop N] [--decode]",
    "    [--count N] [--idle-timeout T] [--timeout T]",
    "pull <URL> [--device D] [--width N] [--height N]",
    "    [--fps N] [--param K=V]... [--count N] [--out DIR]",
    "    [--timeout T]",
    "scan <FILE> [--chunk-size N] [--max-frame-size N]",
    "    [--count N] [--out DIR]",
    "send <ADDRESS> <FILE>... [--mtu N] [--repeat N]",
    "    [--interval T] [--start-id N]",
    "version [--extended]"]

/- The options that every command takes, a line each. -/
def optionLines : List String :=
  ["--format <json|table|pretty|raw>",
    "--log-format <text|json>",
    "--log-level <error|warn|info|debug|trace>"]

/- The lines of a paragraph, each of them set in. -/
def paragraph
    (title : String)
    (lines : List String) : String :=
  title ++ ":\n" ++
    String.join (lines.map (fun l => "  " ++ l ++ "\n"))

/- How the program is used. -/
def usage : String :=
  paragraph "Usage"
      [Build.programName ++ " [OPTIONS] <COMMAND>"] ++
    "\n" ++ paragraph "Commands" commandLines ++
    "\n" ++ paragraph "Options" optionLines

end Program

end Reframe
