import Reframe.Command.Session
import Reframe.Fragment.Writer

/- This file defines the command that tells the version. -/

namespace Reframe

/- What is known about a build of the program. -/
structure Build where
  version : String
  target : String
  profile : String
  features : List String
deriving DecidableEq, Repr

namespace Build

/- The name of the program. -/
def programName : String :=
  "silkcast"

/- The present build. -/
def present : Build where
  version := "0.3.0"
  target := "x86_64-unknown-linux-gnu"
  profile := "debug"
  features := ["client", "cli"]

/- The version on a line of its own. -/
def line
    (b : Build) : String :=
  programName ++ " " ++ b.version ++ "\n"

/- The build, and the sizes that it was made with. -/
def json
    (b : Build) : Json :=
  .object
    [("version", .text b.version),
      ("target", .text b.target),
      ("profile", .text b.profile),
      ("features", .array (b.features.map .text)),
      ("header_size", .ofNat Fragment.headerSize),
      ("default_mtu", .ofNat FragmentWriter.defaultMtu)]

/- Run the command. -/
def run
    (b : Build)
    (extended : Bool) : Action Unit :=
  if extended then Action.printSummary "version" b.json
  else modify (fun s => s.print (.ofText b.line))

end Build

end Reframe
