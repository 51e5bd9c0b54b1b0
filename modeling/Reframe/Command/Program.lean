import Reframe.Command.Pull
import Reframe.Command.Receive
import Reframe.Command.Scan
import Reframe.Command.Send
import Reframe.Command.Version

/-
  This file defines the program: it reads its arguments,
  runs the command in them and ends with an exit code.

  Left out are:
    * log lines, whose flags are read and have no effect
    * interrupts while a command runs
    * how long a command sleeps between what it does
    * threads, whose steps are taken one after another
    * the library behind requests, whose answers and errors
      come with the network
    * the library that reads pictures, a parameter of
      `Decoder.jpeg`

  Key definitions include:
    * `Command.run`
    * `Program.Outcome`
    * `Program.run`
-/

namespace Reframe

def Command.run : Command → Action Unit
| .receive a => a.run
| .pull a => a.run
| .scan a => a.run
| .send a => a.run
| .version extended => Build.present.run extended

namespace Program

/-
  How the program ended: its exit code, what it complained
  about, if anything, and the session at its end.
-/
structure Outcome where
  code : Nat
  complaint : Option String
  session : Session

/- What a failed or finished command comes to. -/
def outcomeOf : Except Failure Unit × Session → Outcome
| (.ok _, s) => ⟨ExitCode.success, none, s⟩
| (.error e, s) => ⟨e.code, e.complaint, s⟩

/- Run a command in a format, perhaps one asked for. -/
def runInvocation
    (s : Session)
    (i : Invocation) : Outcome :=
  outcomeOf
    (i.command.run.run
      { s with format := i.format.getD s.format })

/-
  Run the program.  The session brings the format that is
  used unless another one is asked for.
-/
def run
    (s : Session)
    (arguments : List String) : Outcome :=
  match CommandLine.read arguments with
  | .run i => runInvocation s i
  | .help => ⟨ExitCode.success, none, s⟩
  | .version =>
      ⟨ExitCode.success, none,
        s.print (.ofText Build.present.line)⟩
  | .refused => ⟨ExitCode.badArguments, none, s⟩

end Program

end Reframe
