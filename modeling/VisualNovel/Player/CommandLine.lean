import VisualNovel.Player.Screen

/-!
The command line of the player: a mode, and arguments for it.
-/

namespace VisualNovel
namespace CommandLine

/-- What the player prints about itself. -/
def usage : Text :=
  Text.join "\n"
    ["vnscript-player <mode> [options]",
      "",
      "modes:",
      "  tui    (--example <id> | --project <dir>) [--state-file <path>]",
      "  agent  list",
      "  agent  start (--example <id> | --project <dir>) --state-out <path>",
      "  agent  choose --state-in <path> --choice <index> --state-out <path>",
      "  agent  input --state-in <path> --text <text> --state-out <path>",
      ""]

/-- What comes of a command line: the exit code and the texts of both output channels, or a session
of the text screen. -/
inductive Outcome where
  | finished (exitCode : Nat) (out err : Text) (world : World)
  | screen (session : Session) (world : World)

/-- Lines, each ended by a line feed. -/
def ended (lines : List Text) : Text := lines.flatMap fun l => l ++ [Text.unit '\n']

/-- Opens the text screen, or says on the second channel why it cannot be opened. -/
def openScreen (arguments : List Text) (size : TerminalSize) (world : World) : Outcome :=
  match Session.open arguments size world with
  | .ok session after => .screen session after
  | .error failure after => .finished 1 [] (ended [failure.message]) after

/-- Does what a command line says. -/
def run (arguments : List Text) (size : TerminalSize) (world : World) : Outcome :=
  match arguments with
  | [] => .finished 0 usage [] world
  | mode :: rest =>
    if mode = Text.ofString "--help" || mode = Text.ofString "-h" then .finished 0 usage [] world
    else if mode = Text.ofString "agent" then
      let (code, lines, after) := Agent.run rest world
      .finished code (ended lines) [] after
    else if mode = Text.ofString "tui" then openScreen rest size world
    else .finished 1 [] (ScriptProblem.sentence ["Unknown mode: ", mode, "\n\n", usage]) world

end CommandLine
end VisualNovel
