import VisualNovel.Fault.Script

/-!
What can be wrong with a request to the player: its arguments, its project or its state file.
-/

namespace VisualNovel

/-- What was wrong with a request to the player. -/
inductive PlayerProblem where
  -- arguments
  | strayArgument (argument : Text)
  | missingValue (flag : Text)
  | requiredFlag (flag : Text)
  | unknownScreenFlag (flag : Text)
  | emptyStateFile
  | sourceConflict
  | sourceRequired
  | choiceNotNumber (argument : Text)
  | missingSubcommand
  | unknownSubcommand (name : Text)
  -- projects
  | noPackageRoot
  | projectNotFound (path : Text)
  | entryNotFound (path : Text)
  | exampleNotFound (id : Text)
  | projectInvalid (file detail : Text)
  -- state files
  | stateNotFound (path : Text)
  | stateUnreadable
  | stateSchema (found : Text)
  | stateWithoutProject
  | stateSaveInvalid
  | stateMismatch (expected actual : Text)
  deriving DecidableEq, Repr, Inhabited

namespace PlayerProblem

/-- The name of a cause for tools. -/
def code : PlayerProblem → Text
  | strayArgument _ => "CLI_ARG_FORMAT"
  | missingValue _ => "CLI_ARG_MISSING"
  | requiredFlag _ => "CLI_ARG_REQUIRED"
  | unknownScreenFlag _ => "CLI_ARG_FORMAT"
  | emptyStateFile => "CLI_ARG_MISSING"
  | sourceConflict => "CLI_SOURCE_CONFLICT"
  | sourceRequired => "CLI_SOURCE_REQUIRED"
  | choiceNotNumber _ => "CLI_CHOICE_PARSE"
  | missingSubcommand => "CLI_AGENT_USAGE"
  | unknownSubcommand _ => "CLI_AGENT_USAGE"
  | noPackageRoot => "CLI_PROJECT_ROOT"
  | projectNotFound _ => "CLI_PROJECT_NOT_FOUND"
  | entryNotFound _ => "CLI_ENTRY_NOT_FOUND"
  | exampleNotFound _ => "CLI_EXAMPLE_NOT_FOUND"
  | projectInvalid _ _ => "CLI_PROJECT_INVALID"
  | stateNotFound _ => "CLI_STATE_NOT_FOUND"
  | stateUnreadable => "CLI_STATE_INVALID"
  | stateSchema _ => "CLI_STATE_SCHEMA"
  | stateWithoutProject => "CLI_STATE_INVALID"
  | stateSaveInvalid => "CLI_STATE_INVALID"
  | stateMismatch _ _ => "CLI_STATE_MISMATCH"

/-- The subcommands that a hint lists. -/
def subcommandHint : Text := "Use list/start/choose/input."

/-- The wording of a cause. -/
def message : PlayerProblem → Text
  | strayArgument argument => ScriptProblem.sentence ["Unexpected argument: ", argument]
  | missingValue flag => ScriptProblem.sentence ["Missing value for --", flag]
  | requiredFlag flag => ScriptProblem.sentence ["Missing required argument --", flag]
  | unknownScreenFlag flag => ScriptProblem.sentence ["Unknown argument for tui mode: --", flag]
  | emptyStateFile => "--state-file cannot be empty."
  | sourceConflict => "Use exactly one source selector: --project <dir> or --example <id>."
  | sourceRequired => "Missing source selector. Use --project <dir> or --example <id>."
  | choiceNotNumber argument => ScriptProblem.sentence ["Invalid choice index: ", argument]
  | missingSubcommand => ScriptProblem.sentence ["Missing agent subcommand. ", subcommandHint]
  | unknownSubcommand name =>
    ScriptProblem.sentence ["Unknown agent subcommand: ", name, ". ", subcommandHint]
  | noPackageRoot => "Cannot locate package root from CLI module path."
  | projectNotFound path => ScriptProblem.sentence ["Project directory does not exist: ", path]
  | entryNotFound path => ScriptProblem.sentence ["Entry script does not exist: ", path]
  | exampleNotFound id => ScriptProblem.sentence ["Unknown example project: ", id]
  | projectInvalid file detail => ScriptProblem.sentence [file, ": ", detail]
  | stateNotFound path => ScriptProblem.sentence ["State file does not exist: ", path]
  | stateUnreadable => "State file is invalid."
  | stateSchema found => ScriptProblem.sentence ["Unsupported player state schema: ", found]
  | stateWithoutProject => "State is missing projectId."
  | stateSaveInvalid => "State save payload is invalid."
  | stateMismatch expected actual =>
    ScriptProblem.sentence ["State project mismatch. expected=", expected, " actual=", actual]

end PlayerProblem
end VisualNovel
