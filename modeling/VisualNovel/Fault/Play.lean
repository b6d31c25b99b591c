import VisualNovel.Fault.Script

/-!
What can go wrong while a story is played.
-/

namespace VisualNovel

/-- What went wrong in play. -/
inductive PlayProblem where
  | guardExceeded (limit : Nat)
  | unknownLabel (name : Text)
  | choiceIndex (index : Text)
  | mapPointIndex (index : Text)
  | noPendingChoice
  | noPendingInput
  | unhandledCommand (command : Text)
  | saveUnusable (script : Text)
  | runnerStalled (ticks : Nat)
  deriving DecidableEq, Repr, Inhabited

namespace PlayProblem

/-- The name of a cause for tools. -/
def code : PlayProblem → Text
  | guardExceeded _ => "RUNTIME_GUARD_EXCEEDED"
  | unknownLabel _ => "RUNTIME_LABEL_UNKNOWN"
  | choiceIndex _ => "RUNTIME_CHOICE_INDEX"
  | mapPointIndex _ => "RUNTIME_CHOICE_INDEX"
  | noPendingChoice => "RUNTIME_NO_PENDING_CHOICE"
  | noPendingInput => "RUNTIME_NO_PENDING_INPUT"
  | unhandledCommand _ => "RUNTIME_UNKNOWN_COMMAND"
  | saveUnusable _ => "API_SAVE_UNUSABLE"
  | runnerStalled _ => "CLI_RUNNER_STALLED"

/-- The wording of a cause. -/
def message : PlayProblem → Text
  | guardExceeded limit =>
    ScriptProblem.sentence
      ["Execution guard exceeded ", Text.ofNat limit, " commands in one frame."]
  | unknownLabel name => ScriptProblem.sentence ["Unknown label ", inQuotes name, "."]
  | choiceIndex index => ScriptProblem.sentence ["Choice index ", index, " is out of range."]
  | mapPointIndex index => ScriptProblem.sentence ["Map point index ", index, " is out of range."]
  | noPendingChoice => "No pending choice."
  | noPendingInput => "No pending input."
  | unhandledCommand command => ScriptProblem.sentence ["Unhandled command ", command, "."]
  | saveUnusable script =>
    ScriptProblem.sentence ["Save for ", inQuotes script, " cannot be restored."]
  | runnerStalled ticks =>
    ScriptProblem.sentence ["Runtime did not reach a boundary in ", Text.ofNat ticks, " ticks."]

end PlayProblem
end VisualNovel
