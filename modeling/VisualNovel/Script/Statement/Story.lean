import VisualNovel.Script.Statement.Basic

/-!
Statements about the course of the story: lines, jumps, pauses, variables, questions, saves.
-/

namespace VisualNovel.Statement

open Reader

/-- A line, spoken or told. -/
def say (speaker : Option Text) : Reader Command := do
  let text ← expectString "dialogue text"
  endStatement
  return .say speaker text

/-- A jump to a label. -/
def jump : Reader Command := do
  let target ← expectWord "jump target"
  endStatement
  return .jump target

/-- A pause: for some seconds, for the voice or for the video. -/
def wait : Reader Command := do
  if ← acceptWord "voice" then
    endStatement
    return .waitVoice
  if ← acceptWord "video" then
    endStatement
    return .waitVideo
  let seconds ← expectNumber "wait seconds"
  endStatement
  return .wait seconds

/-- A notice on the screen. -/
def notify : Reader Command := do
  let text ← expectString "notification text"
  let seconds ←
    if (← look Cursor.kind) = some .number then some <$> expectNumber "notification seconds"
    else pure none
  endStatement
  return .notify text seconds

/-- The game is saved. -/
def save : Reader Command := do
  let slot ← optionalWord "save slot"
  endStatement
  return .save slot

/-- A saved game is loaded. -/
def load : Reader Command := do
  let slot ← optionalWord "save slot"
  endStatement
  return .load slot

/-- A variable is set. -/
def set : Reader Command := do
  let name ← expectWord "variable name"
  let value ← operand "variable value"
  endStatement
  return .setVariable name value

/-- A variable, whose name may be written in several words, is counted up or down. -/
def track : Reader Command := do
  let words ← run .word (expectWord "tracked name")
  if words.isEmpty then fail .trackName
  let amount ← expectNumber "track amount"
  endStatement
  return .addVariable (Text.join "_" words) amount

/-- A question to be answered in words. -/
def input : Reader Command := do
  let name ← expectWord "input variable"
  let prompt ← expectString "input prompt"
  let default ← if ← acceptWord "default" then some <$> expectString "input default" else pure none
  endStatement
  return .input name prompt default

/-! ## Choices -/

/-- The time limit of a choice and the option taken when it is over. -/
def timeLimit : Reader (Option Float × Option Float) := do
  if ← acceptWord "timeout" then
    let timeout ← expectNumber "choice timeout"
    if !(← look (·.isWord "default")) then fail .timeoutWithoutDefault
    expectKeyword "default"
    let ordinal ← expectInt "default option"
    return (some timeout, some ordinal)
  else if ← look (·.isWord "default") then fail .defaultWithoutTimeout
  else return (none, none)

/-- One option of a choice. -/
def choiceOption : Reader ChoiceOption := do
  let text ← expectString "option text"
  let _ ← expect .arrow (inQuotes "->")
  let target ← expectWord "option target"
  return ⟨text, target⟩

/-- Whether another option follows: directly, or behind a semicolon. -/
def moreOptions (c : Cursor) : Bool :=
  c.kind = some .string ||
    (c.kind = some .semi && c.kindAhead 1 = some .string && c.kindAhead 2 = some .arrow)

/-- One more option, with the semicolon before it if there is one. -/
def anotherOption (done : List ChoiceOption) : Reader (List ChoiceOption) := do
  let _ ← accept .semi none
  return (← choiceOption) :: done

/-- A choice between options. -/
def ask : Reader Command := do
  let prompt ← expectString "choice prompt"
  let (timeout, ordinal) ← timeLimit
  let first ← choiceOption
  let options := (← gather (fun c => !moreOptions c) anotherOption [first]).reverse
  match ordinal with
  | some n => if n < 1.0 || Float.ofNat options.length < n then fail (.defaultRange options.length)
  | none => pure ()
  endStatement
  return .choice prompt options timeout (ordinal.map Ordinal.ofNumber)

end VisualNovel.Statement
