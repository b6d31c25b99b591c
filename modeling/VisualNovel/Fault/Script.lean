import VisualNovel.Script.Token
import VisualNovel.Number.Decimal

/-!
What can be wrong with a script.

Each constructor is one cause; `code` is the name under which tools know it and `message` its
wording.
-/

namespace VisualNovel

/-- Where a string literal was cut off. -/
inductive CutOff where
  | line | input
  deriving DecidableEq, Repr, Inhabited

/-- What is wrong with a script. -/
inductive ScriptProblem where
  -- tokens
  | badColor (lexeme : Text)
  | badEscape (lexeme : Text)
  | openString (cut : CutOff)
  | badNumber (lexeme : Text)
  | strayUnit (unit : UInt16)
  /-- A loop that goes on for ever. -/
  | stalled
  -- single tokens that were expected
  | endOfInput
  | expected (kind : TokenKind) (what : Text) (found : Option Token)
  | expectedKeyword (keyword : Text) (found : Option Token)
  | expectedInteger (what found : Text)
  | expectedBool (what : Text) (found : Option Token)
  | vocabulary (domain : Text) (allowed : List Text) (got : Text)
  -- parts of statements
  | unexpectedIn (value domain : Text)
  | unexpectedStart (value : Text)
  | strayBrace
  | openBlock
  | expectedColor (what found : Text)
  | expectedValue (what found : Text)
  | twoNumbers (what : Text) (count : Nat)
  | bareNumber (domain : Text)
  | oddNumbers (what : Text) (count : Nat)
  | rectSize
  | tooFewPoints (what : Text)
  | zoomRange
  | meterRange
  | defaultRange (options : Nat)
  | timeoutWithoutDefault
  | defaultWithoutTimeout
  | trackName
  | checkForm
  | unknownField (name : Text)
  | unknownCommand (word : Text)
  -- whole files
  | duplicateLabel (name : Text)
  | includeOrder
  | duplicateAlias (name : Text)
  | fileNotFound (path resolved : Text)
  | scriptNotFound (path : Text)
  | includeCycle (chain : List Text)
  | unknownLabel (target kind : Text)
  -- anything a caller names itself
  | named (code message : Text)
  deriving DecidableEq, Repr, Inhabited

namespace ScriptProblem

/-- The name of a cause for tools. -/
def code : ScriptProblem → Text
  | badColor _ => "PARSE_BAD_COLOR"
  | badEscape _ => "PARSE_BAD_ESCAPE"
  | openString _ => "PARSE_UNTERMINATED_STRING"
  | badNumber _ => "PARSE_BAD_NUMBER"
  | strayUnit _ => "PARSE_UNEXPECTED_CHARACTER"
  | stalled => "PARSE_STALLED"
  | endOfInput => "PARSE_UNEXPECTED_EOF"
  | expected kind _ _ => Text.ofString "PARSE_EXPECTED_" ++ kind.tag
  | expectedKeyword _ _ => "PARSE_EXPECTED_WORD"
  | expectedInteger _ _ => "PARSE_EXPECTED_INTEGER"
  | expectedBool _ _ => "PARSE_EXPECTED_BOOL"
  | vocabulary _ _ _ => "PARSE_VOCABULARY"
  | unexpectedIn _ _ => "PARSE_UNEXPECTED_TOKEN"
  | unexpectedStart _ => "PARSE_UNEXPECTED_TOKEN"
  | strayBrace => "PARSE_UNEXPECTED_TOKEN"
  | openBlock => "PARSE_UNEXPECTED_EOF"
  | expectedColor _ _ => "PARSE_EXPECTED_COLOR"
  | expectedValue _ _ => "PARSE_EXPECTED_VALUE"
  | twoNumbers _ _ => "PARSE_ARITY"
  | bareNumber _ => "PARSE_ARITY"
  | oddNumbers _ _ => "PARSE_ARITY"
  | rectSize => "PARSE_ARITY"
  | tooFewPoints _ => "PARSE_ARITY"
  | zoomRange => "PARSE_RANGE"
  | meterRange => "PARSE_RANGE"
  | defaultRange _ => "PARSE_RANGE"
  | timeoutWithoutDefault => "PARSE_EXPECTED_WORD"
  | defaultWithoutTimeout => "PARSE_EXPECTED_WORD"
  | trackName => "PARSE_EXPECTED_WORD"
  | checkForm => "PARSE_EXPECTED_WORD"
  | unknownField _ => "PARSE_UNKNOWN_FIELD"
  | unknownCommand _ => "PARSE_UNKNOWN_KEYWORD"
  | duplicateLabel _ => "PARSE_DUPLICATE_LABEL"
  | includeOrder => "PARSE_INCLUDE_ORDER"
  | duplicateAlias _ => "PARSE_DUPLICATE_ALIAS"
  | fileNotFound _ _ => "PARSE_FILE_NOT_FOUND"
  | scriptNotFound _ => "PARSE_FILE_NOT_FOUND"
  | includeCycle _ => "PARSE_INCLUDE_CYCLE"
  | unknownLabel _ _ => "PARSE_LABEL_UNKNOWN"
  | named code _ => code

/-- Pieces of a message one after another. -/
def sentence (pieces : List Text) : Text := pieces.flatten

/-- The wording of a cause. -/
def message : ScriptProblem → Text
  | badColor lexeme => sentence ["Invalid color literal ", inQuotes lexeme, "."]
  | badEscape lexeme => sentence ["Unknown escape sequence ", inQuotes lexeme, "."]
  | openString .line => "String literal is not closed before end of line."
  | openString .input => "String literal is not closed before end of input."
  | badNumber lexeme => sentence ["Invalid number literal ", inQuotes lexeme, "."]
  | strayUnit unit => sentence ["Unexpected character ", inQuotes [unit], "."]
  | stalled => "No progress."
  | endOfInput => "Unexpected end of input."
  | expected _ what found => sentence ["Expected ", what, " but found ", Token.describe found, "."]
  | expectedKeyword keyword found =>
    sentence ["Expected ", inQuotes keyword, " but found ", Token.describe found, "."]
  | expectedInteger what found =>
    sentence ["Expected integer ", what, " but found ", inQuotes found, "."]
  | expectedBool what found =>
    sentence ["Expected true or false for ", what, " but found ", Token.describe found, "."]
  | vocabulary domain allowed got =>
    sentence
      [domain, " must be one of \x7b", Text.join ", " allowed, "\x7d; got ", inQuotes got, "."]
  | unexpectedIn value domain =>
    sentence ["Unexpected ", inQuotes value, " in ", domain, " statement."]
  | unexpectedStart value => sentence ["Unexpected ", inQuotes value, " at start of statement."]
  | strayBrace => "Unexpected \"\x7d\" outside of a block."
  | openBlock => "Block is not closed with \"\x7d\"."
  | expectedColor what found => sentence ["Expected ", what, " but found ", inQuotes found, "."]
  | expectedValue what found => sentence ["Expected ", what, " but found ", inQuotes found, "."]
  | twoNumbers what count =>
    sentence ["Expected two numbers for ", what, " but found ", Text.ofNat count, "."]
  | bareNumber domain => sentence ["Unexpected number in ", domain, " statement."]
  | oddNumbers what count =>
    sentence [what, " needs x/y pairs but found ", Text.ofNat count, " numbers."]
  | rectSize => "rect needs a width and height."
  | tooFewPoints what => sentence [what, " needs at least three points."]
  | zoomRange => "camera zoom must be greater than zero."
  | meterRange => "meter max must be greater than min."
  | defaultRange options =>
    sentence ["choice default must be between 1 and ", Text.ofNat options, "."]
  | timeoutWithoutDefault => "choice timeout needs a default option."
  | defaultWithoutTimeout => "choice default needs a timeout."
  | trackName => "track needs a variable name."
  | checkForm => "check needs \"go <label>\" or a \"\x7b ... \x7d\" body."
  | unknownField name => sentence ["Unknown character field ", inQuotes name, "."]
  | unknownCommand word => sentence ["Unknown command ", inQuotes word, "."]
  | duplicateLabel name => sentence ["Duplicate label ", inQuotes name, "."]
  | includeOrder => "include must appear before any other commands."
  | duplicateAlias name => sentence ["Include alias ", inQuotes name, " is already used."]
  | fileNotFound path resolved =>
    sentence ["Script file ", inQuotes path, " not found (resolved to ", resolved, ")."]
  | scriptNotFound path => sentence ["Script file not found: ", path]
  | includeCycle chain => sentence ["Include cycle detected: ", Text.join " -> " chain]
  | unknownLabel target kind =>
    sentence ["Unknown label ", inQuotes target, " referenced by ", kind, "."]
  | named _ message => message

end ScriptProblem
end VisualNovel
