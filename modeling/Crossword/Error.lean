/-!
# Errors

Everything that can go wrong, told apart by its cause. `Error.message` is the one place where the
causes are put into words for the user.
-/

namespace Crossword

/-- Why a list of words or clues is refused. -/
inductive InputFault where
  | noWords
  | emptyWord
  | tooLong (word : String) (length side : Nat)
  | repeated (word : String)
  | clueCount (words clues : Nat)
  /-- A fault told in words. -/
  | described (text : String)
  deriving DecidableEq

namespace InputFault

/-- The fault in words. -/
def message : InputFault → String
  | noWords => "word list is empty"
  | emptyWord => "word list contains an empty word"
  | tooLong word length side =>
    s!"'{word}' has {length} letters but the grid side is {side}"
  | repeated word => s!"'{word}' appears more than once"
  | clueCount words clues => s!"{words} words but {clues} clues"
  | described text => text

end InputFault

/-- How a grid can disagree with the words placed on it. -/
inductive Disagreement where
  /-- A word's squares are not a straight run of the word's length. -/
  | notStraight (word : String)
  /-- A square of a word does not hold the word's letter. -/
  | wrongLetter (letter : Char) (word : String)
  /-- A letter belongs to no word. -/
  | unowned
  /-- A disagreement told in words. -/
  | described (text : String)
  deriving DecidableEq

namespace Disagreement

/-- The disagreement in words. -/
def message : Disagreement → String
  | notStraight word => s!"placement of '{word}' is not a straight run of its length"
  | wrongLetter letter word => s!"cell does not hold '{letter}' of '{word}'"
  | unowned => "letter is not owned by any placed word"
  | described text => text

end Disagreement

/-- The parameters with a range of their own. -/
inductive Parameter where
  | maxAttempts
  | backtrackBudget
  | timeBudget
  | bestOf
  deriving DecidableEq

namespace Parameter

/-- The parameter's name. -/
def name : Parameter → String
  | maxAttempts => "max_attempts"
  | backtrackBudget => "backtrack_budget"
  | timeBudget => "time_budget"
  | bestOf => "best_of"

/-- What a zero is told. -/
def requirement : Parameter → String
  | maxAttempts => "at least one attempt is required"
  | backtrackBudget => "must be positive"
  | timeBudget => "must be positive"
  | bestOf => "at least one layout must be kept"

end Parameter

/-- The system's numbered refusals to read a file. -/
inductive SystemFault where
  | notFound
  | permissionDenied
  | notADirectory
  | isADirectory
  | nameTooLong
  deriving DecidableEq

namespace SystemFault

/-- The system's number of the fault. -/
def code : SystemFault → Nat
  | notFound => 2
  | permissionDenied => 13
  | notADirectory => 20
  | isADirectory => 21
  | nameTooLong => 36

/-- The name of the fault's kind. -/
def kind : SystemFault → String
  | notFound => "NotFound"
  | permissionDenied => "PermissionDenied"
  | notADirectory => "NotADirectory"
  | isADirectory => "IsADirectory"
  | nameTooLong => "InvalidFilename"

/-- The system's text for the fault. -/
def text : SystemFault → String
  | notFound => "No such file or directory"
  | permissionDenied => "Permission denied"
  | notADirectory => "Not a directory"
  | isADirectory => "Is a directory"
  | nameTooLong => "File name too long"

end SystemFault

/-- Why a file could not be read or written. -/
inductive FileFault where
  | system (fault : SystemFault)
  /-- The bytes are not the encoding of a text. -/
  | notText
  /-- The path holds the character that ends names. -/
  | nulInPath
  /-- A fault told in words. -/
  | described (text : String)
  deriving DecidableEq

namespace FileFault

/-- The fault in words. -/
def message : FileFault → String
  | system fault => s!"{fault.text} (os error {fault.code})"
  | notText => "stream did not contain valid UTF-8"
  | nulInPath => "file name contained an unexpected NUL byte"
  | described text => text

end FileFault

/-- What was being done with a file. -/
inductive FileOperation where
  | read
  | write
  | unknown
  deriving DecidableEq

namespace FileOperation

/-- The operation's name. -/
def name : FileOperation → String
  | read => "read"
  | write => "write"
  | unknown => "unknown"

end FileOperation

/-- Everything that can go wrong. -/
inductive Error where
  /-- The words or clues are refused before any search. -/
  | invalidInput (fault : InputFault)
  /-- The search tried everything without placing all words. -/
  | infeasible (attempts wordsPlaced wordsTotal : Nat)
  /-- Every attempt ran out of its budget. -/
  | searchAbandoned (attempts backtracks : Nat)
  /-- A finished grid disagrees with its layout. -/
  | invariantViolation (row col : Nat) (reason : Disagreement)
  /-- A parameter is out of range. -/
  | invalidParameter (parameter : Parameter) (value reason : String)
  /-- A file could not be used. -/
  | fileSystem (path : String) (operation : FileOperation) (source : FileFault)
  deriving DecidableEq

namespace Error

/-- The error in words. -/
def message : Error → String
  | invalidInput fault => s!"Invalid input: {fault.message}"
  | infeasible attempts wordsPlaced wordsTotal =>
    s!"No interlocking layout exists after {attempts} attempt(s) " ++
      s!"(at most {wordsPlaced} of {wordsTotal} words placed)"
  | searchAbandoned attempts backtracks =>
    s!"Search abandoned after {attempts} attempt(s) and {backtracks} backtracks"
  | invariantViolation row col reason =>
    s!"Layout invariant violated at ({row}, {col}): {reason.message}"
  | invalidParameter parameter value reason =>
    s!"Invalid parameter '{parameter.name}' = '{value}': {reason}"
  | fileSystem path operation source =>
    s!"File system error during {operation.name} on '{path}': {source.message}"

/-- Holds of the errors that the search reports, as opposed to bad input. -/
def isSearchFailure : Error → Bool
  | infeasible .. | searchAbandoned .. => true
  | _ => false

/-- The fault behind the error, where there is one of its own. -/
def source? : Error → Option FileFault
  | fileSystem _ _ source => some source
  | _ => none

/-- A file fault of which neither the path nor the operation is known. -/
def ofFileFault (source : FileFault) : Error := fileSystem "<unknown>" .unknown source

end Error

end Crossword
