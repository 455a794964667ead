import Crossword.Error
import Crossword.Text.Quoted

/-!
# Errors as records

An error by its name and fields, which is how the program reports it before it stops. Texts are
quoted, so the report is one line whatever they hold.
-/

namespace Crossword

/-- A name with fields. -/
def recordText (name : String) (fields : List (String × String)) : String :=
  let texts := fields.map fun (field, value) => field ++ ": " ++ value
  name ++ " \x7b " ++ ", ".intercalate texts ++ " \x7d"

namespace FileFault

/-- The fault as a record. -/
def record : FileFault → String
  | system fault =>
    recordText "Os"
      [("code", toString fault.code), ("kind", fault.kind), ("message", Text.quoted fault.text)]
  | notText =>
    recordText "Error" [("kind", "InvalidData"), ("message", Text.quoted notText.message)]
  | nulInPath =>
    recordText "Error" [("kind", "InvalidInput"), ("message", Text.quoted nulInPath.message)]
  | described text => recordText "Custom" [("kind", "Other"), ("error", Text.quoted text)]

end FileFault

namespace Error

/-- The name of the error. -/
def name : Error → String
  | invalidInput .. => "InvalidInput"
  | infeasible .. => "Infeasible"
  | searchAbandoned .. => "SearchAbandoned"
  | invariantViolation .. => "InvariantViolation"
  | invalidParameter .. => "InvalidParameter"
  | fileSystem .. => "FileSystem"

/-- The fields of the error. -/
def fields : Error → List (String × String)
  | invalidInput fault => [("reason", Text.quoted fault.message)]
  | infeasible attempts wordsPlaced wordsTotal =>
    [("attempts", toString attempts), ("words_placed", toString wordsPlaced),
      ("words_total", toString wordsTotal)]
  | searchAbandoned attempts backtracks =>
    [("attempts", toString attempts), ("backtracks", toString backtracks)]
  | invariantViolation row col reason =>
    [("row", toString row), ("col", toString col), ("reason", Text.quoted reason.message)]
  | invalidParameter parameter value reason =>
    [("parameter", Text.quoted parameter.name), ("value", Text.quoted value),
      ("reason", Text.quoted reason)]
  | fileSystem path operation source =>
    [("path", Text.quoted path), ("operation", Text.quoted operation.name),
      ("source", source.record)]

/-- The error as a record. -/
def record (e : Error) : String := recordText e.name e.fields

end Error

end Crossword
