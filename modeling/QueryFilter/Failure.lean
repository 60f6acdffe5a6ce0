import QueryFilter.Value.Literal

/-!
# Failures

A failure of the library as a caller sees it: what kind it is, a message, and details
that are shown in brackets behind the message (`Failure.text`). Reading a request
never fails in this way; building a parser from invalid options does.
-/

namespace QueryFilter

/-- The kinds of failures, each of which is also one of the kind before it. -/
inductive FailureKind where
  | general
  | configuration
  | invalidConfig
deriving DecidableEq, Repr, Inhabited

/-- A kind and the kinds it is one of, the most special first. -/
def FailureKind.ancestry : FailureKind → List FailureKind
  | .general => [.general]
  | .configuration => [.configuration, .general]
  | .invalidConfig => [.invalidConfig, .configuration, .general]

/-- A failure with its message and its details. -/
structure Failure where
  kind : FailureKind
  message : String
  details : Document
deriving Inhabited

namespace Failure

/-- The details as text. -/
def detailsText (f : Failure) : String :=
  String.intercalate ", " (f.details.map fun (name, v) => name ++ "=" ++ v.literal)

/-- The text of a failure: the message, and the details if there are any. -/
def text (f : Failure) : String :=
  if f.details.isEmpty then f.message
  else if f.message = "" then f.detailsText
  else f.message ++ " (" ++ f.detailsText ++ ")"

end Failure

end QueryFilter
