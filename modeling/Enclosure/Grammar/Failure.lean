/-!
# Failures of grammars and parsers

Grammars and the parser are code from elsewhere, which may fail wherever it runs. A failure has a
kind and a message. Its kind decides whether it is expected at the point where it happens: getting a
grammar and running the parser expect different kinds.
-/

set_option autoImplicit false

namespace Enclosure

/-- The kinds of failures of code from elsewhere. -/
inductive FailureKind
  /-- A module cannot be imported. -/
  | missingModule
  /-- Something does not have a name that it is asked for. -/
  | missingName
  /-- Something is of the wrong type. -/
  | wrongType
  /-- A value is not one that can be used. -/
  | wrongValue
  /-- Something breaks down while it runs. -/
  | breakdown
deriving DecidableEq

namespace FailureKind

/-- Whether a failure on the way to a language means that its grammar is not available. -/
def isExpectedOfGrammar : FailureKind → Bool
  | .missingModule | .missingName | .wrongType | .wrongValue => true
  | .breakdown => false

/-- Whether a failure while a text is parsed means that the parser has given up on it. -/
def isExpectedOfParser : FailureKind → Bool
  | .wrongValue | .breakdown => true
  | .missingModule | .missingName | .wrongType => false

end FailureKind

/-- A failure of code from elsewhere. -/
structure ForeignFailure where
  kind : FailureKind
  message : String
deriving DecidableEq

end Enclosure
