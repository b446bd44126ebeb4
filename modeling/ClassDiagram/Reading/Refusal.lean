import ClassDiagram.Source.Token

/-!
# Refusals

Why a list of tokens has no outline, and where.  The cause is a value; its
wording is given by one function.  The place is the number of tokens that are
left, which is enough to find the token and its position in the source.
-/

namespace ClassDiagram

/-- A cause for which a list of tokens is refused. -/
inductive SyntaxFault where
  /-- A single mark is missing. -/
  | missingMark (c : Char)
  | missingScopeEnd
  | missingTypeEnd (name : String)
  | missingTypeBody (name : String)
  | missingEnumerationBody (name : String)
  | missingMethodBody (name : String)
  | missingScopeName
  | missingNameAfterDot
  | missingTypeName
  | missingEnumerationName
  | missingVariant
  | missingParameterType
  | missingParameterName
  | unclosedTypeArguments
  | strayScopeEnd
  | strayClosingMark
  | earlyEnd
  deriving DecidableEq, Repr

/-- The wording of a cause, without what was found instead. -/
def SyntaxFault.wording : SyntaxFault → String
  | .missingMark c => "expected '" ++ String.singleton c ++ "'"
  | .missingScopeEnd => "expected '\x7d' to close namespace"
  | .missingTypeEnd name =>
      "expected '\x7d' to close type '" ++ name ++ "'"
  | .missingTypeBody name => "expected '\x7b' to open type '" ++ name ++ "'"
  | .missingEnumerationBody name =>
      "expected '\x7b' to open enum '" ++ name ++ "'"
  | .missingMethodBody name => "expected body of method '" ++ name ++ "'"
  | .missingScopeName => "expected namespace name"
  | .missingNameAfterDot => "expected identifier after '.'"
  | .missingTypeName => "expected type name"
  | .missingEnumerationName => "expected enum name"
  | .missingVariant => "expected enum member"
  | .missingParameterType => "expected parameter type"
  | .missingParameterName => "expected parameter name"
  | .unclosedTypeArguments => "unterminated type argument list"
  | .strayScopeEnd => "unexpected '\x7d'"
  | .strayClosingMark => "unbalanced delimiter"
  | .earlyEnd => "unexpected end of input"

namespace Reading

/-- A cause and the number of tokens from the offending one to the last. -/
structure Refusal where
  fault : SyntaxFault
  left : Nat
  deriving DecidableEq, Repr

/-- What a reader answers: a value and the tokens behind it, or a refusal. -/
abbrev Result (α : Type) := Except Refusal (α × List Source.Token)

def refuseAt {α : Type} (fault : SyntaxFault) (tokens : List Source.Token) :
    Except Refusal α :=
  .error ⟨fault, tokens.length⟩

end Reading

end ClassDiagram
