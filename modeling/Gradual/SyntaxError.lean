import Gradual.Token

/-! What can be wrong with a source text, and where. -/
namespace Gradual

namespace SyntaxError

inductive Cause where
  | unexpectedCharacter (c : Char)
  | unclosedComment
  | expected (wanted got : Token.Kind)
  | unexpectedToken (got : Token.Kind)
  | unexpectedInType (got : Token.Kind)
  deriving DecidableEq

def Cause.message : Cause → String
  | .unexpectedCharacter c => "Unexpected character: " ++ Text.quote (String.ofList [c])
  | .unclosedComment => "Unclosed comment: expected *)"
  | .expected wanted got => "Expected " ++ wanted.name ++ ", got " ++ got.name
  | .unexpectedToken got => "Unexpected token: " ++ got.name
  | .unexpectedInType got => "Unexpected token in type: " ++ got.name

/-- Whether the text could not even be cut into tokens. -/
def Cause.isLexical : Cause → Bool
  | .unexpectedCharacter _ | .unclosedComment => true
  | .expected _ _ | .unexpectedToken _ | .unexpectedInType _ => false

end SyntaxError

structure SyntaxError where
  cause : SyntaxError.Cause
  location : Location
  deriving DecidableEq

def SyntaxError.message (e : SyntaxError) : String := e.location.render ++ ": " ++ e.cause.message

end Gradual
