import Gradual.Location
import Gradual.Text.Quoted

/-! Tokens of the language. -/
namespace Gradual

namespace Token

inductive Kind where
  | fn | tru | fls | int | bool
  | arrow | lambda | plus | colon | dot | question | semisemi
  | lparen | rparen
  | ident | number
  | eof
  deriving DecidableEq

namespace Kind

def name : Kind → String
  | fn => "FUN"
  | tru => "TRUE"
  | fls => "FALSE"
  | int => "INT"
  | bool => "BOOL"
  | arrow => "ARROW"
  | lambda => "LAMBDA"
  | plus => "PLUS"
  | colon => "COLON"
  | dot => "DOT"
  | question => "QUESTION"
  | semisemi => "SEMISEMI"
  | lparen => "LPAREN"
  | rparen => "RPAREN"
  | ident => "IDENT"
  | number => "NUMBER"
  | eof => "EOF"

def beginsLambda : Kind → Bool
  | fn | lambda => true
  | _ => false

def beginsAtom : Kind → Bool
  | ident | number | tru | fls | lparen => true
  | _ => false

end Kind

end Token

structure Token where
  kind : Token.Kind
  text : String
  location : Location
  deriving DecidableEq

def Token.render (t : Token) : String := t.kind.name ++ "(" ++ Text.quote t.text ++ ")"

end Gradual
