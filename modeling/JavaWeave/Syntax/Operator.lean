namespace JavaWeave.Syntax

inductive BinaryOp where
  | add | sub | mul | div | rem
  | and | or
  | bitAnd | bitOr | bitXor
  | shl | shr | ushr
  | eq | ne | lt | le | gt | ge
  deriving DecidableEq, Repr

namespace BinaryOp

def symbol : BinaryOp → String
  | .add => "+"
  | .sub => "-"
  | .mul => "*"
  | .div => "/"
  | .rem => "%"
  | .and => "&&"
  | .or => "||"
  | .bitAnd => "&"
  | .bitOr => "|"
  | .bitXor => "^"
  | .shl => "<<"
  | .shr => ">>"
  | .ushr => ">>>"
  | .eq => "=="
  | .ne => "!="
  | .lt => "<"
  | .le => "<="
  | .gt => ">"
  | .ge => ">="

/-- How tightly an operator binds; a higher level binds tighter. -/
def precedence : BinaryOp → Nat
  | .or => 3
  | .and => 4
  | .bitOr => 5
  | .bitXor => 6
  | .bitAnd => 7
  | .eq | .ne => 8
  | .lt | .le | .gt | .ge => 9
  | .shl | .shr | .ushr => 10
  | .add | .sub => 11
  | .mul | .div | .rem => 12

end BinaryOp

inductive UnaryOp where
  | not | neg | plus | bitNot
  | preInc | preDec
  | postInc | postDec
  deriving DecidableEq, Repr

namespace UnaryOp

def symbol : UnaryOp → String
  | .not => "!"
  | .neg => "-"
  | .plus => "+"
  | .bitNot => "~"
  | .preInc | .postInc => "++"
  | .preDec | .postDec => "--"

/-- Whether the operator follows its operand. -/
def follows : UnaryOp → Bool
  | .postInc | .postDec => true
  | _ => false

/-- Whether the operator changes its operand. -/
def steps : UnaryOp → Bool
  | .preInc | .preDec | .postInc | .postDec => true
  | _ => false

end UnaryOp

end JavaWeave.Syntax
