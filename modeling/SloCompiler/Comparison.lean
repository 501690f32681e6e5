import SloCompiler.Refusal

namespace SloCompiler

inductive Comparison where
  | lt
  | le
  | gt
  | ge
  | eq
  | ne
  deriving DecidableEq, Repr

namespace Comparison

def text : Comparison → String
  | .lt => "<"
  | .le => "<="
  | .gt => ">"
  | .ge => ">="
  | .eq => "=="
  | .ne => "!="

def all : List Comparison := [.lt, .le, .gt, .ge, .eq, .ne]

def ofText? (text : String) : Option Comparison := all.find? (·.text == text)

def negate : Comparison → Comparison
  | .lt => .ge
  | .le => .gt
  | .gt => .le
  | .ge => .lt
  | .eq => .ne
  | .ne => .eq

def negateText (text : String) : Except Refusal String :=
  match ofText? text with
  | some c => .ok c.negate.text
  | none => .error (.comparison text)

end Comparison

end SloCompiler
