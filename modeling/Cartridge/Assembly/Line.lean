import Cartridge.Entity.Param

/-!
Lines of assembly source, and the text they are written as.
-/

namespace Cartridge.Assembly

inductive Line where
  | blank
  | label (symbol : String)
  | data (size : Width) (operand remark : String)
  /-- A quoted text followed by zero bytes. -/
  | name (quoted : String) (zeros : Nat) (remark : String)
  | comment (remark : String)
  | even
  /-- What follows, up to the end of the condition, is left out of final builds. -/
  | unlessFinal
  | endCondition
  deriving DecidableEq, Repr

def nameOperands (text : String) (zeros : Nat) : String :=
  "\"" ++ text ++ "\"" ++ String.join (List.replicate zeros ",0")

namespace Line

/-- The line as it is written, without its line end. -/
def text : Line → String
  | .blank => ""
  | .label symbol => symbol ++ ":"
  | .data size operand remark =>
    "\t" ++ size.directive ++ " " ++ operand ++ "\t; " ++ remark
  | .name quoted zeros remark =>
    "\t" ++ Width.byte.directive ++ " " ++ nameOperands quoted zeros ++ "\t; " ++ remark
  | .comment remark => "\t; " ++ remark
  | .even => "\teven"
  | .unlessFinal => "\tIFND FINAL"
  | .endCondition => "\tENDIF"

end Line

def render (lines : List Line) : String :=
  String.join (lines.map fun l => l.text ++ "\n")

@[simp] theorem render_nil : render [] = "" := rfl

@[simp] theorem render_cons (l : Line) (ls : List Line) :
    render (l :: ls) = l.text ++ "\n" ++ render ls := by
  simp [render]

end Cartridge.Assembly
