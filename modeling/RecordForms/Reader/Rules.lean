import RecordForms.Reader.Expression
import RecordForms.Reader.Target
import RecordForms.Reader.TypeAnnotation

/-!
# The rules of expressions

The rules, each given as a function of those for what stands inside, put together.

## Main definitions

* `Rules.ofDepth`: the rules for what is nested no deeper than a number
-/

namespace RecordForms.Reader

/-- What stands in the braces of a formatted literal. -/
def Parse.interpolated (r : Rules) : Parse Piece :=
  Parse.expressionOrYield r (Parse.expressions r .closer) .closer

/-- The rules for what is nested no deeper than a number. -/
def Rules.ofDepth : Nat → Rules
  | 0 => default
  | n + 1 =>
    { expression := fun level f c => Parse.expressionWith (ofDepth n) level f c
      operand := fun rank f c => Parse.operandWith (ofDepth n) rank f c
      signed := fun f c => Parse.signedWith (ofDepth n) f c
      target := fun f c => Parse.targetWith (ofDepth n) f c
      type := fun isConstrained f c => Parse.typeWith (ofDepth n) isConstrained f c
      interpolation := fun c =>
        Parse.interpolationWith (ofDepth n) (Parse.interpolated (ofDepth n)) c }

end RecordForms.Reader
