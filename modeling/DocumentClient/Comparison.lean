import DocumentClient.Error
import DocumentClient.Literal

/-!
A clause is one comparison: a column, an operator and a value, each apart from the next by white
space.  The operator is looked for in the whole text and then has to stand right after the column.
-/

namespace DocumentClient

open Text

structure Comparison where
  column : String
  operator : Operator
  value : Literal
  deriving DecidableEq, Repr

namespace Comparison

def key (c : Comparison) : String := c.operator.keyFor c.column

def ofWords (clause : String) (op : Operator) (ws : List (List Char)) :
    Except Error Comparison :=
  if ws.length < op.wordCount + 2 then .error (.undeterminedQuery clause)
  else match ws with
    | [] => .error (.undeterminedQuery clause)
    | column :: rest =>
      if rest.take op.wordCount ≠ op.surfaceWords then .error (.invalidOperator clause)
      else match rest.drop op.wordCount with
        | [] => .error (.undeterminedQuery clause)
        | value :: _ => .ok ⟨String.ofList column, op, .coerce value (some op)⟩

/-- Letter case is dropped first, in the column and in the value too. -/
def parse (clause : String) : Except Error Comparison :=
  let text := lowercase clause.toList
  match Operator.scan text with
  | none => .error (.invalidOperator clause)
  | some op => ofWords clause op (words text)

end Comparison

end DocumentClient
