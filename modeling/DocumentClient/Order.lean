import DocumentClient.Json
import DocumentClient.Text.Blank
import DocumentClient.Text.LetterCase

namespace DocumentClient

open Text

inductive Direction
  | ascending
  | descending
  deriving DecidableEq, Repr

namespace Direction

def ofText? (s : String) : Option Direction :=
  let s := lowercase s.toList
  if s = "asc".toList ∨ s = "ascending".toList then some ascending
  else if s = "desc".toList ∨ s = "descending".toList then some descending
  else none

def ofText (s : String) : Direction := (ofText? s).getD ascending

def text : Direction → String
  | ascending => "asc"
  | descending => "desc"

def reverse : Direction → Direction
  | ascending => descending
  | descending => ascending

@[simp] theorem ofText_text (d : Direction) : ofText d.text = d := by cases d <;> decide

@[simp] theorem reverse_reverse (d : Direction) : d.reverse.reverse = d := by cases d <;> rfl

end Direction

inductive OrderFormat
  | pair
  | clause
  deriving DecidableEq, Repr

namespace OrderFormat

def ofText? (s : String) : Option OrderFormat :=
  let s := lowercase s.toList
  if s = "pair".toList then some pair else if s = "clause".toList then some clause else none

def text : OrderFormat → String
  | pair => "pair"
  | clause => "clause"

@[simp] theorem ofText?_text (f : OrderFormat) : ofText? f.text = some f := by
  cases f <;> decide

end OrderFormat

structure Order where
  field : String
  direction : Direction
  deriving DecidableEq, Repr

namespace Order

def parse (clause : String) : Order :=
  match words clause.toList with
  | [] => ⟨"", .ascending⟩
  | [field] => ⟨String.ofList field, .ascending⟩
  | field :: direction :: _ => ⟨String.ofList field, .ofText (String.ofList direction)⟩

def ofPair (field direction : String) : Order := ⟨field, .ofText direction⟩

def reversed (o : Order) : Order := { o with direction := o.direction.reverse }

def clause (o : Order) : String := o.field ++ " " ++ o.direction.text

def toJson (o : Order) : OrderFormat → Json
  | .pair => .arr [.str o.direction.text, .str o.field]
  | .clause => .str o.clause

end Order

end DocumentClient
