import DocumentClient.Text.Blank
import DocumentClient.Text.LetterCase

namespace DocumentClient

open Text

inductive Operator
  | notEqual
  | atLeast
  | atMost
  | equal
  | greater
  | less
  | notIn
  | oneOf
  deriving DecidableEq, Repr

namespace Operator

/-- The order in which a clause is searched: no token comes after one that it contains. -/
def scanOrder : List Operator :=
  [notEqual, atLeast, atMost, equal, greater, less, notIn, oneOf]

def surface : Operator → String
  | notEqual => "!="
  | atLeast => ">="
  | atMost => "<="
  | equal => "="
  | greater => ">"
  | less => "<"
  | notIn => "not in"
  | oneOf => "in"

def suffix : Operator → String
  | notEqual => "__not"
  | atLeast => "__gte"
  | atMost => "__lte"
  | equal => ""
  | greater => "__gt"
  | less => "__lt"
  | notIn => "__notin"
  | oneOf => "__in"

def takesList : Operator → Bool
  | notIn | oneOf => true
  | _ => false

def surfaceWords (op : Operator) : List (List Char) := words op.surface.toList

def wordCount (op : Operator) : Nat := op.surfaceWords.length

def ofSurface? (s : String) : Option Operator :=
  scanOrder.find? fun op => op.surface.toList = lowercase s.toList

def scan (text : List Char) : Option Operator :=
  scanOrder.find? fun op => occurs op.surface.toList text

def keyFor (op : Operator) (column : String) : String := column ++ op.suffix

end Operator

end DocumentClient
