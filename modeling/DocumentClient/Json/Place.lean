import DocumentClient.Text.Digits
import DocumentClient.Text.Split

namespace DocumentClient.Json

open Text

structure Place where
  line : Nat
  column : Nat
  deriving DecidableEq, Repr

namespace Place

def lineMark : List Char := " at line ".toList

def columnMark : List Char := " column ".toList

def chars (p : Place) : List Char :=
  lineMark ++ natDigits p.line ++ columnMark ++ natDigits p.column

def number? (s : List Char) : Option Nat := (wholeNumber? s).filter (· < UInt64.size)

def cut? (message : List Char) : Option (List Char × Place) := do
  let (before, place) ← cutLast? lineMark message
  let (line, rest) := spanDigits place
  guard (columnMark.isPrefixOf rest)
  let line ← number? line
  let column ← number? (rest.drop columnMark.length)
  return (before, { line, column })

def plain (message : List Char) : List Char :=
  match cut? message with
  | none => message
  | some (before, p) => if p.line = 0 then before else before ++ p.chars

end Place

end DocumentClient.Json
