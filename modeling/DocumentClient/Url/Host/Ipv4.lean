import DocumentClient.Text.Digits
import DocumentClient.Text.Split

namespace DocumentClient.Url.Ipv4

open Text

def ofBase (base : Nat) (ds : List Char) : Option Nat :=
  ds.foldlM (fun n c => (hexValue c).bind fun d =>
    if d < base then some (n * base + d) else none) 0

def number? : List Char → Option Nat
  | [] => none
  | '0' :: 'x' :: ds | '0' :: 'X' :: ds => ofBase 16 ds
  | '0' :: d :: ds => ofBase 8 (d :: ds)
  | ds => ofBase 10 ds

def parts (name : List Char) : List (List Char) :=
  let ps := name.splitOn '.'
  if ps.getLast? = some [] then ps.dropLast else ps

def endsInNumber (name : List Char) : Bool :=
  match (parts name).getLast? with
  | none => false
  | some part => (part ≠ [] && part.all Char.isDigit) || (number? part).isSome

def address? (name : List Char) : Option Nat := do
  let ps := parts name
  guard (ps.length ≤ 4)
  let numbers ← ps.mapM number?
  let last ← numbers.getLast?
  let bytes := numbers.dropLast
  guard (bytes.all (· < 256))
  guard (last < Nat.pow 256 (4 - bytes.length))
  some (bytes.zipIdx.foldl (fun n (b, i) => n + b * Nat.pow 256 (3 - i)) last)

def chars (address : Nat) : List Char :=
  natDigits (address / 16777216) ++ '.' :: natDigits (address / 65536 % 256) ++
    '.' :: natDigits (address / 256 % 256) ++ '.' :: natDigits (address % 256)

end DocumentClient.Url.Ipv4
