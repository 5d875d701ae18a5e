import DocumentClient.Binary64.Rounding
import DocumentClient.Binary64.Shortest
import DocumentClient.Text.Digits

namespace DocumentClient.Binary64

open Text

def positional (leading : Int) : Bool := -5 ≤ leading && leading < 16

def decimalText (digits : List Char) (exponent : Int) : List Char :=
  let point := digits.length + exponent
  if positional (point - 1) then
    if 0 ≤ exponent then digits ++ List.replicate exponent.toNat '0' ++ ['.', '0']
    else if 0 < point then digits.take point.toNat ++ '.' :: digits.drop point.toNat
    else '0' :: '.' :: List.replicate (-point).toNat '0' ++ digits
  else
    let mantissa := match digits with
      | d :: e :: ds => d :: '.' :: e :: ds
      | ds => ds
    let sign := if 0 < point then '+' else '-'
    mantissa ++ 'e' :: sign :: natDigits (point - 1).natAbs

def toText : Binary64 → List Char
  | finite s m e =>
    let body :=
      if m = 0 then ['0', '.', '0']
      else
        let (c, k) := Shortest.decimal m e
        decimalText (natDigits c) k
    if s then '-' :: body else body
  | infinite s => if s then "-inf".toList else "inf".toList
  | nan => "NaN".toList

def ofFarDecimal (negative : Bool) (digits : Nat) (exponent : Int) : Binary64 :=
  let leading := (natDigits digits).length + exponent
  if digits = 0 ∨ leading < -400 then zero negative
  else if 400 < leading then infinite negative
  else ofDecimal negative digits exponent

def exponent? : List Char → Option Int
  | [] => some 0
  | c :: cs =>
    if c = 'e' ∨ c = 'E' then
      match cs with
      | '-' :: ds => (wholeNumber? ds).map fun n => -n
      | '+' :: ds => (wholeNumber? ds).map fun n => n
      | ds => (wholeNumber? ds).map fun n => n
    else none

def unsigned? (negative : Bool) (s : List Char) : Option Binary64 :=
  if s = "inf".toList then some (infinite negative)
  else if s = "NaN".toList then some nan
  else
    let (whole, rest) := spanDigits s
    let (fraction, rest) := match rest with
      | '.' :: rest => spanDigits rest
      | rest => ([], rest)
    if whole = [] ∧ fraction = [] then none
    else (exponent? rest).map fun e =>
      ofFarDecimal negative (ofDigits (whole ++ fraction)) (e - fraction.length)

def ofText? : List Char → Option Binary64
  | '-' :: s => unsigned? true s
  | '+' :: s => unsigned? false s
  | s => unsigned? false s

end DocumentClient.Binary64
