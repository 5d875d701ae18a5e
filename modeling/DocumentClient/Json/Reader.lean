import DocumentClient.Binary64.Rounding
import DocumentClient.Json
import DocumentClient.Text.Digits

/-!
Reading JSON text.  A whole number that fits 64 bits, with or without sign, stays whole; every other
number becomes a floating-point number by one scaling of its leading digits, each step rounded.  Of
two fields with one key the later value counts, at the place of the earlier.
-/

namespace DocumentClient.Json.Reader

open Text

def isSpace (c : Char) : Bool := c = ' ' || c = '\n' || c = '\t' || c = '\r'

def skipSpace (s : List Char) : List Char := s.dropWhile isSpace

def accumulate (start : Nat) : List Char → Nat × Nat
  | [] => (start, 0)
  | d :: ds =>
    let next := 10 * start + digitValue d
    if next < UInt64.size then accumulate next ds else (start, ds.length + 1)

def powerOfTen (n : Nat) : Binary64 := .ofDecimal false 1 n

def scaleByTen : Nat → Binary64 → Int → Option Binary64
  | 0, f, _ => some f
  | fuel + 1, f, e =>
    if e.natAbs ≤ 308 then
      if 0 ≤ e then
        let r := f.mul (powerOfTen e.natAbs)
        if r.isFinite then some r else none
      else some (f.div (powerOfTen e.natAbs))
    else if f.sameNumber (.zero false) then some f
    else if 0 ≤ e then none
    else scaleByTen fuel (f.div (powerOfTen 308)) (e + 308)

def negated : Binary64 → Binary64
  | .finite s m e => .finite (!s) m e
  | .infinite s => .infinite (!s)
  | .nan => .nan

def ofParts (negative : Bool) (significand : Nat) (exponent : Int) : Option Binary64 :=
  (scaleByTen 400 (.ofInt significand) (max exponent (-100000))).map fun f =>
    if negative then negated f else f

def exponent? : List Char → Option (Int × List Char)
  | [] => some (0, [])
  | c :: cs =>
    if c = 'e' ∨ c = 'E' then
      let (negative, ds) := match cs with
        | '-' :: ds => (true, ds)
        | '+' :: ds => (false, ds)
        | ds => (false, ds)
      let (digits, rest) := spanDigits ds
      if digits = [] then none
      else some (if negative then -ofDigits digits else ofDigits digits, rest)
    else some (0, c :: cs)

def wholeOrFloat (negative : Bool) (digits : List Char) : Option Number :=
  let n := ofDigits digits
  if negative then
    if 0 < n ∧ n ≤ 9223372036854775808 then some (.int (-n))
    else
      let (m, left) := accumulate 0 digits
      (ofParts true m left).map .float
  else if n < UInt64.size then some (.int n)
  else
    let (m, left) := accumulate 0 digits
    (ofParts false m left).map .float

def number? (s : List Char) : Option (Number × List Char) := do
  let (negative, s) := match s with
    | '-' :: s => (true, s)
    | s => (false, s)
  let (whole, s) := spanDigits s
  guard (whole ≠ [] ∧ (whole.length = 1 ∨ whole.head? ≠ some '0'))
  let (fraction, s, isWhole) ← match s with
    | '.' :: s =>
      let (fraction, s) := spanDigits s
      if fraction = [] then none else some (fraction, s, false)
    | s => some ([], s, true)
  let marked := s.head? = some 'e' || s.head? = some 'E'
  if isWhole && !marked then
    let n ← wholeOrFloat negative whole
    some (n, s)
  else
    let (e, s) ← exponent? s
    let (m, left) := accumulate 0 whole
    let (m, unread) := accumulate m fraction
    let x ← ofParts negative m (e + left - (fraction.length - unread : Nat))
    some (.float x, s)

def fourHex? : List Char → Option (Nat × List Char)
  | a :: b :: c :: d :: rest => do
    let a ← hexValue a
    let b ← hexValue b
    let c ← hexValue c
    let d ← hexValue d
    some (((a * 16 + b) * 16 + c) * 16 + d, rest)
  | _ => none

def isHighSurrogate (n : Nat) : Bool := 0xD800 ≤ n && n < 0xDC00

def isLowSurrogate (n : Nat) : Bool := 0xDC00 ≤ n && n < 0xE000

def unicodeEscape? (s : List Char) : Option (Char × List Char) := do
  let (n, s) ← fourHex? s
  if isHighSurrogate n then
    match s with
    | '\\' :: 'u' :: s =>
      let (m, s) ← fourHex? s
      guard (isLowSurrogate m)
      some (Char.ofNat (0x10000 + (n - 0xD800) * 0x400 + (m - 0xDC00)), s)
    | _ => none
  else if isLowSurrogate n then none
  else some (Char.ofNat n, s)

def escape? : List Char → Option (Char × List Char)
  | [] => none
  | c :: cs =>
    match c with
    | '"' => some ('"', cs)
    | '\\' => some ('\\', cs)
    | '/' => some ('/', cs)
    | 'b' => some ('\x08', cs)
    | 'f' => some ('\x0c', cs)
    | 'n' => some ('\n', cs)
    | 'r' => some ('\r', cs)
    | 't' => some ('\t', cs)
    | 'u' => unicodeEscape? cs
    | _ => none

def stringTail? : Nat → List Char → List Char → Option (String × List Char)
  | 0, _, _ => none
  | _ + 1, _, [] => none
  | fuel + 1, acc, c :: cs =>
    if c = '"' then some (String.ofList acc.reverse, cs)
    else if c = '\\' then do
      let (d, cs) ← escape? cs
      stringTail? fuel (d :: acc) cs
    else if c.toNat < 32 then none
    else stringTail? fuel (c :: acc) cs

mutual

def value? : Nat → List Char → Option (Json × List Char)
  | 0, _ => none
  | fuel + 1, s =>
    match skipSpace s with
    | 'n' :: 'u' :: 'l' :: 'l' :: s => some (null, s)
    | 't' :: 'r' :: 'u' :: 'e' :: s => some (bool true, s)
    | 'f' :: 'a' :: 'l' :: 's' :: 'e' :: s => some (bool false, s)
    | '"' :: s => (stringTail? (s.length + 1) [] s).map fun (t, s) => (str t, s)
    | '[' :: s =>
      match skipSpace s with
      | ']' :: s => some (arr [], s)
      | s => (items? fuel s).map fun (vs, s) => (arr vs, s)
    | '\x7b' :: s =>
      match skipSpace s with
      | '\x7d' :: s => some (obj [], s)
      | s => (fields? fuel [] s).map fun (fs, s) => (obj fs, s)
    | s => (number? s).map fun (n, s) => (num n, s)

def items? : Nat → List Char → Option (List Json × List Char)
  | 0, _ => none
  | fuel + 1, s => do
    let (v, s) ← value? fuel s
    match skipSpace s with
    | ',' :: s =>
      let (vs, s) ← items? fuel s
      some (v :: vs, s)
    | ']' :: s => some ([v], s)
    | _ => none

def fields? : Nat → Fields → List Char → Option (Fields × List Char)
  | 0, _, _ => none
  | fuel + 1, acc, s =>
    match skipSpace s with
    | '"' :: s => do
      let (k, s) ← stringTail? (s.length + 1) [] s
      match skipSpace s with
      | ':' :: s =>
        let (v, s) ← value? fuel s
        let acc := Fields.put acc k v
        match skipSpace s with
        | ',' :: s => fields? fuel acc s
        | '\x7d' :: s => some (acc, s)
        | _ => none
      | _ => none
    | _ => none

end

end DocumentClient.Json.Reader

namespace DocumentClient.Json

def ofText? (s : String) : Option Json := do
  let cs := s.toList
  let (v, rest) ← Reader.value? (cs.length + 1) cs
  if Reader.skipSpace rest = [] then some v else none

end DocumentClient.Json
