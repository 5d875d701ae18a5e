import DocumentClient.Binary64.Decimal
import DocumentClient.Json

namespace DocumentClient.Json

open Text

def escapeChar (c : Char) : List Char :=
  match c with
  | '"' => ['\\', '"']
  | '\\' => ['\\', '\\']
  | '\n' => ['\\', 'n']
  | '\r' => ['\\', 'r']
  | '\t' => ['\\', 't']
  | '\x08' => ['\\', 'b']
  | '\x0c' => ['\\', 'f']
  | c =>
    if c.toNat < 32 then
      ['\\', 'u', '0', '0', Nat.digitChar (c.toNat / 16), Nat.digitChar (c.toNat % 16)]
    else [c]

def stringChars (s : String) : List Char := '"' :: s.toList.flatMap escapeChar ++ ['"']

def Number.chars : Number → List Char
  | .int n => intDigits n
  | .float x => if x.isFinite then x.toText else "null".toList

mutual

def chars : Json → List Char
  | null => "null".toList
  | bool b => (toString b).toList
  | num n => n.chars
  | str s => stringChars s
  | arr items => '[' :: itemChars items ++ [']']
  | obj fields => '\x7b' :: fieldChars fields ++ ['\x7d']

def itemChars : List Json → List Char
  | [] => []
  | [v] => chars v
  | v :: vs => chars v ++ ',' :: itemChars vs

def fieldChars : List (String × Json) → List Char
  | [] => []
  | [(k, v)] => stringChars k ++ ':' :: chars v
  | (k, v) :: fs => stringChars k ++ ':' :: chars v ++ ',' :: fieldChars fs

end

def text (v : Json) : String := String.ofList v.chars

end DocumentClient.Json
