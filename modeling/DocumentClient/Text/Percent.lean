import DocumentClient.Text.Digits

namespace DocumentClient.Text.Percent

def upperHexDigit (n : Nat) : Char := (Nat.digitChar n).toUpper

def escapeByte (b : UInt8) : List Char :=
  ['%', upperHexDigit (b.toNat / 16), upperHexDigit (b.toNat % 16)]

def encodeChar (encoded : Char → Bool) (c : Char) : List Char :=
  if encoded c then (String.utf8EncodeChar c).flatMap escapeByte else [c]

def encode (encoded : Char → Bool) (s : List Char) : List Char :=
  s.flatMap (encodeChar encoded)

/-- The bytes of a text whose escapes stand for one byte each; a percent sign without two digits
stands for itself. -/
def decode : List Char → List UInt8
  | [] => []
  | '%' :: a :: b :: rest =>
    match hexValue a, hexValue b with
    | some x, some y => UInt8.ofNat (x * 16 + y) :: decode rest
    | _, _ => String.utf8EncodeChar '%' ++ decode (a :: b :: rest)
  | c :: rest => String.utf8EncodeChar c ++ decode rest

end DocumentClient.Text.Percent
