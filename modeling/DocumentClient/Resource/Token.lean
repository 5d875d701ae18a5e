import DocumentClient.Json.Decode

namespace DocumentClient

structure Token where
  value : String
  deriving DecidableEq, Repr

namespace Token

open Json.Decoder

def decode : Json.Decoder Token
  | .obj fs => do
    let value ← fields (fun acc name v =>
      if name = "token" then (text v).map some else .ok acc) none fs
    return ⟨← required "token" value⟩
  | .arr [] => .error (.wrongLength 0 "struct Token with 1 element")
  | .arr (v :: vs) => do
    let value ← text v
    noMoreThan 1 (v :: vs)
    return ⟨value⟩
  | v => .error (.wrongType v "struct Token")

def toJson (t : Token) : Json := .obj [("token", .str t.value)]

end Token

end DocumentClient
