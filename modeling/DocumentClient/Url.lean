import DocumentClient.Text.Digits
import DocumentClient.Url.Host
import DocumentClient.Url.Path

namespace DocumentClient

open Text

structure Url.Authority where
  username : String := ""
  password : String := ""
  host : Url.Host
  port : Option Nat := none
  deriving DecidableEq, Repr

inductive Url.Front
  | bare
  /-- A segment of one dot, before a path that would look like an authority. -/
  | dot
  | authority (authority : Url.Authority)
  deriving DecidableEq, Repr

structure Url where
  scheme : String
  front : Url.Front
  path : String
  query : Option String := none
  fragment : Option String := none
  deriving DecidableEq, Repr

namespace Url

def kindOf (scheme : String) : Kind :=
  if scheme = "file" then .file
  else if scheme ∈ ["http", "https", "ws", "wss", "ftp"] then .special
  else .other

def kind (u : Url) : Kind := kindOf u.scheme

def defaultPort (scheme : String) : Option Nat :=
  if scheme ∈ ["http", "ws"] then some 80
  else if scheme ∈ ["https", "wss"] then some 443
  else if scheme = "ftp" then some 21
  else none

def Authority.credentials (a : Authority) : List Char :=
  if a.username = "" ∧ a.password = "" then []
  else
    a.username.toList ++ (if a.password = "" then [] else ':' :: a.password.toList) ++ ['@']

def Authority.chars (a : Authority) : List Char :=
  '/' :: '/' :: a.credentials ++ a.host.chars ++
    (match a.port with
      | some p => ':' :: natDigits p
      | none => [])

namespace Front

def chars : Front → List Char
  | bare => []
  | dot => ['/', '.']
  | authority a => a.chars

def settle : Front → List Char → Front
  | authority a, _ => authority a
  | _, '/' :: '/' :: _ => dot
  | _, _ => bare

end Front

def isOpaque (u : Url) : Bool := u.front = .bare && u.path.toList.head? ≠ some '/'

def rootChars (u : Url) : List Char :=
  u.scheme.toList ++ ':' :: u.front.chars ++ u.path.toList

def chars (u : Url) : List Char :=
  u.rootChars ++ (u.query.map fun q => '?' :: q.toList).getD [] ++
    (u.fragment.map fun f => '#' :: f.toList).getD []

def text (u : Url) : String := String.ofList u.chars

def host? (u : Url) : Option Host :=
  match u.front with
  | .authority a => some a.host
  | _ => none

end Url

end DocumentClient
