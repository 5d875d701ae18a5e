import DocumentClient.Url.Domain
import DocumentClient.Url.Encoding
import DocumentClient.Url.Error
import DocumentClient.Url.Host.Ipv4
import DocumentClient.Url.Host.Ipv6

namespace DocumentClient.Url

open Text

inductive Host
  | name (text : String)
  | ipv4 (address : Nat)
  | ipv6 (groups : List Nat)
  deriving DecidableEq, Repr

namespace Host

def none : Host := name ""

def chars : Host → List Char
  | name text => text.toList
  | ipv4 address => Ipv4.chars address
  | ipv6 groups => '[' :: Ipv6.chars groups ++ [']']

def bracketed (s : List Char) : Except UrlError Host :=
  if s.getLast? = some ']' then
    match Ipv6.address? s.tail.dropLast with
    | some groups => .ok (ipv6 groups)
    | .none => .error .badIpv6
  else .error .badIpv6

def isRefused (c : Char) : Bool :=
  ['\x00', '\t', '\n', '\r', ' ', '#', '/', ':', '<', '>', '?', '@', '[', '\\', ']', '^',
    '|'].contains c

def parseOpaque (s : List Char) : Except UrlError Host :=
  if s.head? = some '[' then bracketed s
  else if s.any isRefused then .error .badHostCharacter
  else .ok (name (String.ofList (Percent.encode isControl s)))

def parse (s : List Char) : Except UrlError Host :=
  if s.head? = some '[' then bracketed s
  else
    match (String.fromUTF8? ⟨(Percent.decode s).toArray⟩).bind (Domain.toAscii ·.toList) with
    | .none => .error .badDomainName
    | some [] => .error .emptyHost
    | some ascii =>
      if Ipv4.endsInNumber ascii then
        match Ipv4.address? ascii with
        | some address => .ok (ipv4 address)
        | .none => .error .badIpv4
      else .ok (name (String.ofList ascii))

end Host

end DocumentClient.Url
