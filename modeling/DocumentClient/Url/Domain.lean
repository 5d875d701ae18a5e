import DocumentClient.Text.Split
import DocumentClient.Url.Domain.Composition
import DocumentClient.Url.Domain.Direction
import DocumentClient.Url.Domain.Joining
import DocumentClient.Url.Domain.Mapping
import DocumentClient.Url.Punycode

namespace DocumentClient.Url.Domain

open Text

def isRefusedAscii (c : Char) : Bool :=
  c.toNat ≤ 0x20 || c.toNat == 0x7F ||
    ['%', '#', '/', ':', '<', '>', '?', '@', '[', '\\', ']', '^', '|'].contains c

def normalize (s : List Char) : Option (List Char) :=
  (s.mapM mapChar).map fun parts => compose parts.flatten

structure Label where
  meaning : List Char
  ascii : List Char

def labelValid (label : List Char) : Bool := !label.head?.any isMark && joinersFit label

def punycodeMark : List Char := ['x', 'n', '-', '-']

def maxEncoded : Nat := 2000

def maxMeaning : Nat := 1000

/-- A label that is already encoded has to hold something that needs the encoding, and that as it
would be encoded. -/
def decodeLabel (label : List Char) : Option Label := do
  let encoded := label.drop punycodeMark.length
  guard (label.all isAscii ∧ encoded.length ≤ maxEncoded)
  let meaning ← Punycode.decode encoded
  guard (!meaning.all isAscii ∧ labelValid meaning ∧ normalize meaning = some meaning)
  some ⟨meaning, label⟩

def readLabel (label : List Char) : Option Label :=
  if punycodeMark.isPrefixOf label then decodeLabel label
  else if label.all isAscii then some ⟨label, label⟩
  else if labelValid label ∧ label.length ≤ maxMeaning then
    some ⟨label, punycodeMark ++ Punycode.encode label⟩
  else none

def toAscii (s : List Char) : Option (List Char) := do
  let labels ← ((← normalize s).splitOn '.').mapM readLabel
  guard (directionsFit (labels.map (·.meaning)))
  let name := ['.'].intercalate (labels.map (·.ascii))
  if name.any isRefusedAscii then none else some name

end DocumentClient.Url.Domain
