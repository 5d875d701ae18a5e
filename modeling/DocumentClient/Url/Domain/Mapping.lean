import DocumentClient.Text.LetterCase
import DocumentClient.Url.Domain.Mapping.Table

namespace DocumentClient.Url.Domain

open Text

def isAscii (c : Char) : Bool := c.toNat < 128

def formOf? (n : Nat) : Option (List Nat) :=
  forms.findSome? fun f => if f.first ≤ n then f.forms[n - f.first]? else none

def mapChar (c : Char) : Option (List Char) :=
  let n := c.toNat
  if isAscii c then some [c.toLower]
  else if CodePoints.inRanges refusedRanges n then none
  else if CodePoints.inRanges droppedRanges n then some []
  else if let some form := formOf? n then some (form.map Char.ofNat)
  else if CodePoints.inRanges keptCapitals n then some [c]
  else some (LetterCase.small c)

end DocumentClient.Url.Domain
