import DocumentClient.Url.Domain.Direction.Table
import DocumentClient.Url.Domain.Mark

namespace DocumentClient.Url.Domain

open Text

inductive Direction
  | left
  | right
  | europeanNumber
  | arabicNumber
  | nonspacing
  | neutral
  deriving DecidableEq, Repr

namespace Direction

def ofChar (c : Char) : Direction :=
  let n := c.toNat
  if n < 128 then
    if c.isAlpha then left else if c.isDigit then europeanNumber else neutral
  else if isNonspacing c then nonspacing
  else if CodePoints.inRanges rightRanges n then right
  else if CodePoints.inRanges neutralRanges n then neutral
  else if CodePoints.inRanges arabicNumberRanges n then arabicNumber
  else if CodePoints.inRanges europeanNumberRanges n then europeanNumber
  else left

def isFromRight (d : Direction) : Bool := d = right || d = arabicNumber

/-- What a label may have, and what it may end in apart from marks: all one way, and no two kinds of
digits from the right. -/
def fits : List Direction → Bool
  | [] => true
  | first :: rest =>
    let last? := rest.reverse.find? (· ≠ nonspacing)
    match first with
    | left =>
      rest.all (fun d => !d.isFromRight) && last?.all fun d => d = left || d = europeanNumber
    | right =>
      rest.all (· ≠ left) && last?.all (· ≠ neutral) &&
        !(rest.contains europeanNumber && rest.contains arabicNumber)
    | _ => false

end Direction

def directionsFit (labels : List (List Char)) : Bool :=
  let directions := labels.map (·.map Direction.ofChar)
  !directions.any (·.any Direction.isFromRight) || directions.all Direction.fits

end DocumentClient.Url.Domain
