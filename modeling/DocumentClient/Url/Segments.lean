import DocumentClient.Url

namespace DocumentClient.Url

open Text

def inAddedSegment (kind : Kind) : Char → Bool :=
  if kind.isSpecial then inSpecialSegment else inSegment

def dropEndSlash (path : List Char) : List Char :=
  if 1 < path.length ∧ path.getLast? = some '/' then path.dropLast else path

def pushSegment (kind : Kind) (path : List Char) (s : String) : List Char :=
  if s = "." ∨ s = ".." then path
  else
    let done := if path.length = 1 then path else path ++ ['/']
    ((Path.Walk.step kind (inAddedSegment kind) { text := done } s.toList false).trimRoot kind).text

def addSegments (u : Url) (segments : List String) : Option Url :=
  if u.isOpaque then none
  else
    some { u with
      path := String.ofList
        (segments.foldl (pushSegment u.kind) (dropEndSlash u.path.toList)) }

end DocumentClient.Url
