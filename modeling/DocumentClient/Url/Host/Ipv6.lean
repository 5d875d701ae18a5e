import DocumentClient.Text.Digits
import DocumentClient.Text.Split

namespace DocumentClient.Url.Ipv6

open Text

def group? (s : List Char) : Option Nat :=
  if s = [] ∨ 4 < s.length then none
  else s.foldlM (fun n c => (hexValue c).map fun d => n * 16 + d) 0

def byte? (s : List Char) : Option Nat := do
  let n ← wholeNumber? s
  guard (n < 256 ∧ (s.length = 1 ∨ s.head? ≠ some '0'))
  some n

def quad? (s : List Char) : Option (List Nat) := do
  match ← (s.splitOn '.').mapM byte? with
  | [a, b, c, d] => some [a * 256 + b, c * 256 + d]
  | _ => none

def groups? (quadAllowed : Bool) (s : List Char) : Option (List Nat) := do
  if s = [] then some []
  else
    let parts := s.splitOn ':'
    let front ← parts.dropLast.mapM group?
    let last := parts.getLast?.getD []
    let back ← if quadAllowed ∧ '.' ∈ last then quad? last else (group? last).map ([·])
    some (front ++ back)

def splitGap : List Char → Option (List Char × List Char)
  | [] => none
  | [_] => none
  | c :: d :: cs =>
    if c = ':' ∧ d = ':' then some ([], cs)
    else (splitGap (d :: cs)).map fun (l, r) => (c :: l, r)

def address? (s : List Char) : Option (List Nat) := do
  match splitGap s with
  | none =>
    let gs ← groups? true s
    guard (gs.length = 8)
    some gs
  | some (l, r) =>
    let front ← groups? false l
    let back ← groups? true r
    guard (front.length + back.length ≤ 7)
    some (front ++ List.replicate (8 - front.length - back.length) 0 ++ back)

def longestGap (gs : List Nat) : Nat × Nat :=
  (List.range gs.length).foldl (fun best i =>
    let run := ((gs.drop i).takeWhile (· = 0)).length
    if best.2 < run then (i, run) else best) (0, 0)

def joinGroups (gs : List Nat) : List Char :=
  [':'].intercalate (gs.map (Nat.toDigits 16))

def chars (gs : List Nat) : List Char :=
  let (start, run) := longestGap gs
  if run < 2 then joinGroups gs
  else joinGroups (gs.take start) ++ ':' :: ':' :: joinGroups (gs.drop (start + run))

end DocumentClient.Url.Ipv6
