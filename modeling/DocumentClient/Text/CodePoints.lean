import DocumentClient.Text.Digits
import DocumentClient.Text.Split

/-!
Properties of characters, as tables of code points.  A table is written in lines of text, with a
blank between its entries; numbers are hexadecimal and a hyphen stands between the ends of a range.
-/

namespace DocumentClient.Text.CodePoints

abbrev Ranges := List (Nat × Nat)

def inRanges (ranges : Ranges) (n : Nat) : Bool :=
  ranges.any fun r => r.1 ≤ n && n ≤ r.2

def entries (lines : List String) : List (List Char) :=
  lines.flatMap fun line => line.toList.splitOn ' '

def ofHex (ds : List Char) : Nat := ds.foldl (fun n c => 16 * n + (hexValue c).getD 0) 0

def cutAt (c : Char) (s : List Char) : List Char × List Char :=
  (s.takeWhile (· ≠ c), (s.dropWhile (· ≠ c)).drop 1)

def range (s : List Char) : Nat × Nat :=
  let (first, last) := cutAt '-' s
  (ofHex first, ofHex (if last = [] then first else last))

def readRanges (lines : List String) : Ranges := (entries lines).map range

end DocumentClient.Text.CodePoints
