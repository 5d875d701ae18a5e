import DocumentClient.Text.CodePoints
import DocumentClient.Text.LetterCase.Table

/-!
Small letters for every capital of Unicode.  Only two characters need more than their own entry:
a capital I with a dot keeps its dot as a combining mark, and a capital sigma takes its final form
at the end of a word.
-/

namespace DocumentClient.Text.LetterCase

def isCased (c : Char) : Bool :=
  if c.toNat < 128 then c.isAlpha else CodePoints.inRanges casedRanges c.toNat

def isCaseIgnorable (c : Char) : Bool :=
  if c.toNat < 128 then "'.:^`".toList.contains c
  else CodePoints.inRanges caseIgnorableRanges c.toNat

def small (c : Char) : List Char :=
  if c.toNat < 128 then [c.toLower]
  else if c = 'İ' then ['i', '\u0307']
  else match capitalRuns.find? (·.holds c.toNat) with
    | some r => [Char.ofNat (c.toNat + r.shift).toNat]
    | none => [c]

def nextIsCased (s : List Char) : Bool :=
  ((s.dropWhile isCaseIgnorable).head?.map isCased).getD false

/-- Lowercase `s`, which comes after the characters of `before`, the nearest first. -/
def lowerAfter (before : List Char) : List Char → List Char
  | [] => []
  | c :: cs =>
    (if c = 'Σ' then [if nextIsCased before && !nextIsCased cs then 'ς' else 'σ'] else small c)
      ++ lowerAfter (c :: before) cs

end DocumentClient.Text.LetterCase

namespace DocumentClient.Text

def lowercase (s : List Char) : List Char := LetterCase.lowerAfter [] s

end DocumentClient.Text
