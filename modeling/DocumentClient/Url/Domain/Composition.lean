import DocumentClient.Url.Domain.Composition.Table

namespace DocumentClient.Url.Domain

open Text

def combiningClass (c : Char) : Nat :=
  if c.toNat < 0x300 then 0
  else
    ((combiningClasses.find? fun e => e.1.1 ≤ c.toNat && c.toNat ≤ e.1.2).map (·.2)).getD 0

def isVirama (c : Char) : Bool := combiningClass c == 9

def firstSyllable : Nat := 0xAC00

def isSyllable (n : Nat) : Bool := firstSyllable ≤ n && n < firstSyllable + 11172

def syllableLetters (n : Nat) : List Char :=
  let i := n - firstSyllable
  [Char.ofNat (0x1100 + i / 588), Char.ofNat (0x1161 + i % 588 / 28)] ++
    (if i % 28 = 0 then [] else [Char.ofNat (0x11A7 + i % 28)])

def syllable? (a b : Nat) : Option Char :=
  if 0x1100 ≤ a ∧ a < 0x1113 ∧ 0x1161 ≤ b ∧ b < 0x1176 then
    some (Char.ofNat (firstSyllable + (a - 0x1100) * 588 + (b - 0x1161) * 28))
  else if isSyllable a ∧ (a - firstSyllable) % 28 = 0 ∧ 0x11A7 < b ∧ b < 0x11C3 then
    some (Char.ofNat (a + (b - 0x11A7)))
  else none

def takeApart : Nat → Char → List Char
  | 0, c => [c]
  | times + 1, c =>
    if isSyllable c.toNat then syllableLetters c.toNat
    else match compositions.find? (·.letter = c.toNat) with
      | some p => takeApart times (Char.ofNat p.base) ++ [Char.ofNat p.mark]
      | none => [c]

def decompose (c : Char) : List Char := if c.toNat < 128 then [c] else takeApart 3 c

def insertMark (c : Char) : List Char → List Char
  | [] => [c]
  | d :: ds =>
    if combiningClass c ≠ 0 ∧ combiningClass c < combiningClass d then d :: insertMark c ds
    else c :: d :: ds

def sortMarks (s : List Char) : List Char := (s.foldl (fun done c => insertMark c done) []).reverse

def compose? (base mark : Char) : Option Char :=
  if mark.toNat < 128 then none
  else match syllable? base.toNat mark.toNat with
    | some l => some l
    | none =>
      (compositions.find? fun p => p.base = base.toNat && p.mark = mark.toNat).map
        fun p => Char.ofNat p.letter

/-- Go on after a base and the marks that could not be joined to it, the last of them first.  A mark
joins the base unless one of its class or a higher one is in between. -/
def composeAfter (base : Char) (marks : List Char) : List Char → List Char
  | [] => base :: marks.reverse
  | c :: cs =>
    let isFree := marks.head?.all fun m => combiningClass m < combiningClass c
    match if isFree then compose? base c else none with
    | some l => composeAfter l marks cs
    | none =>
      if combiningClass c = 0 then base :: marks.reverse ++ composeAfter c [] cs
      else composeAfter base (c :: marks) cs

def composeAll : List Char → List Char
  | [] => []
  | c :: cs => if combiningClass c = 0 then composeAfter c [] cs else c :: composeAll cs

def compose (s : List Char) : List Char := composeAll (sortMarks (s.flatMap decompose))

end DocumentClient.Url.Domain
