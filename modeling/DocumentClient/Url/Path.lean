import DocumentClient.Text.Split
import DocumentClient.Url.Encoding

/-!
The path of a URL, as text.  It is read segment by segment: one of a single dot is left out, and one
of two dots takes the segment before it away.  A drive, a letter and a colon, is never taken away.
-/

namespace DocumentClient.Url

open Text

inductive Kind
  | file
  | special
  | other
  deriving DecidableEq, Repr

def Kind.isSpecial : Kind → Bool
  | other => false
  | _ => true

/-- Tabs and line ends, which a URL does not count. -/
def isLineBreak (c : Char) : Bool := c = '\t' || c = '\n' || c = '\r'

def dropBreaks (s : List Char) : List Char := s.filter (!isLineBreak ·)

namespace Path

def isSlash (kind : Kind) (c : Char) : Bool := c = '/' || (c = '\\' && kind.isSpecial)

def isDot (s : List Char) : Bool := s = ['.'] || s.map Char.toLower = ['%', '2', 'e']

def isDoubleDot (s : List Char) : Bool :=
  [['.', '.'], ['.', '%', '2', 'e'], ['%', '2', 'e', '.'], ['%', '2', 'e', '%', '2', 'e']].contains
    (s.map Char.toLower)

def isDriveLetter : List Char → Bool
  | [c, d] => c.isAlpha && (d = ':' || d = '|')
  | _ => false

def isPlainDriveLetter (s : List Char) : Bool := isDriveLetter s && s.getLast? = some ':'

def leadsWithDrive (s : List Char) : Bool :=
  isDriveLetter (s.take 2) && (s.drop 2).head?.all (· = '\\')

def lastSegment (s : List Char) : List Char := (s.reverse.takeWhile (· ≠ '/')).reverse

def upToSlash (s : List Char) : List Char := (s.reverse.dropWhile (· ≠ '/')).reverse

theorem upToSlash_append_lastSegment (s : List Char) : upToSlash s ++ lastSegment s = s := by
  simp [upToSlash, lastSegment, ← List.reverse_append]

def endsInSlash (s : List Char) : Bool := s.getLast?.all (· = '/')

def close (s : List Char) : List Char := if endsInSlash s then s else s ++ ['/']

/-- Without the last slash, so that the segment before it is the last; that of a drive stays closed,
and the slash at the root stays. -/
def reopen (s : List Char) : List Char :=
  let inner := s.dropLast
  if s.getLast? = some '/' ∧ '/' ∈ inner ∧ !leadsWithDrive (lastSegment inner) then inner else s

def pop (kind : Kind) (s : List Char) : List Char :=
  if kind = .file ∧ isPlainDriveLetter (lastSegment s) then s else upToSlash s

structure Walk where
  text : List Char
  onDrive : Bool := false

namespace Walk

def add (w : Walk) (s : List Char) (closed : Bool) : Walk :=
  { w with text := w.text ++ s ++ (if closed then ['/'] else []) }

def enter (kind : Kind) (w : Walk) (s : List Char) (closed : Bool) : Walk :=
  if isDoubleDot s then
    let text := pop kind (reopen w.text)
    { w with text := if closed then close text else text }
  else if isDot s then { w with text := close w.text }
  else if kind = .file ∧ w.text = ['/'] ∧ isDriveLetter s then
    { w.add (s.take 1 ++ [':']) closed with onDrive := true }
  else w.add s closed

def cutDrive? (raw : List Char) : Option (List Char × List Char) :=
  match dropBreaks (raw.takeWhile (· ≠ ':')), raw.dropWhile (· ≠ ':') with
  | [c], ':' :: b :: rest =>
    if c.isAlpha ∧ isLineBreak b ∧ dropBreaks rest ≠ [] then some ([c, ':'], dropBreaks rest)
    else none
  | _, _ => none

/-- Read a segment, of which the characters of `set` are encoded.  In a file path nothing but a
slash comes after the drive: it is put in after the drive of a base and after one that a line break
ends, and what such a break parts from the drive is taken as it is. -/
def step (kind : Kind) (set : Char → Bool) (w : Walk) (raw : List Char) (closed : Bool) : Walk :=
  let s := Percent.encode set (dropBreaks raw)
  if kind ≠ .file then w.enter kind s closed
  else if isPlainDriveLetter w.text.tail ∧ s ≠ [] then
    { w with text := w.text ++ ['/'] }.enter kind s closed
  else match if w.text = ['/'] then cutDrive? raw else none with
    | some (drive, rest) => w.add (drive ++ '/' :: Percent.encode set rest) closed
    | none => w.enter kind s closed

def steps (kind : Kind) (w : Walk) : List (List Char) → Walk
  | [] => w
  | [s] => w.step kind inPath s false
  | s :: rest => (w.step kind inPath s true).steps kind rest

def trimRoot (kind : Kind) (w : Walk) : Walk :=
  if kind = .file then { w with text := '/' :: w.text.dropWhile (· = '/') } else w

end Walk

def read (kind : Kind) (done s : List Char) : Walk :=
  (Walk.steps kind { text := done } (s.splitOnP (isSlash kind))).trimRoot kind

end Path

end DocumentClient.Url
