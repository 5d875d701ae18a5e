import DocumentClient.Url

/-!
Reading URLs: absolute ones, and references that are completed from a base.  White space and
controls around the text do not count, nor do tabs and line ends in it, but for a place in file
paths.
-/

namespace DocumentClient.Url.Reader

open Text

def isMargin (c : Char) : Bool := c.toNat ≤ 0x20

def trimmed (s : List Char) : List Char := strip isMargin s

def isSchemeChar (c : Char) : Bool := c.isAlphanum || c = '+' || c = '-' || c = '.'

def scheme? (s : List Char) : Option (String × List Char) :=
  if s.head?.any Char.isAlpha then
    match s.dropWhile isSchemeChar with
    | ':' :: rest => some (String.ofList ((s.takeWhile isSchemeChar).map Char.toLower), rest)
    | _ => none
  else none

def isTail (c : Char) : Bool := c = '?' || c = '#'

def encoded (set : Char → Bool) (s : List Char) : String := String.ofList (Percent.encode set s)

def tail (kind : Kind) (s : List Char) : Option String × Option String :=
  let set := if kind.isSpecial then inSpecialQuery else inQuery
  let (query, rest) := match s with
    | '?' :: s => (some (encoded set (s.takeWhile (· ≠ '#'))), s.dropWhile (· ≠ '#'))
    | s => (none, s)
  (query, match rest with
    | '#' :: s => some (encoded inFragment s)
    | _ => none)

def splitTail (s : List Char) : List Char × List Char :=
  (s.takeWhile (!isTail ·), s.dropWhile (!isTail ·))

def withTail (u : Url) (s : List Char) : Url :=
  let (query, fragment) := tail u.kind s
  { u with query, fragment }

def endsAuthority (kind : Kind) (c : Char) : Bool := Path.isSlash kind c || isTail c

def splitUser (s : List Char) : Option (List Char) × List Char :=
  if '@' ∈ s then
    let host := (s.reverse.takeWhile (· ≠ '@')).reverse
    (some (s.take (s.length - host.length - 1)), host)
  else (none, s)

def userInfo (s : List Char) : String × String :=
  (encoded inUserInfo (s.takeWhile (· ≠ ':')),
    encoded inUserInfo ((s.dropWhile (· ≠ ':')).drop 1))

def splitPort (bracketed : Bool) : List Char → List Char × List Char
  | [] => ([], [])
  | c :: cs =>
    if c = ':' ∧ !bracketed then ([], c :: cs)
    else
      let (host, rest) := splitPort (c = '[' || (bracketed && c ≠ ']')) cs
      (c :: host, rest)

def port? (scheme : String) : List Char → Except UrlError (Option Nat × List Char)
  | ':' :: s =>
    let (digits, rest) := spanDigits s
    let port := ofDigits digits
    if 65535 < port then .error .badPort
    else match rest with
      | [] | '\\' :: _ =>
        .ok (if digits = [] ∨ defaultPort scheme = some port then none else some port, rest)
      | _ => .error .badPort
  | rest => .ok (none, rest)

def authority (scheme : String) (s : List Char) : Except UrlError (Authority × List Char) := do
  let kind := kindOf scheme
  let (user, hostPort) := splitUser (s.takeWhile (!endsAuthority kind ·))
  let rest := s.dropWhile (!endsAuthority kind ·)
  if user = some [] ∧ hostPort = [] ∧ rest ≠ [] then throw .emptyHost
  let (username, password) := userInfo (user.getD [])
  let (hostText, portText) := splitPort false hostPort
  if hostText = [] ∧ (kind.isSpecial ∨ portText ≠ []) then throw .emptyHost
  let host ← if kind.isSpecial then Host.parse hostText else Host.parseOpaque hostText
  let (port, rest') ← port? scheme portText
  if host = .none ∧ (username ≠ "" ∨ password ≠ "") then throw .emptyHost
  return ({ username, password, host, port }, rest' ++ rest)

def pathAfter (kind : Kind) (s : List Char) : List Char :=
  match s with
  | [] => if kind.isSpecial then ['/'] else []
  | c :: cs => (Path.read kind ['/'] (if Path.isSlash kind c then cs else c :: cs)).text

def afterSlashes (scheme : String) (s : List Char) : Except UrlError Url := do
  let (a, rest) ← authority scheme s
  let (path, rest) := splitTail rest
  return withTail
    { scheme, front := .authority a, path := String.ofList (pathAfter (kindOf scheme) path) } rest

def dropSlashes (s : List Char) : List Char := s.dropWhile (Path.isSlash .special)

def slashCount (s : List Char) : Nat := (s.takeWhile (Path.isSlash .special)).length

def fragmentOnly (base : Url) (s : List Char) : Url :=
  { base with fragment := some (encoded inFragment (s.drop 1)) }

def withPath (base : Url) (done s : List Char) : Url :=
  let (path, rest) := splitTail s
  let path := (Path.read base.kind done path).text
  withTail { base with front := base.front.settle path, path := String.ofList path }
    (dropBreaks rest)

def relativeStart (base : Url) : List Char :=
  match Path.upToSlash base.path.toList with
  | [] => if base.kind.isSpecial ∨ base.front.chars.getLast? ≠ some '/' then ['/'] else []
  | done => done

def relative (base : Url) (s : List Char) : Except UrlError Url :=
  match s with
  | [] => .ok { base with fragment := none }
  | c :: cs =>
    if c = '?' then .ok (withTail base s)
    else if c = '#' then .ok (fragmentOnly base s)
    else if Path.isSlash .special c then
      if 2 ≤ slashCount s then
        afterSlashes base.scheme (if ['/', '/'].isPrefixOf s then s.drop 2 else dropSlashes s)
      else .ok (withPath base ['/'] cs)
    else .ok (withPath base (relativeStart base) s)

def next? (raw : List Char) : Option (Char × List Char) :=
  match raw.dropWhile isLineBreak with
  | [] => none
  | c :: cs => some (c, cs)

def startsWithDrive (raw : List Char) : Bool :=
  let s := dropBreaks raw
  Path.isDriveLetter (s.take 2) && (s.drop 2).head?.all (endsAuthority .file)

def fileUrl (host : Host) (done raw : List Char) : Url :=
  withPath { scheme := "file", front := .authority { host }, path := "" } done raw

def fileHost (raw : List Char) : Except UrlError (Host × List Char) :=
  let text := dropBreaks (raw.takeWhile (!endsAuthority .file ·))
  let rest := raw.dropWhile (!endsAuthority .file ·)
  if Path.isDriveLetter text then .ok (.none, raw)
  else if text = [] then .ok (.none, rest)
  else (Host.parse text).map fun host =>
    (if host = .name "localhost" then .none else host, rest)

def fileAfterSlashes (raw : List Char) : Except UrlError Url := do
  let (host, rest) ← fileHost raw
  if host = .none then return fileUrl .none ['/'] rest
  let rest := match rest with
    | c :: cs => if Path.isSlash .file c then cs else rest
    | [] => rest
  let onDrive := (Path.read .file ['/'] (splitTail rest).1).onDrive
  return fileUrl (if onDrive then .none else host) ['/'] rest

def fileRoot (base : Option Url) (raw : List Char) : Host × List Char :=
  match base with
  | none => (.none, ['/'])
  | some b =>
    let drive := (b.path.toList.drop 1).takeWhile (· ≠ '/')
    if startsWithDrive raw then (.none, ['/'])
    else if Path.isPlainDriveLetter drive then (.none, '/' :: drive ++ ['/'])
    else (b.host?.getD .none, ['/'])

def fileAfterSlash (base : Option Url) (raw : List Char) : Url :=
  let (host, done) := fileRoot base raw
  fileUrl host done raw

def file (base : Option Url) (raw : List Char) : Except UrlError Url :=
  match next? raw, base with
  | none, none => .ok (fileUrl .none ['/'] [])
  | none, some b => .ok { b with fragment := none }
  | some (c, cs), base =>
    if Path.isSlash .file c then
      match next? cs with
      | some (d, ds) =>
        if Path.isSlash .file d then fileAfterSlashes ds else .ok (fileAfterSlash base cs)
      | none => .ok (fileAfterSlash base cs)
    else match base with
      | none => .ok (fileUrl .none ['/'] raw)
      | some b =>
        if c = '?' then .ok (withTail b (dropBreaks raw))
        else if c = '#' then .ok (fragmentOnly b (dropBreaks raw))
        else if startsWithDrive raw then .ok (fileUrl .none ['/'] raw)
        else .ok (withPath b (Path.pop .file b.path.toList) raw)

def withScheme (base : Option Url) (scheme : String) (s : List Char) : Except UrlError Url :=
  if (kindOf scheme).isSpecial then
    match base.filter (·.scheme = scheme) with
    | some b => if slashCount s < 2 then relative b s else afterSlashes scheme (dropSlashes s)
    | none => afterSlashes scheme (dropSlashes s)
  else if ['/', '/'].isPrefixOf s then afterSlashes scheme (s.drop 2)
  else match s with
    | '/' :: s => .ok (withPath { scheme, front := .bare, path := "" } ['/'] s)
    | s =>
      let (path, rest) := splitTail s
      .ok (withTail { scheme, front := .bare, path := encoded isControl path } rest)

def withoutScheme (base : Url) (raw : List Char) : Except UrlError Url :=
  let s := dropBreaks raw
  if s.head? = some '#' then .ok (fragmentOnly base s)
  else if base.isOpaque then .error .opaqueBase
  else if base.kind = .file then file (some base) raw
  else relative base s

def read (base : Option Url) (raw : List Char) : Except UrlError Url :=
  match scheme? (dropBreaks raw), base with
  | some (scheme, rest), base =>
    if kindOf scheme = .file then
      file (base.filter (·.scheme = scheme)) ((raw.dropWhile (· ≠ ':')).drop 1)
    else withScheme base scheme rest
  | none, some b => withoutScheme b raw
  | none, none => .error .noBase

end DocumentClient.Url.Reader

namespace DocumentClient.Url

open Reader

def parse (s : String) : Except UrlError Url := read none (trimmed s.toList)

def join (base : Url) (s : String) : Except UrlError Url := read (some base) (trimmed s.toList)

end DocumentClient.Url
