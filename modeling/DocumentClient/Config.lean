import DocumentClient.Config.Error
import DocumentClient.Json.Decode
import DocumentClient.Order
import DocumentClient.Url.Reader
import DocumentClient.Url.Segments

namespace DocumentClient

open Text

structure Config where
  baseUrl : Url
  token : Option String
  timeoutSeconds : UInt64
  orderFormat : OrderFormat
  deriving DecidableEq, Repr

namespace Config

def standard : Config where
  baseUrl :=
    { scheme := "http"
      front := .authority { host := .name "localhost", port := some 8000 }
      path := "/api/v1/" }
  token := none
  timeoutSeconds := 30
  orderFormat := .pair

/-- A base URL ends in a slash, so that paths are joined beneath it. -/
def withSlash (raw : String) : String :=
  if raw.toList.getLast? = some '/' then raw else raw ++ "/"

def parseBase (key raw : String) : Except ConfigError Url :=
  (Url.parse (withSlash raw)).mapError (.badUrl key)

def withBaseUrl (raw : String) : Except ConfigError Config :=
  (parseBase "base_url" raw).map fun u => { standard with baseUrl := u }

def readSeconds (s : String) : Option UInt64 :=
  let digits := match s.toList with
    | '+' :: ds => ds
    | ds => ds
  (wholeNumber? digits).bind fun n => if n < UInt64.size then some (UInt64.ofNat n) else none

def urlKey : String := "DOCSTORE_URL"

def tokenKey : String := "DOCSTORE_TOKEN"

def timeoutKey : String := "DOCSTORE_TIMEOUT_SECONDS"

def orderFormatKey : String := "DOCSTORE_ORDER_FORMAT"

def baseUrlOf : Option String → Except ConfigError Url
  | none => .ok standard.baseUrl
  | some raw => parseBase urlKey raw

def tokenOf (raw : Option String) : Option String := raw.filter (· ≠ "")

def timeoutOf : Option String → Except ConfigError UInt64
  | none => .ok standard.timeoutSeconds
  | some raw =>
    match readSeconds raw with
    | some n => .ok n
    | none =>
      .error (.badValue timeoutKey ("expected a whole number of seconds, got " ++ quoted raw))

def orderFormatOf : Option String → Except ConfigError OrderFormat
  | none => .ok standard.orderFormat
  | some raw =>
    match OrderFormat.ofText? raw with
    | some f => .ok f
    | none =>
      .error (.badValue orderFormatKey
        ("expected \"pair\" or \"clause\", got " ++ quoted raw))

/-- The settings of the variables that `lookup` knows; the first that cannot be read is at fault. -/
def ofVariables (lookup : String → Option String) : Except ConfigError Config := do
  let baseUrl ← baseUrlOf (lookup urlKey)
  let timeoutSeconds ← timeoutOf (lookup timeoutKey)
  let orderFormat ← orderFormatOf (lookup orderFormatKey)
  return { baseUrl, token := tokenOf (lookup tokenKey), timeoutSeconds, orderFormat }

namespace Decode

open Json.Decoder

def url : Json.Decoder Url
  | .str s => (Url.parse s).mapError fun e => .wrongValue (.str s) e.message
  | v => .error (.wrongType v "a string representing an URL")

def formatNamed (name : String) : Except DecodeError OrderFormat :=
  if name = "pair" then .ok .pair
  else if name = "clause" then .ok .clause
  else .error (.unknownVariant name "`pair` or `clause`")

def format : Json.Decoder OrderFormat
  | .str name => formatNamed name
  | .obj [(name, v)] => do
    let f ← formatNamed name
    if v.isNull then return f else throw (.wrongType v "unit")
  | .obj fs => .error (.wrongValue (.obj fs) "map with a single key")
  | v => .error (.wrongType v "string or map")

structure Draft where
  baseUrl : Option Url := none
  token : Option (Option String) := none
  timeoutSeconds : Option UInt64 := none
  orderFormat : Option OrderFormat := none

def Draft.step (d : Draft) (name : String) (v : Json) : Except DecodeError Draft :=
  match name with
  | "base_url" => (url v).map fun u => { d with baseUrl := some u }
  | "token" => (nullable text v).map fun t => { d with token := some t }
  | "timeout_seconds" => (count v).map fun n => { d with timeoutSeconds := some n }
  | "order_format" => (format v).map fun f => { d with orderFormat := some f }
  | _ => .ok d

def names : List String := ["base_url", "token", "timeout_seconds", "order_format"]

end Decode

open Json.Decoder Decode in
/-- In an object the token may be missing; an array has to have all four settings. -/
def decode : Json.Decoder Config
  | .obj fs => do
    let d ← fields Draft.step {} fs
    let baseUrl ← required "base_url" d.baseUrl
    let timeoutSeconds ← required "timeout_seconds" d.timeoutSeconds
    let orderFormat ← required "order_format" d.orderFormat
    return { baseUrl, token := d.token.getD none, timeoutSeconds, orderFormat }
  | .arr items => do
    let d ← fields Draft.step {} (Decode.names.zip items)
    match d with
    | ⟨some baseUrl, some token, some timeoutSeconds, some orderFormat⟩ => do
      noMoreThan 4 items
      return { baseUrl, token, timeoutSeconds, orderFormat }
    | _ => throw (.wrongLength items.length "struct ClientConfig with 4 elements")
  | v => .error (.wrongType v "struct ClientConfig")

def toJson (c : Config) : Json :=
  .obj [("base_url", .str c.baseUrl.text), ("token", (c.token.map Json.str).getD .null),
    ("timeout_seconds", .int c.timeoutSeconds.toNat), ("order_format", .str c.orderFormat.text)]

def endpoint (c : Config) (path : String) : Except ConfigError Url :=
  (c.baseUrl.join (String.ofList (path.toList.dropWhile (· = '/')))).mapError (.badUrl path)

def segmentsEndpoint (c : Config) (segments : List String) : Except ConfigError Url :=
  match c.baseUrl.addSegments (segments ++ [""]) with
  | some u => .ok u
  | none => .error (.badValue "base_url" (c.baseUrl.text ++ " cannot carry a path"))

end Config

end DocumentClient
