import DocumentClient.Url.Error

namespace DocumentClient

inductive ConfigError
  | badValue (key message : String)
  | badUrl (key : String) (cause : UrlError)
  deriving DecidableEq, Repr

namespace ConfigError

def key : ConfigError → String
  | badValue key _ => key
  | badUrl key _ => key

def message : ConfigError → String
  | badValue key message => "Invalid value for " ++ key ++ ": " ++ message
  | badUrl key cause => "Invalid URL for " ++ key ++ ": " ++ cause.message

end ConfigError

end DocumentClient
