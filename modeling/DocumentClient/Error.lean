import DocumentClient.Config.Error
import DocumentClient.Json.Decode

namespace DocumentClient

open Text

inductive Error
  | invalidSchema (schema : String)
  | undeterminedQuery (clause : String)
  | invalidOperator (clause : String)
  | undefinedMember (name : String)
  | encode (cause : DecodeError)
  | decode (cause : DecodeError)
  | transport (message : String)
  | config (cause : ConfigError)
  deriving Repr

namespace Error

def message : Error → String
  | invalidSchema schema =>
    "Invalid schema: " ++ quoted schema ++
      " must be non-empty and contain only letters, digits, and underscores"
  | undeterminedQuery clause =>
    "Undetermined query: " ++ quoted clause ++
      " cannot be split into column, operator, and value"
  | invalidOperator clause =>
    "Invalid operator: " ++ quoted clause ++ " does not use a supported query operator"
  | undefinedMember name => "Undefined member: " ++ name
  | encode cause => "Failed to encode request body: " ++ cause.message
  | decode cause => "Failed to decode response body: " ++ cause.message
  | transport message => "Transport error: " ++ message
  | config cause => "Configuration error: " ++ cause.message

def code : Error → String
  | invalidSchema _ => "invalid_schema"
  | undeterminedQuery _ => "undetermined_query"
  | invalidOperator _ => "invalid_operator"
  | undefinedMember _ => "undefined_member"
  | encode _ => "encode_error"
  | decode _ => "decode_error"
  | transport _ => "transport_error"
  | config _ => "configuration_error"

def isQueryError : Error → Bool
  | invalidSchema _ | undeterminedQuery _ | invalidOperator _ => true
  | _ => false

end Error

end DocumentClient
