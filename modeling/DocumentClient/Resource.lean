import DocumentClient.Resource.ApiErrors
import DocumentClient.Resource.Document
import DocumentClient.Resource.Schema
import DocumentClient.Resource.Token

namespace DocumentClient

inductive Resource
  | token (t : Token)
  | schema (s : Schema)
  | document (d : Document)
  | error (e : ApiErrors)
  deriving BEq, Repr

namespace Resource

def label : Resource → String
  | token _ => "token"
  | schema _ => "schema"
  | document _ => "document"
  | error _ => "error"

def isError : Resource → Bool
  | error _ => true
  | _ => false

end Resource

structure Collection where
  label : String
  items : List Resource
  deriving BEq, Repr

namespace Collection

def size (c : Collection) : Nat := c.items.length

def isEmpty (c : Collection) : Bool := c.items.isEmpty

def first? (c : Collection) : Option Resource := c.items.head?

def isError (c : Collection) : Bool := !c.isEmpty && c.items.all Resource.isError

end Collection

inductive Member
  | resource (r : Resource)
  | collection (c : Collection)
  deriving BEq, Repr

namespace Member

def isError : Member → Bool
  | resource r => r.isError
  | collection c => c.isError

def asResource? : Member → Option Resource
  | resource r => some r
  | _ => none

def asCollection? : Member → Option Collection
  | collection c => some c
  | _ => none

end Member

end DocumentClient
