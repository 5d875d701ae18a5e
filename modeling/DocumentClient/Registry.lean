import DocumentClient.Error
import DocumentClient.Resource

namespace DocumentClient

structure Registry where
  decoders : List (String × Json.Decoder Resource)

namespace Registry

def errorLabel : String := "error"

def defaultLabel : String := "resource"

def pluralize (label : String) : String := label ++ "s"

def decodeToken : Json.Decoder Resource := fun v => (Token.decode v).map .token

def decodeSchema : Json.Decoder Resource := fun v => (Schema.decode v).map .schema

def decodeDocument : Json.Decoder Resource := fun v => (Document.decode v).map .document

def decodeError : Json.Decoder Resource := fun v => (ApiErrors.decode v).map .error

def empty : Registry := ⟨[]⟩

def register (r : Registry) (label : String) (decoder : Json.Decoder Resource) : Registry :=
  ⟨Keyed.put Prod.fst (label, decoder) r.decoders⟩

def standard : Registry :=
  (((empty.register "token" decodeToken).register "schema" decodeSchema).register "document"
    decodeDocument).register errorLabel decodeError

def isRegistered (r : Registry) (label : String) : Bool :=
  (Keyed.find? Prod.fst label r.decoders).isSome

def find (r : Registry) (label : String) : Json.Decoder Resource :=
  ((Keyed.find? Prod.fst label r.decoders).map Prod.snd).getD decodeDocument

def build (r : Registry) (label : String) (v : Json) : Except DecodeError Resource :=
  r.find label v

def buildCollection (r : Registry) (label : String) (items : List Json) :
    Except DecodeError Collection :=
  (items.mapM (r.build label)).map fun rs => ⟨pluralize label, rs⟩

def buildMember (r : Registry) (label : String) : Json → Except DecodeError Member
  | .arr items => (r.buildCollection label items).map .collection
  | v => (r.build label v).map .resource

end Registry

end DocumentClient
