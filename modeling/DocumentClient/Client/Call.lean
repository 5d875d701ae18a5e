import DocumentClient.Client

namespace DocumentClient

structure Exchange where
  request : Request
  reply : Except Error Reply

abbrev Store := List Exchange → Request → Except Error Reply

def Store.transport (store : Store) : Transport (StateM (List Exchange)) := fun request =>
  ExceptT.mk fun log => (store log request, log ++ [⟨request, store log request⟩])

inductive Client.Call
  | documents (q : Query)
  | document (schema id : String)
  | schema (name : String)
  | schemas
  deriving DecidableEq

namespace Client

def Call.label : Call → String
  | documents _ | document _ _ => "document"
  | schema _ | schemas => "schema"

def Call.request (config : Config) : Call → Except Error Request
  | documents q => documentsRequest config q
  | document name id => documentRequest config name id
  | schema name => schemaRequest config name
  | schemas => schemasRequest config

section

variable {m : Type → Type} [Monad m]

def call (c : Client m) : Call → ExceptT Error m Response
  | .documents q => c.documents q
  | .document schema id => c.document schema id
  | .schema name => c.schema name
  | .schemas => c.schemas

def run (c : Client m) (calls : List Call) : m (List (Except Error Response)) :=
  calls.mapM fun k => (c.call k).run

end

end Client

end DocumentClient
