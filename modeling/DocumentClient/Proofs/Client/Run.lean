import DocumentClient.Client.Call
import DocumentClient.Proofs.Client.Document

/-!
Runs of calls.  Each call has at most one exchange with the store, whose request is that of the call
and the settings alone and whose reply decides the result.
-/

namespace DocumentClient.Client

open Url

inductive Call.Sends (config : Config) : Call → Request → Prop
  | documents (q : Query) :
      Sends config (.documents q)
        (.post (config.baseUrl.text ++ "query/")
          (.obj [("schema", .str q.schema), ("query", q.directives.toJson config.orderFormat)]))
  | document {name id : String} {u : Url} : Query.schemaValid name = true →
      config.segmentsEndpoint ["schemas", name, id] = .ok u →
      Sends config (.document name id) (.get u.text)
  | schema {name : String} : Query.schemaValid name = true →
      Sends config (.schema name) (.get (config.baseUrl.text ++ ("schemas/" ++ name ++ "/")))
  | schemas : Sends config .schemas (.get (config.baseUrl.text ++ "schemas/"))

inductive Call.Misnames : Call → String → Prop
  | document {name id : String} : Query.schemaValid name = false → Misnames (.document name id) name
  | schema {name : String} : Query.schemaValid name = false → Misnames (.schema name) name

section

variable {config : Config} {k l : Call}

structure Turn where
  call : Call
  exchange? : Option Exchange
  result : Except Error Response

namespace Turn

/-- What may come of a call: without a schema nothing is sent, and otherwise the reply is the
result, be it that the transport failed or that there is a status and a body to be read. -/
inductive Fits (config : Config) : Turn → Prop
  | misnamed {k : Call} {name : String} : k.Misnames name →
      Fits config ⟨k, none, .error (.invalidSchema name)⟩
  | failed {k : Call} {r : Request} {e : Error} : k.Sends config r →
      Fits config ⟨k, some ⟨r, .error e⟩, .error e⟩
  | answered {k : Call} {r : Request} {reply : Reply} : k.Sends config r →
      Fits config ⟨k, some ⟨r, .ok reply⟩, Response.new reply.status reply.body k.label⟩

end Turn

variable {store : Store} {log : List Exchange}

namespace Turn.Fits

variable {t t' : Turn}

end Turn.Fits

/-- Turns that follow each other from the log on, each with a reply that the store gives then. -/
inductive Runs (config : Config) (store : Store) : List Exchange → List Turn → Prop
  | nil {log : List Exchange} : Runs config store log []
  | cons {log : List Exchange} {t : Turn} {ts : List Turn} : t.Fits config →
      (∀ x ∈ t.exchange?, x.reply = store log x.request) →
      Runs config store (log ++ t.exchange?.toList) ts → Runs config store log (t :: ts)

theorem Runs.fits {turns : List Turn} (h : Runs config store log turns) :
    ∀ t ∈ turns, t.Fits config := by
  induction h with
  | nil => simp
  | cons ht _ _ ih => exact List.forall_mem_cons.2 ⟨ht, ih⟩

end

end DocumentClient.Client
