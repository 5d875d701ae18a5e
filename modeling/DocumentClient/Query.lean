import DocumentClient.Directive

namespace DocumentClient

structure Query where
  schema : String
  directives : Directives := .initial
  orderFormat : OrderFormat := .pair
  deriving DecidableEq

namespace Query

def isSchemaChar (c : Char) : Bool := c.isAlphanum || c = '_'

def schemaValid (schema : String) : Bool :=
  !schema.toList.isEmpty && schema.toList.all isSchemaChar

def new (schema : String) : Except Error Query :=
  if schemaValid schema then .ok { schema } else .error (.invalidSchema schema)

def set (q : Query) (d : Directive) : Query := { q with directives := q.directives.set d }

def filters (q : Query) : Filter := q.directives.filter

def get? (q : Query) (kind : Directive.Kind) : Option Directive := q.directives.get? kind

def withOrderFormat (q : Query) (format : OrderFormat) : Query := { q with orderFormat := format }

def limit (q : Query) (n : Option UInt64) : Query := q.set (.limit n)

def offset (q : Query) (n : Option UInt64) : Query := q.set (.offset n)

def order (q : Query) (o : Order) : Query := q.set (.order o)

def filter (q : Query) (clause : Clause) : Except Error Query := do
  let incoming ← clause.toFilter
  return q.set (.filter (q.filters.merge incoming))

def select (q : Query) (columns : List String) : Query := q.set (.pluck columns)

def pluck (q : Query) (column : String) : Query := q.set (.pluck [column])

def index (q : Query) (field : String) : Query := q.set (.index field)

def same (q r : Query) : Bool :=
  q.schema == r.schema && q.directives.same r.directives && q.orderFormat == r.orderFormat

def toJson (q : Query) : Json :=
  .obj [("schema", .str q.schema), ("query", q.directives.toJson q.orderFormat)]

end Query

end DocumentClient
