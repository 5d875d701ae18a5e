import DocumentClient.Query

namespace DocumentClient

inductive Query.Step
  | limit (n : Option UInt64)
  | offset (n : Option UInt64)
  | order (o : Order)
  | filter (clause : Clause)
  | select (columns : List String)
  | pluck (column : String)
  | index (field : String)
  | orderFormat (format : OrderFormat)
  deriving DecidableEq, Repr

namespace Query

def apply (q : Query) : Step → Except Error Query
  | .limit n => .ok (q.limit n)
  | .offset n => .ok (q.offset n)
  | .order o => .ok (q.order o)
  | .filter clause => q.filter clause
  | .select columns => .ok (q.select columns)
  | .pluck column => .ok (q.pluck column)
  | .index field => .ok (q.index field)
  | .orderFormat format => .ok (q.withOrderFormat format)

def applyOrKeep (q : Query) (s : Step) : Query := (q.apply s).toOption.getD q

def chain (q : Query) (steps : List Step) : Query := steps.foldl applyOrKeep q

@[simp] theorem chain_nil (q : Query) : q.chain [] = q := rfl

@[simp] theorem chain_cons (q : Query) (s : Step) (steps : List Step) :
    q.chain (s :: steps) = (q.applyOrKeep s).chain steps := rfl

end Query

end DocumentClient
