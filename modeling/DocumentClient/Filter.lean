import DocumentClient.Comparison
import DocumentClient.Keyed

namespace DocumentClient

structure Filter where
  entries : List (String × Literal)
  distinct : (entries.map Prod.fst).Nodup := by simp
  deriving DecidableEq

namespace Filter

def empty : Filter := ⟨[], by simp⟩

instance : Inhabited Filter := ⟨empty⟩

@[ext] theorem ext {f g : Filter} (h : f.entries = g.entries) : f = g := by
  cases f; cases g; simp_all

def insert (f : Filter) (key : String) (value : Literal) : Filter where
  entries := Keyed.put Prod.fst (key, value) f.entries
  distinct := Keyed.nodup_map_put f.distinct

def insertAll (f : Filter) (pairs : List (String × Literal)) : Filter :=
  pairs.foldl (fun acc p => acc.insert p.1 p.2) f

def ofList (pairs : List (String × Literal)) : Filter := empty.insertAll pairs

def merge (f g : Filter) : Filter := f.insertAll g.entries

def get? (f : Filter) (key : String) : Option Literal :=
  (Keyed.find? Prod.fst key f.entries).map Prod.snd

def contains (f : Filter) (key : String) : Bool := (f.get? key).isSome

def keys (f : Filter) : List String := f.entries.map Prod.fst

def size (f : Filter) : Nat := f.entries.length

def isEmpty (f : Filter) : Bool := f.entries.isEmpty

def same (f g : Filter) : Bool :=
  f.keys == g.keys && (f.entries.zip g.entries).all fun (p, q) => p.2.same q.2

def toJson (f : Filter) : Json := .obj (f.entries.map fun p => (p.1, p.2.toJson))

@[simp] theorem entries_empty : empty.entries = [] := rfl

@[simp] theorem entries_insert (f : Filter) (key : String) (value : Literal) :
    (f.insert key value).entries = Keyed.put Prod.fst (key, value) f.entries := rfl

@[simp] theorem entries_insertAll (f : Filter) (pairs : List (String × Literal)) :
    (f.insertAll pairs).entries = Keyed.putAll Prod.fst f.entries pairs := by
  induction pairs generalizing f with
  | nil => rfl
  | cons p ps ih => simpa [insertAll, Keyed.putAll] using ih (f.insert p.1 p.2)

end Filter

def Comparison.toFilter (c : Comparison) : Filter := Filter.empty.insert c.key c.value

inductive Clause
  | expression (text : String)
  | terms (pairs : List (String × Literal))
  deriving DecidableEq, Repr

namespace Clause

def toFilter : Clause → Except Error Filter
  | expression text => (Comparison.parse text).map Comparison.toFilter
  | terms pairs => .ok (.ofList (pairs.map fun p => (p.1, p.2.normalized)))

def ofFilter (f : Filter) : Clause := terms f.entries

end Clause

end DocumentClient
