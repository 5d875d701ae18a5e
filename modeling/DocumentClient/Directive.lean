import DocumentClient.Filter
import DocumentClient.Order

namespace DocumentClient

inductive Directive.Kind
  | filter
  | order
  | limit
  | offset
  | index
  | pluck
  deriving DecidableEq, Repr

def Directive.Kind.name : Directive.Kind → String
  | filter => "filter"
  | order => "order_by"
  | limit => "limit"
  | offset => "offset"
  | index => "index"
  | pluck => "pluck"

inductive Directive
  | filter (f : Filter)
  | order (o : Order)
  | limit (n : Option UInt64)
  | offset (n : Option UInt64)
  | index (field : String)
  | pluck (columns : List String)
  deriving DecidableEq

namespace Directive

def kind : Directive → Kind
  | filter _ => .filter
  | order _ => .order
  | limit _ => .limit
  | offset _ => .offset
  | index _ => .index
  | pluck _ => .pluck

def countJson : Option UInt64 → Json
  | some n => .int n.toNat
  | none => .null

def payload (format : OrderFormat) : Directive → Json
  | filter f => f.toJson
  | order o => o.toJson format
  | limit n | offset n => countJson n
  | index field => .str field
  | pluck columns => .arr (columns.map .str)

def same : Directive → Directive → Bool
  | filter f, filter g => f.same g
  | d, e => d == e

def toJson (format : OrderFormat) (d : Directive) : Json :=
  .arr [.str d.kind.name, d.payload format]

end Directive

structure Directives where
  entries : List Directive
  distinct : (entries.map Directive.kind).Nodup
  filter_first : (entries.head?.map Directive.kind) = some .filter
  deriving DecidableEq

namespace Directives

def initial : Directives := ⟨[.filter .empty], by simp, rfl⟩

instance : Inhabited Directives := ⟨initial⟩

@[ext] theorem ext {ds es : Directives} (h : ds.entries = es.entries) : ds = es := by
  cases ds; cases es; simp_all

def set (ds : Directives) (d : Directive) : Directives where
  entries := Keyed.put Directive.kind d ds.entries
  distinct := Keyed.nodup_map_put ds.distinct
  filter_first := by
    have h := ds.filter_first
    rcases hs : ds.entries with _ | ⟨e, es⟩
    · simp [hs] at h
    · by_cases he : e.kind = d.kind <;> simp_all [Keyed.put]

@[simp] theorem entries_set (ds : Directives) (d : Directive) :
    (ds.set d).entries = Keyed.put Directive.kind d ds.entries := rfl

def get? (ds : Directives) (kind : Directive.Kind) : Option Directive :=
  Keyed.find? Directive.kind kind ds.entries

def filter (ds : Directives) : Filter :=
  (ds.entries.findSome? fun
    | .filter f => some f
    | _ => none).getD .empty

def kinds (ds : Directives) : List Directive.Kind := ds.entries.map Directive.kind

def size (ds : Directives) : Nat := ds.entries.length

def isEmpty (ds : Directives) : Bool := ds.entries.isEmpty

def same (ds es : Directives) : Bool :=
  ds.size == es.size && (ds.entries.zip es.entries).all fun (d, e) => d.same e

def toJson (ds : Directives) (format : OrderFormat) : Json :=
  .arr (ds.entries.map (Directive.toJson format))

end Directives

end DocumentClient
