import DocumentClient.Proofs.Keyed
import DocumentClient.Proofs.Query.Reachable
import Mathlib.Data.List.Forall2

namespace DocumentClient

theorem forall₂_congr_of_mem {α : Type u} {β : Type v} {R S : α → β → Prop} {xs : List α}
    {ys : List β} (h : ∀ x ∈ xs, ∀ y ∈ ys, R x y ↔ S x y) :
    List.Forall₂ R xs ys ↔ List.Forall₂ S xs ys := by
  induction xs generalizing ys with
  | nil => cases ys <;> simp
  | cons x xs ih =>
    cases ys with
    | nil => simp
    | cons y ys =>
      rw [List.forall₂_cons, List.forall₂_cons, h x (by simp) y (by simp),
        ih fun x hx y hy => h x (by simp [hx]) y (by simp [hy])]

namespace Json

def Number.Same : Number → Number → Prop
  | int m, int n => m = n
  | float x, float y => x.sameNumber y = true
  | _, _ => False

/-- The same values at the same places, fields in the same order. -/
inductive SameTree : Json → Json → Prop
  | null : SameTree null null
  | bool {b : Bool} : SameTree (bool b) (bool b)
  | num {m n : Number} : m.Same n → SameTree (num m) (num n)
  | str {s : String} : SameTree (str s) (str s)
  | arr {vs ws : List Json} : List.Forall₂ SameTree vs ws → SameTree (arr vs) (arr ws)
  | obj {fs gs : Fields} : fs.map Prod.fst = gs.map Prod.fst →
      List.Forall₂ SameTree (fs.map Prod.snd) (gs.map Prod.snd) → SameTree (obj fs) (obj gs)

namespace SameTree

@[simp] theorem null_iff : SameTree .null .null ↔ True := iff_true_intro .null

@[simp] theorem str_iff {s t : String} : SameTree (.str s) (.str t) ↔ s = t := by
  constructor
  · rintro ⟨⟩
    rfl
  · rintro rfl
    exact .str

@[simp] theorem num_iff {m n : Number} : SameTree (.num m) (.num n) ↔ m.Same n := by
  constructor
  · rintro ⟨⟩
    assumption
  · exact .num

@[simp] theorem arr_iff {vs ws : List Json} :
    SameTree (.arr vs) (.arr ws) ↔ List.Forall₂ SameTree vs ws := by
  constructor
  · rintro ⟨⟩
    assumption
  · exact .arr

@[simp] theorem obj_iff {fs gs : Fields} :
    SameTree (.obj fs) (.obj gs) ↔
      fs.map Prod.fst = gs.map Prod.fst ∧
        List.Forall₂ SameTree (fs.map Prod.snd) (gs.map Prod.snd) := by
  constructor
  · rintro ⟨⟩
    exact ⟨‹_›, ‹_›⟩
  · rintro ⟨hkeys, hvalues⟩
    exact .obj hkeys hvalues

@[simp] theorem int_iff {m n : Int} : SameTree (.int m) (.int n) ↔ m = n := num_iff

end SameTree

end Json

open Json (SameTree)

theorem ListItem.sameTree_toJson {x y : ListItem} : SameTree x.toJson y.toJson ↔ x = y := by
  cases x with
  | int m =>
    cases y with
    | int n => simp [toJson, Int64.toInt_inj]
    | text t => exact iff_of_false (fun h => by cases h) (fun h => by cases h)
  | text s =>
    cases y with
    | int n => exact iff_of_false (fun h => by cases h) (fun h => by cases h)
    | text t => simp [toJson]

namespace Literal

def FiniteFloat : Literal → Prop
  | float x => x.isFinite = true
  | _ => True

def SameForm : Literal → Literal → Prop
  | int m, int n => m = n
  | float x, float y => x.sameNumber y = true
  | text s, text t => s = t
  | list xs, list ys => xs = ys
  | _, _ => False

theorem toJson_float {x : Binary64} (h : FiniteFloat (float x)) :
    toJson (float x) = .num (.float x) :=
  if_pos h

theorem sameTree_toJson {v w : Literal} (hv : v.FiniteFloat) (hw : w.FiniteFloat) :
    SameTree v.toJson w.toJson ↔ v.SameForm w := by
  cases v with
  | int m =>
    cases w with
    | int n => simp [toJson, SameForm, Int64.toInt_inj]
    | float y =>
      rw [toJson_float hw]
      exact SameTree.num_iff
    | text | list => exact iff_of_false (fun h => by cases h) id
  | float x =>
    rw [toJson_float hv]
    cases w with
    | int n => exact SameTree.num_iff
    | float y =>
      rw [toJson_float hw]
      exact SameTree.num_iff
    | text | list => exact iff_of_false (fun h => by cases h) id
  | text s =>
    cases w with
    | text t => exact SameTree.str_iff
    | float y =>
      rw [toJson_float hw]
      exact iff_of_false (fun h => by cases h) id
    | int | list => exact iff_of_false (fun h => by cases h) id
  | list xs =>
    cases w with
    | list ys =>
      simp only [toJson, SameTree.arr_iff, List.forall₂_map_left_iff, List.forall₂_map_right_iff,
        ListItem.sameTree_toJson, SameForm]
      rw [List.forall₂_eq_eq_eq]
    | float y =>
      rw [toJson_float hw]
      exact iff_of_false (fun h => by cases h) id
    | int | text => exact iff_of_false (fun h => by cases h) id

end Literal

namespace Filter

def FiniteFloats (f : Filter) : Prop := ∀ p ∈ f.entries, p.2.FiniteFloat

def SameForm (f g : Filter) : Prop :=
  f.keys = g.keys ∧
    List.Forall₂ Literal.SameForm (f.entries.map Prod.snd) (g.entries.map Prod.snd)

theorem sameTree_toJson {f g : Filter} (hf : f.FiniteFloats) (hg : g.FiniteFloats) :
    SameTree f.toJson g.toJson ↔ f.SameForm g := by
  have hvalues : ∀ p ∈ f.entries, ∀ q ∈ g.entries,
      SameTree p.2.toJson q.2.toJson ↔ p.2.SameForm q.2 :=
    fun p hp q hq => Literal.sameTree_toJson (hf p hp) (hg q hq)
  simp only [toJson, SameTree.obj_iff, SameForm, keys, List.map_map, List.forall₂_map_left_iff,
    List.forall₂_map_right_iff, Function.comp_def]
  rw [forall₂_congr_of_mem hvalues]

theorem toJson_eq_putAll (f : Filter) :
    f.toJson = .obj (Keyed.putAll Prod.fst [] (f.entries.map fun p => (p.1, p.2.toJson))) := by
  have hkeys : ((f.entries.map fun p => (p.1, p.2.toJson)).map Prod.fst).Nodup := by
    simpa [Function.comp_def] using f.distinct
  rw [Keyed.putAll_empty_of_nodup hkeys, toJson]

end Filter

namespace Order

theorem clause_inj {o p : Order} : o.clause = p.clause ↔ o = p := by
  constructor
  · intro h
    have hchars : o.field.toList ++ ' ' :: o.direction.text.toList =
        p.field.toList ++ ' ' :: p.direction.text.toList := by
      simpa [clause] using congrArg String.toList h
    have hlast := congrArg (fun s => s.reverse.take 4) hchars
    have hdirection : o.direction = p.direction := by
      cases ho : o.direction <;> cases hp : p.direction <;>
        simp [ho, hp, Direction.text] at hlast ⊢
    have hfield : o.field = p.field := by
      rw [hdirection] at hchars
      exact String.toList_inj.1 (List.append_cancel_right hchars)
    cases o
    cases p
    simp_all
  · rintro rfl
    rfl

theorem sameTree_toJson {o p : Order} (format : OrderFormat) :
    SameTree (o.toJson format) (p.toJson format) ↔ o = p := by
  cases format with
  | pair =>
    obtain ⟨field, direction⟩ := o
    obtain ⟨field', direction'⟩ := p
    cases direction <;> cases direction' <;> simp [toJson, Direction.text]
  | clause => rw [toJson, toJson, SameTree.str_iff, clause_inj]

end Order

namespace Directive

theorem Kind.name_inj {k l : Kind} : k.name = l.name ↔ k = l := by
  cases k <;> cases l <;> decide

def FiniteFloats : Directive → Prop
  | filter f => f.FiniteFloats
  | _ => True

def SameForm : Directive → Directive → Prop
  | filter f, filter g => f.SameForm g
  | d, e => d = e

theorem SameForm.kind_eq {d e : Directive} (h : d.SameForm e) : d.kind = e.kind := by
  cases d <;> cases e <;> first | rfl | cases h

theorem kinds_eq_of_sameForm {ds es : List Directive} (h : List.Forall₂ SameForm ds es) :
    ds.map kind = es.map kind := by
  induction h with
  | nil => rfl
  | cons hd _ ih => rw [List.map_cons, List.map_cons, hd.kind_eq, ih]

theorem sameTree_countJson {m n : Option UInt64} :
    SameTree (countJson m) (countJson n) ↔ m = n := by
  cases m with
  | none =>
    cases n with
    | none => simp [countJson]
    | some n => exact iff_of_false (fun h => by cases h) (fun h => by cases h)
  | some m =>
    cases n with
    | none => exact iff_of_false (fun h => by cases h) (fun h => by cases h)
    | some n =>
      rw [countJson, countJson, SameTree.int_iff, Int.ofNat_inj, UInt64.toNat_inj,
        Option.some.injEq]

theorem sameTree_payload {d e : Directive} (hd : d.FiniteFloats) (he : e.FiniteFloats)
    (hkind : d.kind = e.kind) (format : OrderFormat) :
    SameTree (d.payload format) (e.payload format) ↔ d.SameForm e := by
  cases d <;> cases e <;> cases hkind
  case filter.filter.refl f g => exact Filter.sameTree_toJson hd he
  case order.order.refl o p => simp [payload, SameForm, Order.sameTree_toJson]
  case limit.limit.refl m n => simp [payload, SameForm, sameTree_countJson]
  case offset.offset.refl m n => simp [payload, SameForm, sameTree_countJson]
  case index.index.refl s t => simp [payload, SameForm]
  case pluck.pluck.refl xs ys => simp [payload, SameForm]

theorem sameTree_toJson {d e : Directive} (hd : d.FiniteFloats) (he : e.FiniteFloats)
    (format : OrderFormat) :
    SameTree (d.toJson format) (e.toJson format) ↔ d.SameForm e := by
  simp only [toJson, SameTree.arr_iff, List.forall₂_cons, SameTree.str_iff, Kind.name_inj,
    List.forall₂_nil_left_iff, and_true]
  constructor
  · rintro ⟨hkind, hpayload⟩
    exact (sameTree_payload hd he hkind format).1 hpayload
  · intro h
    exact ⟨h.kind_eq, (sameTree_payload hd he h.kind_eq format).2 h⟩

end Directive

theorem Directives.eq_filter_of_mem {ds : Directives} {f : Filter}
    (h : .filter f ∈ ds.entries) : f = ds.filter := by
  obtain ⟨g, rest, hds⟩ := ds.exists_entries
  have hdistinct := ds.distinct
  rw [hds, List.map_cons, List.nodup_cons] at hdistinct
  rw [hds] at h
  rw [filter_of_entries hds]
  rcases List.mem_cons.1 h with h | h
  · exact Directive.filter.inj h
  · exact absurd (List.mem_map.2 ⟨_, h, rfl⟩) hdistinct.1

namespace Query

def FiniteFloats (q : Query) : Prop := q.filters.FiniteFloats

theorem FiniteFloats.directive {q : Query} (h : q.FiniteFloats) :
    ∀ d ∈ q.directives.entries, d.FiniteFloats := by
  intro d hd
  cases d with
  | filter f =>
    rw [Directives.eq_filter_of_mem hd]
    exact h
  | order | limit | offset | index | pluck => trivial

/-- A body tells schema, kinds and payloads, and two queries that agree in these have one body. -/
theorem sameTree_body_iff {q r : Query} (hformat : q.orderFormat = r.orderFormat)
    (hq : q.FiniteFloats) (hr : r.FiniteFloats) :
    (SameTree q.toJson r.toJson ↔
      q.schema = r.schema ∧ q.directives.kinds = r.directives.kinds ∧
        List.Forall₂ Directive.SameForm q.directives.entries r.directives.entries) ∧
    ∀ f, .filter f ∈ q.directives.entries →
      f.toJson = .obj (Keyed.putAll Prod.fst [] (f.entries.map fun p => (p.1, p.2.toJson))) := by
  refine ⟨?_, fun f _ => f.toJson_eq_putAll⟩
  have hdirective : ∀ d ∈ q.directives.entries, ∀ e ∈ r.directives.entries,
      SameTree (d.toJson r.orderFormat) (e.toJson r.orderFormat) ↔ d.SameForm e :=
    fun d hd e he => Directive.sameTree_toJson (hq.directive d hd) (hr.directive e he) _
  have hdirectives : SameTree (q.directives.toJson q.orderFormat)
      (r.directives.toJson r.orderFormat) ↔
        List.Forall₂ Directive.SameForm q.directives.entries r.directives.entries := by
    rw [hformat, Directives.toJson, Directives.toJson, SameTree.arr_iff,
      List.forall₂_map_left_iff, List.forall₂_map_right_iff]
    exact forall₂_congr_of_mem hdirective
  calc
    SameTree q.toJson r.toJson ↔ q.schema = r.schema ∧
        SameTree (q.directives.toJson q.orderFormat) (r.directives.toJson r.orderFormat) := by
      simp [toJson]
    _ ↔ q.schema = r.schema ∧ q.directives.kinds = r.directives.kinds ∧
        List.Forall₂ Directive.SameForm q.directives.entries r.directives.entries := by
      rw [hdirectives, Directives.kinds, Directives.kinds,
        and_iff_right_of_imp Directive.kinds_eq_of_sameForm]

theorem sameTree_body_zeros :
    ∃ q : Bool → Query,
      (∀ negative, (q negative).Reachable ∧ (q negative).FiniteFloats ∧
        (q negative).filters.entries = [("rating", .float (.zero negative))]) ∧
      (q true).orderFormat = (q false).orderFormat ∧ SameTree (q true).toJson (q false).toJson := by
  have hnew : Reachable { schema := "test" } :=
    .new (if_pos (by decide : schemaValid "test" = true))
  have hordered := hnew.step (.order ⟨"two words", .descending⟩) rfl
  have hclause : ∀ negative, (Clause.terms [("rating", .float (.zero negative))]).toFilter =
      .ok (.ofList [("rating", .float (.zero negative))]) := fun _ => rfl
  have hfinite : ∀ negative, Filter.FiniteFloats
      (.merge .empty (.ofList [("rating", .float (.zero negative))])) := by
    intro negative p hp
    obtain rfl := List.mem_singleton.1 hp
    rfl
  have hbuilt := fun negative => hordered.filter (filter_of_toFilter (hclause negative) _)
  refine ⟨_, fun negative => ⟨hbuilt negative, hfinite negative, rfl⟩, rfl, ?_⟩
  refine (sameTree_body_iff ?_ ?_ ?_).1.2 ⟨rfl, rfl, ?_⟩
  · rfl
  · exact hfinite true
  · exact hfinite false
  · exact .cons ⟨rfl, .cons rfl .nil⟩ (.cons rfl .nil)

end Query

end DocumentClient
