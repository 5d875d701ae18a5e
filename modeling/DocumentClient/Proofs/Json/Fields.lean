import DocumentClient.Json.Decode
import DocumentClient.Proofs.Except
import DocumentClient.Proofs.Keyed

namespace DocumentClient.Json

theorem isNull_eq_false {v : Json} (h : v ≠ .null) : v.isNull = false := by
  cases v with
  | null => exact absurd rfl h
  | obj | arr | bool | num | str => rfl

namespace Fields

variable {fs : Fields} {name other : String} {v : Json}

theorem get?_cons (other : String) (v : Json) (fs : Fields) (name : String) :
    Fields.get? ((other, v) :: fs) name = if other = name then some v else fs.get? name := by
  rw [get?, Keyed.find?_cons]
  split
  · rfl
  · rfl

theorem get?_eq_some_iff_mem (hfs : (fs.map Prod.fst).Nodup) :
    fs.get? name = some v ↔ (name, v) ∈ fs := by
  rw [get?, Option.map_eq_some_iff]
  constructor
  · rintro ⟨⟨key, w⟩, hfind, rfl⟩
    obtain rfl : key = name := Keyed.key_of_find?_eq_some hfind
    exact List.mem_of_find?_eq_some hfind
  · intro hmem
    exact ⟨_, Keyed.find?_eq_some_of_mem hfs hmem, rfl⟩

theorem get?_erase_self {fs : Fields} (h : (fs.map Prod.fst).Nodup) (name : String) :
    (fs.erase name).get? name = none := by
  rw [get?, erase, Keyed.find?_erase_self h]
  rfl

theorem get?_erase_of_ne {name other : String} (h : name ≠ other) (fs : Fields) :
    (fs.erase other).get? name = fs.get? name := by
  rw [get?, erase, Keyed.find?_erase_of_ne h]
  rfl

theorem erase_cons (other : String) (v : Json) (fs : Fields) (name : String) :
    Fields.erase ((other, v) :: fs) name =
      if other = name then fs else (other, v) :: fs.erase name :=
  Keyed.erase_cons name (other, v) fs

theorem get?_put (fs : Fields) (name : String) (v : Json) (other : String) :
    (fs.put name v).get? other = if name = other then some v else fs.get? other := by
  rw [get?, put, Keyed.find?_put]
  split
  · rfl
  · rfl

theorem get?_put_self (fs : Fields) (name : String) (v : Json) :
    (fs.put name v).get? name = some v := by
  rw [get?_put, if_pos rfl]

theorem get?_put_of_ne (h : other ≠ name) (fs : Fields) (v : Json) :
    (fs.put name v).get? other = fs.get? other := by
  rw [get?_put, if_neg (Ne.symm h)]

theorem erase_put_self (fs : Fields) (name : String) (v : Json) :
    (fs.put name v).erase name = fs.erase name :=
  Keyed.erase_put_self (name, v) fs

theorem erase_put_of_ne (h : other ≠ name) (fs : Fields) (v : Json) :
    (fs.put name v).erase other = (fs.erase other).put name v :=
  Keyed.erase_put_of_ne h fs

theorem erase_of_get?_none (h : fs.get? name = none) : fs.erase name = fs := by
  rw [get?, Keyed.find?, Option.map_eq_none_iff, List.find?_eq_none] at h
  exact List.eraseP_of_forall_not h

theorem put_of_get? (h : fs.get? name = some v) : fs.put name v = fs := by
  obtain ⟨⟨key, w⟩, hfind, rfl⟩ := Option.map_eq_some_iff.1 h
  obtain rfl : key = name := Keyed.key_of_find?_eq_some hfind
  exact Keyed.put_eq_self hfind

end Fields

namespace Decoder

variable {α : Type} {step : α → String → Json → Except DecodeError α}

theorem fields_cons (start : α) (f : String × Json) (fs : Fields) :
    fields step start (f :: fs) = step start f.1 f.2 >>= fun next => fields step next fs := by
  rw [fields, List.foldlM_cons]
  rfl

theorem fields_induction {P : α → Prop}
    (hstep : ∀ x name v y, P x → step x name v = .ok y → P y) {start result : α} (hstart : P start)
    {fs : Fields} (h : fields step start fs = .ok result) : P result := by
  induction fs generalizing start with
  | nil =>
    cases h
    exact hstart
  | cons f fs ih =>
    rw [fields_cons] at h
    obtain ⟨next, hnext, h⟩ := bind_eq_ok_iff.1 h
    exact ih (hstep start f.1 f.2 next hstart hnext) h

theorem fields_cons_of_passed {name : String} (hstep : ∀ x v, step x name v = .ok x) (start : α)
    (v : Json) (fs : Fields) : fields step start ((name, v) :: fs) = fields step start fs := by
  rw [fields_cons, hstep]
  rfl

theorem fields_put_of_passed {name : String} (hstep : ∀ x v, step x name v = .ok x) (start : α)
    (v : Json) (fs : Fields) : fields step start (fs.put name v) = fields step start fs := by
  induction fs generalizing start with
  | nil => exact fields_cons_of_passed hstep start v []
  | cons f fs ih =>
    obtain ⟨key, w⟩ := f
    rw [Fields.put, Keyed.put]
    split
    · next hkey =>
      obtain rfl : key = name := hkey
      rw [fields_cons_of_passed hstep, fields_cons_of_passed hstep]
    · rw [fields_cons, fields_cons]
      exact bind_congr fun next => ih next

end Decoder

end DocumentClient.Json
