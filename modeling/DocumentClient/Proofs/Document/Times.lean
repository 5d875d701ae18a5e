import DocumentClient.Proofs.Document.RoundTrip

/-!
Documents with other times in their fields.  A time comes to an instant, to nothing, or stays among
the attributes since it was not read; the document is the same just if both times come to the same.
-/

namespace DocumentClient.Document

section Fields

variable {α : Type} {read : Json → Option α} {name other : String} {fs : Json.Fields}

/-- What a field comes to: nothing if it is missing or null, and else what was read of its value or,
failing that, the value. -/
def outcome (read : Json → Option α) : Option Json → Option (α ⊕ Json)
  | none => none
  | some .null => none
  | some v => some (((read v).map Sum.inl).getD (.inr v))

theorem outcome_eq_none_iff {v? : Option Json} :
    outcome read v? = none ↔ ∀ v, v? = some v → v = .null := by
  cases v? with
  | none => simp [outcome]
  | some v => cases v <;> simp [outcome]

theorem outcome_some {v : Json} (hnull : v ≠ .null) :
    outcome read (some v) = some (((read v).map Sum.inl).getD (.inr v)) := by
  rw [outcome]
  simpa using hnull

theorem outcome_of_read {v : Json} {a : α} (hnull : v ≠ .null) (hread : read v = some a) :
    outcome read (some v) = some (.inl a) := by
  rw [outcome_some hnull, hread]
  rfl

theorem take_of_outcome_none (h : outcome read (fs.get? name) = none) :
    take read name fs = (none, fs.erase name) := by
  cases hget : fs.get? name with
  | none => rw [take_of_settled (settled_of_get?_none hget), Json.Fields.erase_of_get?_none hget]
  | some v =>
    by_cases hnull : v = .null
    · simp [take, hget, hnull]
    · rw [hget, outcome_some hnull] at h
      cases h

theorem exists_of_outcome_some {v? : Option Json} {x : α ⊕ Json} (h : outcome read v? = some x) :
    ∃ v, v? = some v ∧ v ≠ .null ∧ ((read v).map Sum.inl).getD (.inr v) = x := by
  cases v? with
  | none => cases h
  | some v =>
    by_cases hnull : v = .null
    · rw [hnull] at h
      cases h
    · rw [outcome_some hnull] at h
      exact ⟨v, rfl, hnull, Option.some.inj h⟩

theorem take_of_outcome_inl {a : α} (h : outcome read (fs.get? name) = some (.inl a)) :
    take read name fs = (some a, fs.erase name) := by
  obtain ⟨v, hget, hnull, hv⟩ := exists_of_outcome_some h
  cases hread : read v with
  | none => simp [hread] at hv
  | some b =>
    obtain rfl : b = a := by simpa [hread] using hv
    exact take_of_read hget hnull hread

theorem eq_of_outcome_inr {v? : Option Json} {v : Json} (h : outcome read v? = some (.inr v)) :
    v? = some v ∧ v ≠ .null ∧ read v = none := by
  obtain ⟨w, rfl, hnull, hw⟩ := exists_of_outcome_some h
  cases hread : read w with
  | none =>
    obtain rfl : w = v := by simpa [hread] using hw
    exact ⟨rfl, hnull, hread⟩
  | some a => simp [hread] at hw

theorem take_of_outcome_inr {v : Json} (h : outcome read (fs.get? name) = some (.inr v)) :
    take read name fs = (none, fs) := by
  obtain ⟨hget, hnull, hread⟩ := eq_of_outcome_inr h
  exact take_of_settled (settled_of_unreadable hget hnull hread)

theorem take_put_self {v : Json} (h : outcome read (some v) = outcome read (fs.get? name)) :
    take read name (fs.put name v) = take read name fs := by
  have hput : outcome read ((fs.put name v).get? name) = outcome read (fs.get? name) := by
    rw [Json.Fields.get?_put_self, h]
  cases hout : outcome read (fs.get? name) with
  | none =>
    rw [take_of_outcome_none hout, take_of_outcome_none (hput.trans hout),
      Json.Fields.erase_put_self]
  | some x =>
    cases x with
    | inl a =>
      rw [take_of_outcome_inl hout, take_of_outcome_inl (hput.trans hout),
        Json.Fields.erase_put_self]
    | inr w =>
      obtain ⟨hget, -, -⟩ := eq_of_outcome_inr hout
      obtain ⟨hv, -, -⟩ := eq_of_outcome_inr (h.trans hout)
      rw [Json.Fields.put_of_get? (hget.trans hv.symm)]

theorem take_put_of_ne (hne : name ≠ other) (fs : Json.Fields) (v : Json) :
    take read name (fs.put other v) =
      ((take read name fs).1, (take read name fs).2.put other v) := by
  rw [take, take, Json.Fields.get?_put_of_ne hne, Json.Fields.erase_put_of_ne hne]
  split
  · rfl
  · rfl
  · split
    · rfl
    · rfl

theorem get?_take_of_ne (hne : other ≠ name) (fs : Json.Fields) :
    (take read name fs).2.get? other = fs.get? other := by
  rcases take_cases read name fs with ⟨htake, -⟩ | ⟨x, htake, -⟩
  · rw [htake]
  · rw [htake]
    exact Json.Fields.get?_erase_of_ne hne fs

def found (x : Option α) (v? : Option Json) : Option (α ⊕ Json) :=
  (x.map Sum.inl).or (v?.map Sum.inr)

theorem found_take (hfs : (fs.map Prod.fst).Nodup) :
    found (take read name fs).1 ((take read name fs).2.get? name) =
      outcome read (fs.get? name) := by
  cases hout : outcome read (fs.get? name) with
  | none =>
    rw [take_of_outcome_none hout]
    simp [found, Json.Fields.get?_erase_self hfs]
  | some x =>
    cases x with
    | inl a =>
      rw [take_of_outcome_inl hout]
      simp [found]
    | inr v =>
      rw [take_of_outcome_inr hout]
      simp [found, (eq_of_outcome_inr hout).1]

theorem found_eq_outcome_iff (hread : read .null = none) {x : Option α} {left v? : Option Json} :
    found x left = outcome read v? ↔
      x = v?.bind read ∧ (x = none → left = v?.filter fun v => !v.isNull) := by
  cases v? with
  | none => cases x <;> simp [found, outcome]
  | some v =>
    by_cases hnull : v = .null
    · subst hnull
      cases x <;> simp [found, outcome, hread, Json.isNull, Option.filter]
    · have hkeep : v.isNull = false := Json.isNull_eq_false hnull
      rw [outcome_some hnull]
      cases hv : read v with
      | none => cases x <;> simp [found, hv, hkeep, Option.filter]
      | some a => cases x <;> simp [found, hv]

end Fields

/-- A time that was read of a value.  If there is none, the value is left under the name of the
time, unless it is null. -/
structure TimeFrom (v? : Option Json) (time : Option Instant) (left : Option Json) : Prop where
  time_eq : time = v?.bind readInstant
  left_eq : time = none → left = v?.filter fun v => !v.isNull

theorem timeFrom_iff {v? left : Option Json} {time : Option Instant} :
    TimeFrom v? time left ↔ found time left = outcome readInstant v? := by
  rw [found_eq_outcome_iff rfl]
  exact ⟨fun h => ⟨h.time_eq, h.left_eq⟩, fun h => ⟨h.1, h.2⟩⟩

def putTimes (fs : Json.Fields) (created updated : Json) : Json.Fields :=
  (fs.put "created_at" created).put "updated_at" updated

section

variable {fs : Json.Fields} {created updated : Json}

theorem nodup_putTimes (hfs : (fs.map Prod.fst).Nodup) (created updated : Json) :
    ((putTimes fs created updated).map Prod.fst).Nodup :=
  Keyed.nodup_map_put (Keyed.nodup_map_put hfs)

theorem get?_putTimes_created_at (fs : Json.Fields) (created updated : Json) :
    (putTimes fs created updated).get? "created_at" = some created := by
  rw [putTimes, Json.Fields.get?_put_of_ne (by decide), Json.Fields.get?_put_self]

theorem get?_putTimes_updated_at (fs : Json.Fields) (created updated : Json) :
    (putTimes fs created updated).get? "updated_at" = some updated := by
  rw [putTimes, Json.Fields.get?_put_self]

theorem get?_putTimes_of_ne {name : String} (hcreated : name ≠ "created_at")
    (hupdated : name ≠ "updated_at") (fs : Json.Fields) (created updated : Json) :
    (putTimes fs created updated).get? name = fs.get? name := by
  rw [putTimes, Json.Fields.get?_put_of_ne hupdated, Json.Fields.get?_put_of_ne hcreated]

theorem take_id_putTimes (fs : Json.Fields) (created updated : Json) :
    take readId "id" (putTimes fs created updated) =
      ((take readId "id" fs).1, putTimes (take readId "id" fs).2 created updated) := by
  rw [putTimes, take_put_of_ne (by decide), take_put_of_ne (by decide)]
  rfl

theorem ofFields_putTimes
    (hcreated : outcome readInstant (some created) = outcome readInstant (fs.get? "created_at"))
    (hupdated : outcome readInstant (some updated) = outcome readInstant (fs.get? "updated_at")) :
    ofFields (putTimes fs created updated) = ofFields fs := by
  let untimed := (take readId "id" fs).2
  let undated := (take readInstant "created_at" untimed).2
  have hfirst : take readInstant "created_at" (putTimes untimed created updated) =
      ((take readInstant "created_at" untimed).1, undated.put "updated_at" updated) := by
    rw [putTimes, take_put_of_ne (by decide), take_put_self]
    rwa [get?_take_of_ne (by decide)]
  have hsecond : take readInstant "updated_at" (undated.put "updated_at" updated) =
      take readInstant "updated_at" undated := by
    apply take_put_self
    rwa [get?_take_of_ne (by decide), get?_take_of_ne (by decide)]
  rw [ofFields_eq (take_id_putTimes fs created updated) hfirst hsecond]
  rfl

theorem found_ofFields (hfs : (fs.map Prod.fst).Nodup) :
    found (ofFields fs).createdAt ((ofFields fs).get? "created_at") =
        outcome readInstant (fs.get? "created_at") ∧
      found (ofFields fs).updatedAt ((ofFields fs).get? "updated_at") =
        outcome readInstant (fs.get? "updated_at") := by
  let untimed := (take readId "id" fs).2
  let undated := (take readInstant "created_at" untimed).2
  have huntimed : (untimed.map Prod.fst).Nodup := nodup_take hfs readId "id"
  have hundated : (undated.map Prod.fst).Nodup := nodup_take huntimed readInstant "created_at"
  constructor
  · calc
      found (ofFields fs).createdAt ((ofFields fs).get? "created_at") =
          found (take readInstant "created_at" untimed).1 (undated.get? "created_at") :=
        congrArg (found _) (get?_take_of_ne (by decide) undated)
      _ = outcome readInstant (untimed.get? "created_at") := found_take huntimed
      _ = outcome readInstant (fs.get? "created_at") :=
        congrArg (outcome readInstant) (get?_take_of_ne (by decide) fs)
  · calc
      found (ofFields fs).updatedAt ((ofFields fs).get? "updated_at") =
          outcome readInstant (undated.get? "updated_at") := found_take hundated
      _ = outcome readInstant (untimed.get? "updated_at") :=
        congrArg (outcome readInstant) (get?_take_of_ne (by decide) untimed)
      _ = outcome readInstant (fs.get? "updated_at") :=
        congrArg (outcome readInstant) (get?_take_of_ne (by decide) fs)

theorem ofFields_putTimes_iff (hfs : (fs.map Prod.fst).Nodup) :
    ofFields (putTimes fs created updated) = ofFields fs ↔
      outcome readInstant (some created) = outcome readInstant (fs.get? "created_at") ∧
        outcome readInstant (some updated) = outcome readInstant (fs.get? "updated_at") := by
  refine ⟨fun h => ?_, fun ⟨hcreated, hupdated⟩ => ofFields_putTimes hcreated hupdated⟩
  obtain ⟨hcreated, hupdated⟩ := found_ofFields (nodup_putTimes hfs created updated)
  rw [h, get?_putTimes_created_at] at hcreated
  rw [h, get?_putTimes_updated_at] at hupdated
  exact ⟨hcreated.symm.trans (found_ofFields hfs).1, hupdated.symm.trans (found_ofFields hfs).2⟩

def SameButTimes (d e : Document) : Prop :=
  d.id = e.id ∧ ∀ name, name ≠ "created_at" → name ≠ "updated_at" → d.get? name = e.get? name

theorem get?_ofFields_of_ne {name : String} (hcreated : name ≠ "created_at")
    (hupdated : name ≠ "updated_at") (fs : Json.Fields) :
    (ofFields fs).get? name = (take readId "id" fs).2.get? name :=
  (get?_take_of_ne hupdated _).trans (get?_take_of_ne hcreated _)

theorem sameButTimes_putTimes (fs : Json.Fields) (created updated : Json) :
    SameButTimes (ofFields fs) (ofFields (putTimes fs created updated)) := by
  constructor
  · exact (congrArg Prod.fst (take_id_putTimes fs created updated)).symm
  · intro name hcreated hupdated
    rw [get?_ofFields_of_ne hcreated hupdated, get?_ofFields_of_ne hcreated hupdated,
      take_id_putTimes, get?_putTimes_of_ne hcreated hupdated]

end

end DocumentClient.Document
