import DocumentClient.Proofs.Instant.RoundTrip
import DocumentClient.Proofs.Json.Fields
import DocumentClient.Resource.Document

namespace DocumentClient

namespace Document

section Fields

variable {α β : Type} {read : Json → Option α} {name other : String} {fs : Json.Fields}

def Settled (read : Json → Option α) (name : String) (fs : Json.Fields) : Prop :=
  ∀ v, fs.get? name = some v → v ≠ .null ∧ read v = none

theorem settled_of_get?_none (hget : fs.get? name = none) : Settled read name fs := by
  intro v hv
  rw [hget] at hv
  cases hv

theorem settled_of_unreadable {v : Json} (hget : fs.get? name = some v) (hnull : v ≠ .null)
    (hread : read v = none) : Settled read name fs := by
  intro w hw
  rw [hget] at hw
  cases hw
  exact ⟨hnull, hread⟩

theorem take_of_settled (h : Settled read name fs) : take read name fs = (none, fs) := by
  rw [take]
  split
  · rfl
  · next hget => exact absurd rfl (h _ hget).1
  · next v _ hget => simp only [(h v hget).2]

theorem take_of_read {v : Json} {a : α} (hget : fs.get? name = some v) (hnull : v ≠ .null)
    (hread : read v = some a) : take read name fs = (some a, fs.erase name) := by
  rw [take]
  split
  · next hnone =>
    rw [hget] at hnone
    cases hnone
  · next hsome =>
    rw [hget] at hsome
    cases hsome
    exact absurd rfl hnull
  · next w _ hsome =>
    rw [hget] at hsome
    cases hsome
    simp only [hread]

theorem take_cases (read : Json → Option α) (name : String) (fs : Json.Fields) :
    take read name fs = (none, fs) ∧ Settled read name fs ∨
      ∃ x, take read name fs = (x, fs.erase name) ∧ ∀ a ∈ x, ∃ v, read v = some a := by
  cases hget : fs.get? name with
  | none =>
    have h : Settled read name fs := settled_of_get?_none hget
    exact Or.inl ⟨take_of_settled h, h⟩
  | some v =>
    by_cases hnull : v = .null
    · subst hnull
      exact Or.inr ⟨none, by simp [take, hget], by simp⟩
    · cases hread : read v with
      | none =>
        have h : Settled read name fs := settled_of_unreadable hget hnull hread
        exact Or.inl ⟨take_of_settled h, h⟩
      | some a =>
        refine Or.inr ⟨some a, take_of_read hget hnull hread, ?_⟩
        intro b hb
        cases hb
        exact ⟨v, hread⟩

theorem settled_take (hfs : (fs.map Prod.fst).Nodup) : Settled read name (take read name fs).2 := by
  rcases take_cases read name fs with ⟨htake, h⟩ | ⟨x, htake, -⟩
  · rw [htake]
    exact h
  · rw [htake]
    exact settled_of_get?_none (Json.Fields.get?_erase_self hfs name)

theorem Settled.take_of_ne (h : Settled read name fs) (hne : name ≠ other)
    (read' : Json → Option β) : Settled read name (take read' other fs).2 := by
  rcases take_cases read' other fs with ⟨htake, -⟩ | ⟨x, htake, -⟩
  · rw [htake]
    exact h
  · rw [htake]
    intro v hv
    exact h v (by rwa [Json.Fields.get?_erase_of_ne hne] at hv)

theorem take_sublist (read : Json → Option α) (name : String) (fs : Json.Fields) :
    (take read name fs).2.Sublist fs := by
  rcases take_cases read name fs with ⟨htake, -⟩ | ⟨x, htake, -⟩
  · rw [htake]
  · rw [htake]
    exact List.eraseP_sublist

theorem nodup_take (hfs : (fs.map Prod.fst).Nodup) (read : Json → Option α) (name : String) :
    ((take read name fs).2.map Prod.fst).Nodup :=
  hfs.sublist ((take_sublist read name fs).map Prod.fst)

theorem not_mem_take (h : other ∉ fs.map Prod.fst) (read : Json → Option α) (name : String) :
    other ∉ (take read name fs).2.map Prod.fst :=
  fun hmem => h (((take_sublist read name fs).map Prod.fst).subset hmem)

theorem not_mem_of_isSome_take (hfs : (fs.map Prod.fst).Nodup)
    (h : (take read name fs).1.isSome) : name ∉ (take read name fs).2.map Prod.fst := by
  rcases take_cases read name fs with ⟨htake, -⟩ | ⟨x, htake, -⟩
  · simp [htake] at h
  · rw [htake]
    exact Keyed.not_mem_map_erase hfs

theorem exists_read_of_mem_take {a : α} (h : a ∈ (take read name fs).1) :
    ∃ v, read v = some a := by
  rcases take_cases read name fs with ⟨htake, -⟩ | ⟨x, htake, hx⟩
  · simp [htake] at h
  · rw [htake] at h
    exact hx a h

def written (write : α → Json) (name : String) (x : Option α) : Json.Fields :=
  (x.map fun a => (name, write a)).toList

@[simp] theorem written_none (write : α → Json) (name : String) : written write name none = [] :=
  rfl

@[simp] theorem written_some (write : α → Json) (name : String) (a : α) :
    written write name (some a) = [(name, write a)] := rfl

theorem Settled.written_append (h : Settled read name fs) (hne : other ≠ name) (write : β → Json)
    (x : Option β) : Settled read name (written write other x ++ fs) := by
  cases x with
  | none => exact h
  | some b =>
    intro v hv
    rw [written_some, List.singleton_append, Json.Fields.get?_cons, if_neg hne] at hv
    exact h v hv

theorem take_written_append {write : α → Json} (hwrite : ∀ a, write a ≠ .null)
    (h : Settled read name fs) (x : Option α) :
    take read name (written write name x ++ fs) =
      (x.bind fun a => read (write a),
        written write name (x.filter fun a => (read (write a)).isNone) ++ fs) := by
  cases x with
  | none => exact take_of_settled h
  | some a =>
    have hget : Json.Fields.get? ((name, write a) :: fs) name = some (write a) := by
      rw [Json.Fields.get?_cons, if_pos rfl]
    rw [written_some, List.singleton_append]
    cases hread : read (write a) with
    | none =>
      have hhead : Settled read name ((name, write a) :: fs) :=
        settled_of_unreadable hget (hwrite a) hread
      simp [take_of_settled hhead, hread, Option.filter]
    | some b =>
      simp [take_of_read hget (hwrite a) hread, Json.Fields.erase_cons, hread, Option.filter]

theorem take_written_append_of_ne (hne : other ≠ name) (write : β → Json) (x : Option β) :
    take read name (written write other x ++ fs) =
      ((take read name fs).1, written write other x ++ (take read name fs).2) := by
  cases x with
  | none => rfl
  | some b =>
    rw [written_some, List.singleton_append, take, take, Json.Fields.get?_cons, if_neg hne,
      Json.Fields.erase_cons, if_neg hne]
    split
    · rfl
    · rfl
    · split
      · rfl
      · rfl

theorem not_mem_written_append (h : name ∉ fs.map Prod.fst) (hne : other ≠ name) (write : β → Json)
    (x : Option β) : name ∉ (written write other x ++ fs).map Prod.fst := by
  cases x with
  | none => exact h
  | some b => simpa [Ne.symm hne] using h

theorem nodup_written_append (hfs : (fs.map Prod.fst).Nodup) {x : Option α}
    (h : x.isSome → name ∉ fs.map Prod.fst) (write : α → Json) :
    ((written write name x ++ fs).map Prod.fst).Nodup := by
  cases x with
  | none => exact hfs
  | some a =>
    rw [written_some, List.singleton_append, List.map_cons, List.nodup_cons]
    exact ⟨h rfl, hfs⟩

end Fields

theorem wellFormed_of_readInstant {v : Json} {t : Instant} (h : readInstant v = some t) :
    t.WellFormed := by
  unfold readInstant at h
  split at h
  · exact Instant.wellFormed_of_ofText? h
  · exact Instant.wellFormed_of_ofEpochSeconds? h
  · cases h

def writeInstant (t : Instant) : Json := .str t.zuluText

theorem toFields_eq (d : Document) :
    d.toFields = written .str "id" d.id ++ (written writeInstant "created_at" d.createdAt ++
      (written writeInstant "updated_at" d.updatedAt ++ d.attributes)) := by
  simp [toFields, written, writeInstant]

theorem nodup_toFields {fs : Json.Fields} (hfs : (fs.map Prod.fst).Nodup) :
    ((ofFields fs).toFields.map Prod.fst).Nodup := by
  have hfs₁ := nodup_take hfs readId "id"
  have hfs₂ := nodup_take hfs₁ readInstant "created_at"
  have hfs₃ := nodup_take hfs₂ readInstant "updated_at"
  rw [toFields_eq]
  -- A name is written only if it was taken out, and then it is gone from all that is left.
  refine nodup_written_append (nodup_written_append (nodup_written_append hfs₃ ?updated _)
    ?created _) ?id _
  case updated => exact not_mem_of_isSome_take hfs₂
  case created =>
    intro h
    have hout := not_mem_take (not_mem_of_isSome_take hfs₁ h) readInstant "updated_at"
    exact not_mem_written_append hout (by decide) _ _
  case id =>
    intro h
    have hout := not_mem_take (not_mem_take (not_mem_of_isSome_take hfs h) readInstant
      "created_at") readInstant "updated_at"
    exact not_mem_written_append (not_mem_written_append hout (by decide) _ _) (by decide) _ _

/-- What reading leaves behind: nothing among the attributes that it would take out. -/
structure WellFormed (d : Document) : Prop where
  id : Settled readId "id" d.attributes
  createdAt : Settled readInstant "created_at" d.attributes
  updatedAt : Settled readInstant "updated_at" d.attributes
  wellFormed_createdAt : ∀ t ∈ d.createdAt, t.WellFormed
  wellFormed_updatedAt : ∀ t ∈ d.updatedAt, t.WellFormed

theorem wellFormed_ofFields {fs : Json.Fields} (hfs : (fs.map Prod.fst).Nodup) :
    (ofFields fs).WellFormed where
  id := ((settled_take hfs).take_of_ne (by decide) readInstant).take_of_ne (by decide) readInstant
  createdAt := (settled_take (nodup_take hfs _ _)).take_of_ne (by decide) readInstant
  updatedAt := settled_take (nodup_take (nodup_take hfs _ _) _ _)
  wellFormed_createdAt t ht := by
    obtain ⟨v, hread⟩ := exists_read_of_mem_take ht
    exact wellFormed_of_readInstant hread
  wellFormed_updatedAt t ht := by
    obtain ⟨v, hread⟩ := exists_read_of_mem_take ht
    exact wellFormed_of_readInstant hread

theorem writeInstant_ne_null (t : Instant) : writeInstant t ≠ .null := by simp [writeInstant]

theorem readInstant_writeInstant {t : Instant} (h : t.WellFormed) :
    readInstant (writeInstant t) = if t.FourDigitYear then some t else none := by
  have hread : readInstant (writeInstant t) = Instant.ofText? t.zuluText := rfl
  rw [hread, Instant.ofText?_zuluText h]

def readable (x : Option Instant) : Option Instant := x.filter fun t => t.FourDigitYear

def unreadable (x : Option Instant) : Option Instant := x.filter fun t => ¬ t.FourDigitYear

theorem take_writeInstant_append {name : String} {fs : Json.Fields}
    (h : Settled readInstant name fs) {x : Option Instant} (hx : ∀ t ∈ x, t.WellFormed) :
    take readInstant name (written writeInstant name x ++ fs) =
      (readable x, written writeInstant name (unreadable x) ++ fs) := by
  rw [take_written_append writeInstant_ne_null h]
  cases x with
  | none => simp [readable, unreadable]
  | some t =>
    have hread := readInstant_writeInstant (hx t rfl)
    by_cases hyear : t.FourDigitYear
    · simp [readable, unreadable, Option.filter, hread, hyear]
    · simp [readable, unreadable, Option.filter, hread, hyear]

theorem take_id_append {fs : Json.Fields} (h : Settled readId "id" fs) (x : Option String) :
    take readId "id" (written .str "id" x ++ fs) = (x, fs) := by
  rw [take_written_append (by simp) h]
  cases x with
  | none => rfl
  | some s => rfl

theorem ofFields_eq {fs gs hs as : Json.Fields} {id : Option String}
    {createdAt updatedAt : Option Instant} (hid : take readId "id" fs = (id, gs))
    (hcreated : take readInstant "created_at" gs = (createdAt, hs))
    (hupdated : take readInstant "updated_at" hs = (updatedAt, as)) :
    ofFields fs = { id, createdAt, updatedAt, attributes := as } := by
  simp only [ofFields, hid, hcreated, hupdated]

theorem ofFields_toFields {d : Document} (h : d.WellFormed) :
    ofFields d.toFields =
      { id := d.id
        createdAt := readable d.createdAt
        updatedAt := readable d.updatedAt
        attributes := written writeInstant "created_at" (unreadable d.createdAt) ++
          (written writeInstant "updated_at" (unreadable d.updatedAt) ++ d.attributes) } := by
  have hid : Settled readId "id" (written writeInstant "created_at" d.createdAt ++
      (written writeInstant "updated_at" d.updatedAt ++ d.attributes)) :=
    (h.id.written_append (by decide) writeInstant _).written_append (by decide) writeInstant _
  have hcreated : Settled readInstant "created_at"
      (written writeInstant "updated_at" d.updatedAt ++ d.attributes) :=
    h.createdAt.written_append (by decide) writeInstant _
  apply ofFields_eq
  · rw [toFields_eq, take_id_append hid]
  · rw [take_writeInstant_append hcreated h.wellFormed_createdAt]
  · rw [take_written_append_of_ne (by decide),
      take_writeInstant_append h.updatedAt h.wellFormed_updatedAt]

theorem readable_eq_self_iff {x : Option Instant} :
    readable x = x ↔ ∀ t ∈ x, t.FourDigitYear := by
  cases x with
  | none => simp [readable]
  | some t => simp [readable]

theorem unreadable_eq_none_iff {x : Option Instant} :
    unreadable x = none ↔ ∀ t ∈ x, t.FourDigitYear := by
  cases x with
  | none => simp [unreadable]
  | some t => simp [unreadable]

theorem ofFields_toFields_eq_iff {d : Document} (h : d.WellFormed) :
    ofFields d.toFields = d ↔
      (∀ t ∈ d.createdAt, t.FourDigitYear) ∧ ∀ t ∈ d.updatedAt, t.FourDigitYear := by
  rw [ofFields_toFields h]
  constructor
  · intro heq
    have hcreated : readable d.createdAt = d.createdAt := congrArg createdAt heq
    have hupdated : readable d.updatedAt = d.updatedAt := congrArg updatedAt heq
    exact ⟨readable_eq_self_iff.1 hcreated, readable_eq_self_iff.1 hupdated⟩
  · rintro ⟨hcreated, hupdated⟩
    simp only [readable_eq_self_iff.2 hcreated, readable_eq_self_iff.2 hupdated,
      unreadable_eq_none_iff.2 hcreated, unreadable_eq_none_iff.2 hupdated, written_none,
      List.nil_append]

/-- A document read from an object comes back from its own form just if both times it holds have
years of four digits. -/
theorem decode_toJson_iff {fs : Json.Fields} (hfs : (fs.map Prod.fst).Nodup) :
    ∃ d, decode (.obj fs) = .ok d ∧
      (decode d.toJson = .ok d ↔
        (∀ t ∈ d.createdAt, t.FourDigitYear) ∧ ∀ t ∈ d.updatedAt, t.FourDigitYear) := by
  refine ⟨ofFields fs, rfl, ?_⟩
  rw [← ofFields_toFields_eq_iff (wellFormed_ofFields hfs)]
  constructor
  · intro h
    injection h
  · intro h
    exact congrArg Except.ok h

theorem decode_toJson_iff_leap_second :
    ∃ d, decode (.obj [("rating", .int 4), ("updated_at", .null), ("id", .int 7),
        ("created_at", .str "2016-12-31T23:59:60+00:00")]) = .ok d ∧
      d.createdAt = some ⟨1483228799, 1000000000⟩ ∧ decode d.toJson = .ok d := by
  let fs : Json.Fields := [("rating", .int 4), ("updated_at", .null), ("id", .int 7),
    ("created_at", .str "2016-12-31T23:59:60+00:00")]
  obtain ⟨d, hd, hiff⟩ := decode_toJson_iff (by decide : (fs.map Prod.fst).Nodup)
  have hcreated : (ofFields fs).createdAt = some ⟨1483228799, 1000000000⟩ := by decide +kernel
  have hupdated : (ofFields fs).updatedAt = none := by decide +kernel
  cases hd
  refine ⟨ofFields fs, rfl, hcreated, hiff.2 ⟨?_, ?_⟩⟩
  · rw [hcreated]
    rintro t ⟨⟩
    decide +kernel
  · simp [hupdated]

theorem not_forall_decode_toJson :
    ¬ ∀ (fs : Json.Fields) (d : Document), (fs.map Prod.fst).Nodup →
      decode (.obj fs) = .ok d → decode d.toJson = .ok d := by
  intro h
  -- The first second of the year 10000, which is written with a sign before the year.
  let fs : Json.Fields := [("created_at", .int 253402300800)]
  have hread : (ofFields fs).createdAt = some ⟨253402300800, 0⟩ := by decide +kernel
  have hagain : (ofFields (ofFields fs).toFields).createdAt = none := by decide +kernel
  have heq : decode (ofFields fs).toJson = .ok (ofFields fs) := h fs _ (by decide) rfl
  injection heq with heq
  rw [heq, hread] at hagain
  cases hagain

end Document

end DocumentClient
