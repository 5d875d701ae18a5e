import DocumentClient.Proofs.Document.Times

namespace DocumentClient

namespace Document

inductive Identifies : Json → String → Prop
  | text (s : String) : Identifies (.str s) s
  | number (n : Json.Number) : Identifies (.num n) (String.ofList n.chars)

inductive Dates : Json → Instant → Prop
  | text {s : String} {t : Instant} : Instant.ofText? s = some t → Dates (.str s) t
  | seconds {n : Int} {t : Instant} : Instant.ofEpochSeconds? n = some t → Dates (.int n) t

theorem readId_eq_some_iff {v : Json} {s : String} : readId v = some s ↔ Identifies v s := by
  constructor
  · intro h
    cases v with
    | str s' =>
      cases h
      exact .text s
    | num n =>
      cases h
      exact .number n
    | _ => cases h
  · rintro (_ | _) <;> rfl

theorem readInstant_eq_some_iff {v : Json} {t : Instant} :
    readInstant v = some t ↔ Dates v t := by
  constructor
  · intro h
    unfold readInstant at h
    split at h
    · exact .text h
    · exact .seconds h
    · cases h
  · rintro (h | h)
    · exact h
    · exact h

def ownNames : List String := ["id", "created_at", "updated_at"]

/-- Which fields do not stay among the attributes. -/
inductive Taken : String → Json → Prop
  | null {name : String} : name ∈ ownNames → Taken name .null
  | id {v : Json} {s : String} : Identifies v s → Taken "id" v
  | createdAt {v : Json} {t : Instant} : Dates v t → Taken "created_at" v
  | updatedAt {v : Json} {t : Instant} : Dates v t → Taken "updated_at" v

section Fields

variable {α : Type} {read : Json → Option α} {name : String} {fs : Json.Fields}

def leaves (read : Json → Option α) (v : Json) : Bool := v.isNull || (read v).isSome

theorem leaves_iff {v : Json} : leaves read v = true ↔ v = .null ∨ ∃ a, read v = some a := by
  rw [leaves, Bool.or_eq_true, Option.isSome_iff_exists]
  cases v <;> simp [Json.isNull]

theorem take_of_leaves (hread : read .null = none) {v : Json} (hget : fs.get? name = some v)
    (h : leaves read v = true) : take read name fs = (read v, fs.erase name) := by
  by_cases hnull : v = .null
  · subst hnull
    simp [take, hget, hread]
  · rw [leaves, Json.isNull_eq_false hnull, Bool.false_or] at h
    obtain ⟨a, ha⟩ := Option.isSome_iff_exists.1 h
    rw [take_of_read hget hnull ha, ha]

theorem settled_of_not_leaves {v : Json} (hget : fs.get? name = some v)
    (h : leaves read v = false) : Settled read name fs := by
  rw [leaves, Bool.or_eq_false_iff, Option.isSome_eq_false_iff, Option.isNone_iff_eq_none] at h
  refine settled_of_unreadable hget ?_ h.2
  rintro rfl
  exact absurd h.1 (by simp [Json.isNull])

def stays (read : Json → Option α) (name : String) (f : String × Json) : Bool :=
  f.1 ≠ name || !leaves read f.2

theorem stays_iff {f : String × Json} :
    stays read name f = true ↔ ¬ (f.1 = name ∧ leaves read f.2 = true) := by
  simp [stays, imp_iff_not_or]

theorem take_eq_filter (hread : read .null = none) (hfs : (fs.map Prod.fst).Nodup) :
    take read name fs = ((fs.get? name).bind read, fs.filter (stays read name)) := by
  cases hget : fs.get? name with
  | none =>
    have hall : ∀ f ∈ fs, stays read name f = true := by
      intro f hf
      have hne : f.1 ≠ name := by
        rintro rfl
        rw [(Json.Fields.get?_eq_some_iff_mem hfs).2 hf] at hget
        cases hget
      simp [stays, hne]
    rw [take_of_settled (settled_of_get?_none hget), List.filter_eq_self.2 hall, Option.bind_none]
  | some v =>
    have hvalue : ∀ f ∈ fs, stays read name f = (decide (f.1 ≠ name) || !leaves read v) := by
      intro f hf
      by_cases hname : f.1 = name
      · subst hname
        rw [(Json.Fields.get?_eq_some_iff_mem hfs).2 hf] at hget
        cases hget
        rfl
      · simp [stays, hname]
    rw [List.filter_congr hvalue, Option.bind_some]
    cases hleaves : leaves read v with
    | true => simp [take_of_leaves hread hget hleaves, Json.Fields.erase, Keyed.erase_eq_filter hfs]
    | false =>
      have hsettled := settled_of_not_leaves hget hleaves
      rw [take_of_settled hsettled, (hsettled v hget).2]
      simp

theorem get?_filter_stays (hread : read .null = none) (hfs : (fs.map Prod.fst).Nodup)
    {other : String} (hne : other ≠ name) :
    Json.Fields.get? (fs.filter (stays read name)) other = fs.get? other := by
  have htake : (take read name fs).2 = fs.filter (stays read name) := by
    rw [take_eq_filter hread hfs]
  rw [← get?_take_of_ne hne fs, htake]

end Fields

theorem taken_iff {name : String} {v : Json} :
    Taken name v ↔ name = "id" ∧ leaves readId v = true ∨
      name = "created_at" ∧ leaves readInstant v = true ∨
      name = "updated_at" ∧ leaves readInstant v = true := by
  constructor
  · rintro (hname | hid | htime | htime)
    · simpa [ownNames, leaves, Json.isNull] using hname
    · simp [leaves, readId_eq_some_iff.2 hid]
    · simp [leaves, readInstant_eq_some_iff.2 htime]
    · simp [leaves, readInstant_eq_some_iff.2 htime]
  · simp only [leaves_iff, readId_eq_some_iff, readInstant_eq_some_iff]
    rintro (⟨rfl, rfl | ⟨s, hid⟩⟩ | ⟨rfl, rfl | ⟨t, htime⟩⟩ | ⟨rfl, rfl | ⟨t, htime⟩⟩)
    · exact .null (by decide)
    · exact .id hid
    · exact .null (by decide)
    · exact .createdAt htime
    · exact .null (by decide)
    · exact .updatedAt htime

instance (name : String) (v : Json) : Decidable (Taken name v) := decidable_of_iff _ taken_iff.symm

theorem not_taken_eq_stays (f : String × Json) :
    decide (¬ Taken f.1 f.2) = (stays readInstant "updated_at" f &&
      stays readInstant "created_at" f && stays readId "id" f) := by
  rw [Bool.eq_iff_iff, Bool.and_eq_true, Bool.and_eq_true, decide_eq_true_eq, taken_iff]
  simp only [stays_iff]
  tauto

theorem ofFields_eq_filter {fs : Json.Fields} (hfs : (fs.map Prod.fst).Nodup) :
    ofFields fs =
      { id := (fs.get? "id").bind readId
        createdAt := (fs.get? "created_at").bind readInstant
        updatedAt := (fs.get? "updated_at").bind readInstant
        attributes := fs.filter fun f => ¬ Taken f.1 f.2 } := by
  let untimed : Json.Fields := fs.filter (stays readId "id")
  let undated : Json.Fields := untimed.filter (stays readInstant "created_at")
  have huntimed : (untimed.map Prod.fst).Nodup := hfs.sublist (List.filter_sublist.map _)
  have hundated : (undated.map Prod.fst).Nodup := huntimed.sublist (List.filter_sublist.map _)
  have hcreated : untimed.get? "created_at" = fs.get? "created_at" :=
    get?_filter_stays rfl hfs (by decide)
  have hupdated : undated.get? "updated_at" = fs.get? "updated_at" :=
    (get?_filter_stays rfl huntimed (by decide)).trans (get?_filter_stays rfl hfs (by decide))
  have hattributes : undated.filter (stays readInstant "updated_at") =
      fs.filter fun f => ¬ Taken f.1 f.2 := by
    rw [List.filter_filter, List.filter_filter]
    exact List.filter_congr fun f _ => (not_taken_eq_stays f).symm
  rw [ofFields_eq (take_eq_filter rfl hfs) (take_eq_filter rfl huntimed)
    (take_eq_filter rfl hundated), hcreated, hupdated, hattributes]

theorem mem_map_written {α : Type} (write : α → Json) (other : String) (x : Option α)
    {name : String} : name ∈ (written write other x).map Prod.fst ↔ name = other ∧ x.isSome := by
  cases x <;> simp

theorem mem_map_toFields {d : Document} {name : String} :
    name ∈ d.toFields.map Prod.fst ↔ name = "id" ∧ d.id.isSome ∨
      name = "created_at" ∧ d.createdAt.isSome ∨ name = "updated_at" ∧ d.updatedAt.isSome ∨
      name ∈ d.attributes.map Prod.fst := by
  rw [toFields_eq]
  simp only [List.map_append, List.mem_append, mem_map_written]

section

variable {fs : Json.Fields}

theorem id_ofFields (hfs : (fs.map Prod.fst).Nodup) {s : String} :
    (ofFields fs).id = some s ↔ ∃ v, fs.get? "id" = some v ∧ Identifies v s := by
  simp only [ofFields_eq_filter hfs, Option.bind_eq_some_iff, readId_eq_some_iff]

theorem createdAt_ofFields (hfs : (fs.map Prod.fst).Nodup) {t : Instant} :
    (ofFields fs).createdAt = some t ↔ ∃ v, fs.get? "created_at" = some v ∧ Dates v t := by
  simp only [ofFields_eq_filter hfs, Option.bind_eq_some_iff, readInstant_eq_some_iff]

theorem updatedAt_ofFields (hfs : (fs.map Prod.fst).Nodup) {t : Instant} :
    (ofFields fs).updatedAt = some t ↔ ∃ v, fs.get? "updated_at" = some v ∧ Dates v t := by
  simp only [ofFields_eq_filter hfs, Option.bind_eq_some_iff, readInstant_eq_some_iff]

theorem mem_map_attributes_ofFields (hfs : (fs.map Prod.fst).Nodup) {name : String} :
    name ∈ (ofFields fs).attributes.map Prod.fst ↔ ∃ v, fs.get? name = some v ∧ ¬ Taken name v := by
  simp only [ofFields_eq_filter hfs, Json.Fields.get?_eq_some_iff_mem hfs, List.mem_map,
    List.mem_filter, decide_eq_true_eq]
  constructor
  · rintro ⟨⟨key, v⟩, hf, rfl⟩
    exact ⟨v, hf⟩
  · rintro ⟨v, hf⟩
    exact ⟨(name, v), hf, rfl⟩

theorem mem_map_toFields_ofFields (hfs : (fs.map Prod.fst).Nodup) (name : String) :
    name ∈ (ofFields fs).toFields.map Prod.fst ↔
      ∃ v, fs.get? name = some v ∧ ¬ (name ∈ ownNames ∧ v = .null) := by
  rw [mem_map_toFields, mem_map_attributes_ofFields hfs]
  simp only [Option.isSome_iff_exists, id_ofFields hfs, createdAt_ofFields hfs,
    updatedAt_ofFields hfs]
  constructor
  · rintro (⟨rfl, s, v, hget, hid⟩ | ⟨rfl, t, v, hget, htime⟩ | ⟨rfl, t, v, hget, htime⟩ |
      ⟨v, hget, hstays⟩)
    · exact ⟨v, hget, by rintro ⟨-, rfl⟩; cases hid⟩
    · exact ⟨v, hget, by rintro ⟨-, rfl⟩; cases htime⟩
    · exact ⟨v, hget, by rintro ⟨-, rfl⟩; cases htime⟩
    · exact ⟨v, hget, by rintro ⟨hname, rfl⟩; exact hstays (.null hname)⟩
  · rintro ⟨v, hget, hnull⟩
    by_cases htaken : Taken name v
    · cases htaken with
      | null hname => exact absurd ⟨hname, rfl⟩ hnull
      | id hid => exact Or.inl ⟨rfl, _, v, hget, hid⟩
      | createdAt htime => exact Or.inr (Or.inl ⟨rfl, _, v, hget, htime⟩)
      | updatedAt htime => exact Or.inr (Or.inr (Or.inl ⟨rfl, _, v, hget, htime⟩))
    · exact Or.inr (Or.inr (Or.inr ⟨v, hget, htaken⟩))

/-- Reading an object as a document gives each of its fields to one side: what can be read of the
three names with a meaning, or the attributes. -/
theorem decode_partition (hfs : (fs.map Prod.fst).Nodup) :
    ∃ d gs, decode (.obj fs) = .ok d ∧ d.toJson = .obj gs ∧
      (∀ s, d.id = some s ↔ ∃ v, fs.get? "id" = some v ∧ Identifies v s) ∧
      (∀ t, d.createdAt = some t ↔ ∃ v, fs.get? "created_at" = some v ∧ Dates v t) ∧
      (∀ t, d.updatedAt = some t ↔ ∃ v, fs.get? "updated_at" = some v ∧ Dates v t) ∧
      d.attributes = fs.filter (fun f => ¬ Taken f.1 f.2) ∧
      (gs.map Prod.fst).Nodup ∧
      ∀ name, name ∈ gs.map Prod.fst ↔
        ∃ v, fs.get? name = some v ∧ ¬ (name ∈ ownNames ∧ v = .null) := by
  refine ⟨ofFields fs, _, rfl, rfl, fun s => id_ofFields hfs, fun t => createdAt_ofFields hfs,
    fun t => updatedAt_ofFields hfs, ?_, nodup_toFields hfs, mem_map_toFields_ofFields hfs⟩
  rw [ofFields_eq_filter hfs]

end

theorem decode_partition_unreadable :
    ∃ d gs, decode (.obj [("title", .str "Jaws"), ("updated_at", .int 1433160000),
        ("id", .obj [("$oid", .str "abc")]), ("created_at", .null)]) = .ok d ∧
      d.toJson = .obj gs ∧ d.id = none ∧ d.updatedAt = some ⟨1433160000, 0⟩ ∧
      d.attributes = [("title", .str "Jaws"), ("id", .obj [("$oid", .str "abc")])] ∧
      "updated_at" ∈ gs.map Prod.fst ∧ "created_at" ∉ gs.map Prod.fst := by
  let fs : Json.Fields := [("title", .str "Jaws"), ("updated_at", .int 1433160000),
    ("id", .obj [("$oid", .str "abc")]), ("created_at", .null)]
  obtain ⟨d, gs, hd, hgs, hid, -, hupdated, hattributes, -, hnames⟩ :=
    decode_partition (by decide : (fs.map Prod.fst).Nodup)
  refine ⟨d, gs, hd, hgs, ?_, (hupdated _).2 ⟨_, rfl, .seconds (by decide +kernel)⟩, ?_, ?_, ?_⟩
  · rw [Option.eq_none_iff_forall_ne_some]
    intro s hs
    obtain ⟨v, hv, h⟩ := (hid s).1 hs
    cases hv
    cases h
  · rw [hattributes]
    rfl
  · refine (hnames _).2 ⟨_, rfl, ?_⟩
    rintro ⟨-, hnull⟩
    cases hnull
  · rintro hmem
    obtain ⟨v, hv, hnull⟩ := (hnames _).1 hmem
    cases hv
    exact hnull ⟨by decide, rfl⟩

end Document

end DocumentClient
