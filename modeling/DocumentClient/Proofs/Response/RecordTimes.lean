import DocumentClient.Proofs.Response.Items

namespace DocumentClient.Response

open Document (outcome readInstant TimeFrom timeFrom_iff)

section

variable {fs : Json.Fields} {inside own : String}

/-- The value that a time is read from: the one in `_meta` if there is a `_meta`, whether or not
that has one. -/
def takenTime (fs : Json.Fields) (inside own : String) : Option Json :=
  match metaFields? fs with
  | some info => info.get? inside
  | none => fs.get? own

/-- The value that `_meta` has for a time, and failing that the record's own. -/
def offeredTime (fs : Json.Fields) (inside own : String) : Option Json :=
  (((metaFields? fs).bind (·.get? inside)).filter fun v => !v.isNull).or (fs.get? own)

theorem takenTime_of_meta {info : Json.Fields} (h : metaFields? fs = some info)
    (inside own : String) : takenTime fs inside own = info.get? inside := by
  rw [takenTime, h]

theorem takenTime_of_no_meta (h : metaFields? fs = none) (inside own : String) :
    takenTime fs inside own = fs.get? own := by
  rw [takenTime, h]

theorem offeredTime_of_no_meta (h : metaFields? fs = none) (inside own : String) :
    offeredTime fs inside own = fs.get? own := by
  rw [offeredTime, h]
  rfl

theorem offeredTime_of_held {info : Json.Fields} {v : Json} (h : metaFields? fs = some info)
    (hv : info.get? inside = some v) (hnull : v ≠ .null) (own : String) :
    offeredTime fs inside own = some v := by
  rw [offeredTime, h, Option.bind_some, hv, Option.filter_some, Json.isNull_eq_false hnull]
  rfl

theorem offeredTime_of_not_held {info : Json.Fields} (h : metaFields? fs = some info)
    (hnull : ∀ v, info.get? inside = some v → v = .null) (own : String) :
    offeredTime fs inside own = fs.get? own := by
  rw [offeredTime, h, Option.bind_some]
  cases hv : info.get? inside with
  | none => rfl
  | some v =>
    obtain rfl := hnull v hv
    rfl

theorem outcome_offeredTime_iff :
    outcome readInstant (takenTime fs inside own) = outcome readInstant (offeredTime fs inside own) ↔
      ¬ LosesTime fs inside own := by
  cases hmeta : metaFields? fs with
  | none =>
    rw [takenTime_of_no_meta hmeta, offeredTime_of_no_meta hmeta]
    exact iff_of_true rfl fun ⟨info, hinfo, _⟩ => by simp [hmeta] at hinfo
  | some info =>
    rw [takenTime_of_meta hmeta]
    by_cases hnull : ∀ v, info.get? inside = some v → v = .null
    · -- `_meta` has no such time, so nothing comes of it and all depends on the record's own.
      rw [offeredTime_of_not_held hmeta hnull, Document.outcome_eq_none_iff.2 hnull, eq_comm,
        Document.outcome_eq_none_iff]
      constructor
      · rintro hown ⟨-, -, -, v, hv, hheld⟩
        exact hheld (hown v hv)
      · intro hkept v hv
        by_contra hheld
        exact hkept ⟨info, hmeta, hnull, v, hv, hheld⟩
    · obtain ⟨v, hv, hheld⟩ : ∃ v, info.get? inside = some v ∧ v ≠ .null := by simpa using hnull
      rw [offeredTime_of_held hmeta hv hheld, hv]
      refine iff_of_true rfl fun ⟨info', hinfo, hnone, _⟩ => ?_
      obtain rfl := Option.some.inj (hmeta.symm.trans hinfo)
      exact hheld (hnone v hv)

theorem nodup_remapTimes (h : (fs.map Prod.fst).Nodup) : ((remapTimes fs).map Prod.fst).Nodup := by
  rcases remapTimes_cases fs with ⟨-, hremap⟩ | ⟨info, -, hremap⟩
  · rwa [hremap]
  · rw [hremap]
    exact Document.nodup_putTimes h _ _

theorem outcome_remapTimes (fs : Json.Fields) :
    outcome readInstant (Json.Fields.get? (remapTimes fs) "created_at") =
        outcome readInstant (takenTime fs "created" "created_at") ∧
      outcome readInstant (Json.Fields.get? (remapTimes fs) "updated_at") =
        outcome readInstant (takenTime fs "modified" "updated_at") := by
  rcases remapTimes_cases fs with ⟨hmeta, hremap⟩ | ⟨info, hmeta, hremap⟩
  · rw [hremap, takenTime_of_no_meta hmeta, takenTime_of_no_meta hmeta]
    exact ⟨rfl, rfl⟩
  · rw [hremap, takenTime_of_meta hmeta, takenTime_of_meta hmeta,
      Document.get?_putTimes_created_at, Document.get?_putTimes_updated_at, outcome_getD_null,
      outcome_getD_null]
    exact ⟨rfl, rfl⟩

theorem timeFrom_offeredTime_iff {time : Option Instant} {left : Option Json}
    (h : TimeFrom (takenTime fs inside own) time left) :
    TimeFrom (offeredTime fs inside own) time left ↔ ¬ LosesTime fs inside own := by
  rw [timeFrom_iff, timeFrom_iff.1 h, outcome_offeredTime_iff]

theorem timeFrom_ofFields (h : (fs.map Prod.fst).Nodup) :
    let d := Document.ofFields (remapTimes fs)
    TimeFrom (takenTime fs "created" "created_at") d.createdAt (d.get? "created_at") ∧
      TimeFrom (takenTime fs "modified" "updated_at") d.updatedAt (d.get? "updated_at") := by
  obtain ⟨hcreated, hupdated⟩ := Document.found_ofFields (nodup_remapTimes h)
  obtain ⟨hcreated', hupdated'⟩ := outcome_remapTimes fs
  exact ⟨timeFrom_iff.2 (hcreated.trans hcreated'), timeFrom_iff.2 (hupdated.trans hupdated')⟩

theorem IsRecord.new_document (h : IsRecord fs) (status : Nat) :
    ∃ resp, new status (.obj fs) "document" = .ok resp ∧
      resp.members = .resource (.document (Document.ofFields (remapTimes fs))) := by
  apply h.new_of_build
  rw [Registry.build_standard_of_not_timeless (by decide)]
  rfl

end

/-- A record becomes a document whose times are those of `_meta` if there is one and the record's
own if there is none.  They are what the record offers unless it loses one to a `_meta` without. -/
theorem new_document_times {status : Nat} {fs : Json.Fields} (hs : 200 ≤ status ∧ status ≤ 299)
    (h : IsRecord fs) :
    ∃ resp d, new status (.obj fs) "document" = .ok resp ∧
      resp.isSuccess = true ∧ resp.members = .resource (.document d) ∧
      TimeFrom (takenTime fs "created" "created_at") d.createdAt (d.get? "created_at") ∧
      TimeFrom (takenTime fs "modified" "updated_at") d.updatedAt (d.get? "updated_at") ∧
      (TimeFrom (offeredTime fs "created" "created_at") d.createdAt (d.get? "created_at") ↔
        ¬ LosesTime fs "created" "created_at") ∧
      (TimeFrom (offeredTime fs "modified" "updated_at") d.updatedAt (d.get? "updated_at") ↔
        ¬ LosesTime fs "modified" "updated_at") := by
  obtain ⟨resp, hresp, hmembers⟩ := h.new_document status
  obtain ⟨hstatus, -, hbody, -⟩ := eq_of_withRegistry_ok hresp
  have hsuccess : resp.isSuccess = true := by
    have herrors : hasErrors (.obj fs) = false := h.no_errors
    rw [isSuccess, hstatus, hbody, h.normalize_eq, herrors, statusSuccess_iff.2 hs]
    rfl
  obtain ⟨hcreated, hupdated⟩ := timeFrom_ofFields h.nodup
  exact ⟨resp, _, hresp, hsuccess, hmembers, hcreated, hupdated,
    timeFrom_offeredTime_iff hcreated, timeFrom_offeredTime_iff hupdated⟩

theorem new_document_times_unreadable :
    let fs : Json.Fields := [("created_at", .int 0), ("updated_at", .int 5),
      ("_meta", .obj [("created", .str "yesterday")])]
    IsRecord fs ∧ LosesTime fs "modified" "updated_at" ∧
      ∃ resp d, new 299 (.obj fs) "document" = .ok resp ∧
        resp.members = .resource (.document d) ∧
        d.createdAt = none ∧ d.get? "created_at" = some (.str "yesterday") ∧
        d.updatedAt = none ∧ d.get? "updated_at" = none := by
  intro fs
  have hrecord : IsRecord fs := ⟨by decide, by decide, by simp [fs, Json.Fields.get?, Keyed.find?]⟩
  have hloses : LosesTime fs "modified" "updated_at" :=
    ⟨[("created", .str "yesterday")], rfl, by simp [Json.Fields.get?, Keyed.find?], .int 5, rfl,
      by simp [Json.int]⟩
  obtain ⟨resp, d, hresp, -, hmembers, hcreated, hupdated, -⟩ :=
    new_document_times (by decide : 200 ≤ 299 ∧ 299 ≤ 299) hrecord
  have hnone : readInstant (.str "yesterday") = none := by decide +kernel
  have htime : d.createdAt = none := hcreated.time_eq.trans hnone
  exact ⟨hrecord, hloses, resp, d, hresp, hmembers, htime, hcreated.left_eq htime,
    hupdated.time_eq, hupdated.left_eq hupdated.time_eq⟩

theorem not_forall_new_document_times :
    ¬ ∀ (status : Nat) (fs : Json.Fields), 200 ≤ status ∧ status ≤ 299 → IsRecord fs →
      ∃ resp d, new status (.obj fs) "document" = .ok resp ∧
        resp.members = .resource (.document d) ∧
        TimeFrom (offeredTime fs "created" "created_at") d.createdAt (d.get? "created_at") ∧
        TimeFrom (offeredTime fs "modified" "updated_at") d.updatedAt (d.get? "updated_at") := by
  intro hall
  let fs : Json.Fields := [("created_at", .str "2015-06-01T12:00:00Z"), ("_meta", .obj [])]
  have hrecord : IsRecord fs := ⟨by decide, by decide, by simp [fs, Json.Fields.get?, Keyed.find?]⟩
  obtain ⟨resp, d, hresp, hmembers, hcreated, -⟩ := hall 200 fs (by decide) hrecord
  cases hresp
  cases hmembers
  have hread : readInstant (.str "2015-06-01T12:00:00Z") = some ⟨1433160000, 0⟩ := by
    decide +kernel
  have hnone : (Document.ofFields (remapTimes fs)).createdAt = none := by decide +kernel
  have htime : (Document.ofFields (remapTimes fs)).createdAt = some ⟨1433160000, 0⟩ :=
    hcreated.time_eq.trans hread
  rw [hnone] at htime
  cases htime

end DocumentClient.Response
