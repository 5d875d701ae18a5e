import DocumentClient.Proofs.Document.Times
import DocumentClient.Proofs.Response.Envelope
import DocumentClient.Proofs.Response.Routing

/-!
Records in a list and each on its own.  Only on its own does a record take its times from `_meta`,
so what is decoded differs in the times at most.
-/

namespace DocumentClient

open Document (outcome outcome_of_read readInstant putTimes)

theorem Token.decode_put {name : String} (h : name ≠ "token") (fs : Json.Fields) (v : Json) :
    decode (.obj (fs.put name v)) = decode (.obj fs) := by
  unfold decode
  dsimp only
  rw [Json.Decoder.fields_put_of_passed fun x w => if_neg h]

theorem Schema.Draft.step_of_ne {name : String} (hname : name ≠ "name") (hfields : name ≠ "fields")
    (d : Draft) (v : Json) : d.step name v = .ok d := by
  unfold step
  split
  · exact absurd rfl hname
  · exact absurd rfl hfields
  · rfl

theorem Schema.decode_put {name : String} (hname : name ≠ "name") (hfields : name ≠ "fields")
    (fs : Json.Fields) (v : Json) : decode (.obj (fs.put name v)) = decode (.obj fs) := by
  unfold decode
  dsimp only
  rw [Json.Decoder.fields_put_of_passed fun d w => Draft.step_of_ne hname hfields d w]

theorem ApiErrors.decode_put {name : String} (h : name ≠ "errors") (fs : Json.Fields) (v : Json) :
    decode (.obj (fs.put name v)) = decode (.obj fs) := by
  unfold decode
  dsimp only
  rw [Json.Fields.get?_put_of_ne (Ne.symm h)]

namespace Registry

def timeless : List String := ["token", "schema", errorLabel]

theorem build_standard_putTimes {label : String} (h : label ∈ timeless) (fs : Json.Fields)
    (created updated : Json) :
    standard.build label (.obj (putTimes fs created updated)) =
      standard.build label (.obj fs) := by
  simp only [timeless, List.mem_cons, List.not_mem_nil, or_false] at h
  rcases h with rfl | rfl | rfl
  · have hfind : standard.find "token" = decodeToken := by simp [standard, errorLabel]
    rw [build, build, hfind]
    unfold decodeToken
    rw [putTimes, Token.decode_put (by decide), Token.decode_put (by decide)]
  · have hfind : standard.find "schema" = decodeSchema := by simp [standard, errorLabel]
    rw [build, build, hfind]
    unfold decodeSchema
    rw [putTimes, Schema.decode_put (by decide) (by decide),
      Schema.decode_put (by decide) (by decide)]
  · have hfind : standard.find errorLabel = decodeError := by simp [standard]
    rw [build, build, hfind]
    unfold decodeError
    rw [putTimes, ApiErrors.decode_put (by decide), ApiErrors.decode_put (by decide)]

theorem build_standard_of_not_timeless {label : String} (h : label ∉ timeless) (v : Json) :
    standard.build label v = decodeDocument v := by
  simp only [timeless, List.mem_cons, List.not_mem_nil, or_false, not_or] at h
  obtain ⟨htoken, hschema, herror⟩ := h
  rw [build, standard]
  simp only [find_register, find_empty]
  rw [if_neg (Ne.symm herror), if_neg (Ne.symm hschema), if_neg (Ne.symm htoken), ite_self]

end Registry

def Resource.SameButTimes : Resource → Resource → Prop
  | .document d, .document e => d.SameButTimes e
  | x, y => x = y

theorem Resource.SameButTimes.refl (x : Resource) : x.SameButTimes x := by
  cases x with
  | document d => exact ⟨rfl, fun _ _ _ => rfl⟩
  | token | schema | error => rfl

namespace Response

def metaFields? (fs : Json.Fields) : Option Json.Fields := (fs.get? "_meta").bind Json.asFields?

/-- The times of `_meta`, if there is one, come to what the record's own come to. -/
def TimesAgree (fs : Json.Fields) : Prop :=
  ∀ info, metaFields? fs = some info →
    outcome readInstant (info.get? "created") = outcome readInstant (fs.get? "created_at") ∧
      outcome readInstant (info.get? "modified") = outcome readInstant (fs.get? "updated_at")

/-- The record has a time of its own, and a `_meta` that has none in its place. -/
def LosesTime (fs : Json.Fields) (inside own : String) : Prop :=
  ∃ info, metaFields? fs = some info ∧ (∀ v, info.get? inside = some v → v = .null) ∧
    ∃ v, fs.get? own = some v ∧ v ≠ .null

def KeepsTimes (fs : Json.Fields) : Prop :=
  ¬ LosesTime fs "created" "created_at" ∧ ¬ LosesTime fs "modified" "updated_at"

theorem remapTimes_cases (fs : Json.Fields) :
    metaFields? fs = none ∧ remapTimes fs = fs ∨
      ∃ info, metaFields? fs = some info ∧
        remapTimes fs = putTimes fs ((info.get? "created").getD .null)
          ((info.get? "modified").getD .null) := by
  unfold remapTimes metaFields?
  cases h : (fs.get? "_meta").bind Json.asFields? with
  | none => exact Or.inl ⟨rfl, rfl⟩
  | some info => exact Or.inr ⟨info, rfl, rfl⟩

theorem outcome_getD_null (v? : Option Json) :
    outcome readInstant (some (v?.getD .null)) = outcome readInstant v? := by
  cases v? <;> rfl

theorem ofFields_remapTimes_iff {fs : Json.Fields} (hfs : (fs.map Prod.fst).Nodup) :
    Document.ofFields fs = Document.ofFields (remapTimes fs) ↔ TimesAgree fs := by
  unfold TimesAgree
  rcases remapTimes_cases fs with ⟨hinfo, hremap⟩ | ⟨info, hinfo, hremap⟩
  · simp [hinfo, hremap]
  · rw [hinfo, hremap, eq_comm, Document.ofFields_putTimes_iff hfs, outcome_getD_null,
      outcome_getD_null]
    simp

theorem sameButTimes_remapTimes (fs : Json.Fields) :
    (Document.ofFields fs).SameButTimes (Document.ofFields (remapTimes fs)) := by
  rcases remapTimes_cases fs with ⟨-, hremap⟩ | ⟨info, -, hremap⟩
  · rw [hremap]
    exact ⟨rfl, fun _ _ _ => rfl⟩
  · rw [hremap]
    exact Document.sameButTimes_putTimes fs _ _

theorem build_remapTimes {label : String} (h : label ∈ Registry.timeless) (fs : Json.Fields) :
    Registry.standard.build label (.obj (remapTimes fs)) =
      Registry.standard.build label (.obj fs) := by
  rcases remapTimes_cases fs with ⟨-, hremap⟩ | ⟨info, -, hremap⟩
  · rw [hremap]
  · rw [hremap, Registry.build_standard_putTimes h]

section

variable {label : String} {fs : Json.Fields} {x : Resource}

theorem exists_build_remapTimes (hfs : (fs.map Prod.fst).Nodup)
    (hx : Registry.standard.build label (.obj fs) = .ok x) :
    ∃ y, Registry.standard.build label (.obj (remapTimes fs)) = .ok y ∧ x.SameButTimes y ∧
      (x = y ↔ label ∈ Registry.timeless ∨ TimesAgree fs) := by
  by_cases hlabel : label ∈ Registry.timeless
  · rw [build_remapTimes hlabel]
    exact ⟨x, hx, .refl x, by simp [hlabel]⟩
  · rw [Registry.build_standard_of_not_timeless hlabel] at hx ⊢
    cases hx
    refine ⟨_, rfl, sameButTimes_remapTimes fs, ?_⟩
    rw [Resource.document.injEq, ofFields_remapTimes_iff hfs]
    simp [hlabel]

theorem exists_build_iff :
    (∃ x, Registry.standard.build label (.obj fs) = .ok x) ↔
      ∃ y, Registry.standard.build label (.obj (remapTimes fs)) = .ok y := by
  by_cases hlabel : label ∈ Registry.timeless
  · rw [build_remapTimes hlabel]
  · rw [Registry.build_standard_of_not_timeless hlabel,
      Registry.build_standard_of_not_timeless hlabel]
    exact iff_of_true ⟨_, rfl⟩ ⟨_, rfl⟩

end

structure IsRecord (fs : Json.Fields) : Prop where
  nodup : (fs.map Prod.fst).Nodup
  no_errors : fs.has "errors" = false
  no_data : ∀ d, fs.get? "data" = some d → d = .null

section

variable {label : String} {status : Nat} {fs : Json.Fields} {items : List Json.Fields}

theorem IsRecord.normalize_eq (h : IsRecord fs) : normalize (.obj fs) = .obj fs :=
  normalize_of_not_encloses fun d hd => hd.2 (h.no_data d hd.1)

theorem IsRecord.resolveMember_eq (h : IsRecord fs) (label : String) :
    resolveMember .standard label (normalize (.obj fs)) =
      (Registry.standard.build label (.obj (remapTimes fs))).map .resource := by
  rw [h.normalize_eq, resolveMember]
  rw [has_remapTimes, h.no_errors]
  rfl

theorem resolveMember_records (h : ∀ fs ∈ items, IsRecord fs) (label : String) :
    resolveMember .standard label (normalize (.arr (items.map .obj))) =
      (Registry.standard.buildCollection label (items.map .obj)).map .collection := by
  refine resolveMember_list (fun v hv => ?_) .standard label
  obtain ⟨fs, hfs, rfl⟩ := List.mem_map.1 hv
  exact (h fs hfs).no_errors

theorem exists_new_iff (hs : 200 ≤ status ∧ status ≤ 299) {body : Json} :
    (∃ resp, new status body label = .ok resp) ↔
      ∃ m, resolveMember .standard label (normalize body) = .ok m := by
  cases hm : resolveMember .standard label (normalize body) with
  | ok m => exact iff_of_true ⟨_, withRegistry_of_ok hm⟩ ⟨m, rfl⟩
  | error e =>
    rw [new, withRegistry_of_success_error (statusSuccess_iff.2 hs) hm]
    simp

theorem exists_new_record_iff (hs : 200 ≤ status ∧ status ≤ 299) (h : IsRecord fs) :
    (∃ resp, new status (.obj fs) label = .ok resp) ↔
      ∃ x, Registry.standard.build label (.obj fs) = .ok x := by
  rw [exists_new_iff hs, h.resolveMember_eq, exists_map_ok_iff]
  exact exists_build_iff.symm

theorem exists_new_records_iff (hs : 200 ≤ status ∧ status ≤ 299)
    (h : ∀ fs ∈ items, IsRecord fs) :
    (∃ resp, new status (.arr (items.map .obj)) label = .ok resp) ↔
      ∀ fs ∈ items, ∃ x, Registry.standard.build label (.obj fs) = .ok x := by
  rw [exists_new_iff hs, resolveMember_records h, exists_map_ok_iff, Registry.buildCollection,
    exists_map_ok_iff, exists_mapM_ok_iff, List.forall_mem_map]

theorem IsRecord.new_of_build (h : IsRecord fs) {y : Resource}
    (hy : Registry.standard.build label (.obj (remapTimes fs)) = .ok y) (status : Nat) :
    ∃ resp, new status (.obj fs) label = .ok resp ∧ resp.members = .resource y := by
  have hmember : resolveMember .standard label (normalize (.obj fs)) = .ok (.resource y) := by
    rw [h.resolveMember_eq, hy]
    rfl
  exact ⟨_, withRegistry_of_ok hmember, rfl⟩

theorem IsRecord.exists_alone (h : IsRecord fs) (status : Nat) {x : Resource}
    (hx : Registry.standard.build label (.obj fs) = .ok x) :
    ∃ alone y, new status (.obj fs) label = .ok alone ∧ alone.members = .resource y ∧
      x.SameButTimes y ∧ (label ∈ Registry.timeless → x = y) ∧
      (KeepsTimes fs → (x = y ↔ label ∈ Registry.timeless ∨ TimesAgree fs)) := by
  obtain ⟨y, hy, hsame, hiff⟩ := exists_build_remapTimes h.nodup hx
  obtain ⟨alone, halone, hmembers⟩ := h.new_of_build hy status
  exact ⟨alone, y, halone, hmembers, hsame, fun hlabel => hiff.2 (Or.inl hlabel), fun _ => hiff⟩

/-- Records are decoded in a list just if each is on its own, and then an item is what the record
is on its own, but for its times: a list leaves `_meta` alone. -/
theorem new_records (hs : 200 ≤ status ∧ status ≤ 299) (h : ∀ fs ∈ items, IsRecord fs) :
    ((∃ resp, new status (.arr (items.map .obj)) label = .ok resp) ↔
      ∀ fs ∈ items, ∃ resp, new status (.obj fs) label = .ok resp) ∧
    ∀ resp, new status (.arr (items.map .obj)) label = .ok resp →
      ∃ c, resp.members = .collection c ∧
        List.Forall₂ (fun fs x => ∃ alone y, new status (.obj fs) label = .ok alone ∧
          alone.members = .resource y ∧ x.SameButTimes y ∧
          (label ∈ Registry.timeless → x = y) ∧
          (KeepsTimes fs → (x = y ↔ label ∈ Registry.timeless ∨ TimesAgree fs)))
          items c.items := by
  constructor
  · rw [exists_new_records_iff hs h]
    exact forall₂_congr fun fs hfs => (exists_new_record_iff hs (h fs hfs)).symm
  · intro resp hresp
    obtain ⟨m, hm⟩ := (exists_new_iff hs).1 ⟨resp, hresp⟩
    obtain ⟨-, -, -, hmembers⟩ := eq_of_withRegistry_ok hresp
    have hbuilt := hm
    rw [resolveMember_records h] at hbuilt
    obtain ⟨c, hc, rfl⟩ := map_eq_ok_iff.1 hbuilt
    obtain ⟨-, hitems⟩ := Registry.buildCollection_eq_ok_iff.1 hc
    refine ⟨c, hmembers _ hm, ?_⟩
    have hrecords := (List.forall₂_and_left _ _).2 ⟨h, List.forall₂_map_left_iff.1 hitems⟩
    exact hrecords.imp fun fs x ⟨hfs, hx⟩ => hfs.exists_alone status hx

end

theorem new_records_epoch :
    let fs : Json.Fields := [("id", .int 7), ("created_at", .str "2015-06-01T12:00:00Z"),
      ("_meta", .obj [("created", .int 1433160000), ("modified", .null)])]
    ∃ resp c x alone, new 201 (.arr [.obj fs]) "movies" = .ok resp ∧
      resp.members = .collection c ∧ c.items = [x] ∧
      new 201 (.obj fs) "movies" = .ok alone ∧ alone.members = .resource x := by
  intro fs
  have hrecord : IsRecord fs := ⟨by decide, by decide, by simp [fs, Json.Fields.get?, Keyed.find?]⟩
  have hagree : TimesAgree fs := by
    have hcreated : outcome readInstant (some (.int 1433160000)) = some (.inl ⟨1433160000, 0⟩) :=
      outcome_of_read (by simp [Json.int]) (by decide +kernel)
    have hown : outcome readInstant (some (.str "2015-06-01T12:00:00Z")) =
        some (.inl ⟨1433160000, 0⟩) := outcome_of_read (by simp) (by decide +kernel)
    rintro info ⟨⟩
    exact ⟨hcreated.trans hown.symm, rfl⟩
  have hkeeps : KeepsTimes fs := by
    constructor
    · rintro ⟨info, ⟨⟩, hnone, -⟩
      cases hnone (.int 1433160000) rfl
    · rintro ⟨-, -, -, v, hv, -⟩
      cases hv
  obtain ⟨resp, hresp⟩ : ∃ resp, new 201 (.arr [.obj fs]) "movies" = .ok resp := ⟨_, rfl⟩
  have hrecords : ∀ gs ∈ [fs], IsRecord gs := by simpa using hrecord
  obtain ⟨c, hmembers, hitems⟩ :=
    (new_records (by decide : 200 ≤ 201 ∧ 201 ≤ 299) hrecords).2 resp hresp
  obtain ⟨x, xs, ⟨alone, y, halone, hy, -, -, hiff⟩, hxs, hc⟩ :=
    List.forall₂_cons_left_iff.1 hitems
  rw [List.forall₂_nil_left_iff.1 hxs] at hc
  exact ⟨resp, c, x, alone, hresp, hmembers, hc, halone, (hiff hkeeps).2 (Or.inr hagree) ▸ hy⟩

theorem not_forall_new_records :
    ¬ ∀ (status : Nat) (label : String) (items : List Json.Fields) (resp : Response),
      200 ≤ status ∧ status ≤ 299 → (∀ fs ∈ items, IsRecord fs) →
      new status (.arr (items.map .obj)) label = .ok resp →
      ∃ c, resp.members = .collection c ∧
        List.Forall₂ (fun fs x => ∃ alone, new status (.obj fs) label = .ok alone ∧
          alone.members = .resource x) items c.items := by
  intro h
  let fs : Json.Fields := [("_meta", .obj [("created", .str "2015-06-01T12:00:00Z")])]
  have hrecord : IsRecord fs := ⟨by decide, by decide, by simp [fs, Json.Fields.get?, Keyed.find?]⟩
  obtain ⟨c, hmembers, hitems⟩ :=
    h 200 "document" [fs] _ (by decide) (by simpa using hrecord) rfl
  cases hmembers
  obtain ⟨x, xs, ⟨alone, halone, hx⟩, -, hc⟩ := List.forall₂_cons_left_iff.1 hitems
  obtain ⟨rfl, -⟩ := List.cons.inj hc
  cases halone
  have htime : (Document.ofFields (remapTimes fs)).createdAt = some ⟨1433160000, 0⟩ := by
    decide +kernel
  have hnone : (Document.ofFields fs).createdAt = none := by decide +kernel
  have hdocument : Document.ofFields (remapTimes fs) = Document.ofFields fs :=
    Resource.document.inj (Member.resource.inj hx)
  rw [hdocument, hnone] at htime
  cases htime

end Response

end DocumentClient
