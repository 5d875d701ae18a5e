import DocumentClient.Proofs.Response.Construction

namespace DocumentClient

theorem Registry.size_of_buildCollection {r : Registry} {label : String} {items : List Json}
    {c : Collection} (h : r.buildCollection label items = .ok c) : c.size = items.length :=
  (buildCollection_eq_ok_iff.1 h).2.length_eq.symm

namespace Response

def names (label : String) : List String := [label, label ++ "s"]

section

variable {resp : Response} {name : String}

theorem respondsTo_iff : resp.respondsTo name = true ↔ name ∈ names resp.name := by
  rw [respondsTo, Bool.or_eq_true, decide_eq_true_iff, decide_eq_true_iff, Registry.pluralize]
  simp [names]

theorem member_of_mem (h : name ∈ names resp.name) : resp.member name = .ok resp.members :=
  if_pos (respondsTo_iff.2 h)

theorem member_of_not_mem (h : name ∉ names resp.name) :
    resp.member name = .error (.undefinedMember name) :=
  if_neg fun hname => h (respondsTo_iff.1 hname)

theorem exists_member_iff : (∃ m, resp.member name = .ok m) ↔ name ∈ names resp.name := by
  by_cases h : name ∈ names resp.name
  · simp [member_of_mem h, h]
  · simp [member_of_not_mem h, h]

theorem access_of_resource {x : Resource} (hx : resp.members = .resource x)
    (h : name ∈ names resp.name) :
    resp.resource name = .ok x ∧ resp.collection name = .error (.undefinedMember name) := by
  rw [resource, collection, member_of_mem h, hx]
  exact ⟨rfl, rfl⟩

theorem access_of_collection {c : Collection} (hc : resp.members = .collection c)
    (h : name ∈ names resp.name) :
    resp.collection name = .ok c ∧ resp.resource name = .error (.undefinedMember name) := by
  rw [resource, collection, member_of_mem h, hc]
  exact ⟨rfl, rfl⟩

theorem access_of_not_mem (h : name ∉ names resp.name) :
    resp.resource name = .error (.undefinedMember name) ∧
      resp.collection name = .error (.undefinedMember name) := by
  rw [resource, collection, member_of_not_mem h]
  exact ⟨rfl, rfl⟩

theorem collection_name_eq_ok_iff {c : Collection} :
    resp.collection resp.name = .ok c ↔ resp.members = .collection c := by
  have hname : resp.name ∈ names resp.name := by simp [names]
  cases hm : resp.members with
  | resource x => simp [(access_of_resource hm hname).2]
  | collection d => simp [(access_of_collection hm hname).1]

end

section

variable {r : Registry} {status : Nat} {body : Json} {label : String} {resp : Response}

theorem shape_of_resolveMember {m : Member} (h : resolveMember r label body = .ok m) :
    (∃ items c, body = .arr items ∧ m = .collection c ∧ c.size = items.length) ∨
      ((∀ items, body ≠ .arr items) ∧ ∃ x, m = .resource x) := by
  cases body with
  | arr items =>
    obtain ⟨c, hc, rfl⟩ := map_eq_ok_iff.1 h
    exact Or.inl ⟨items, c, rfl, rfl, Registry.size_of_buildCollection hc⟩
  | obj fs =>
    obtain ⟨x, -, rfl⟩ := map_eq_ok_iff.1 h
    exact Or.inr ⟨by simp, x, rfl⟩
  | null | bool | num | str =>
    obtain ⟨x, -, rfl⟩ := map_eq_ok_iff.1 h
    exact Or.inr ⟨by simp, x, rfl⟩

theorem shape_of_withRegistry (h : withRegistry r status body label = .ok resp) :
    (∃ items c, normalize body = .arr items ∧ resp.members = .collection c ∧
        c.size = items.length) ∨
      ((∃ x, resp.members = .resource x) ∧
        (200 ≤ status ∧ status ≤ 299 → ∀ items, normalize body ≠ .arr items)) := by
  cases hm : resolveMember r label (normalize body) with
  | ok m =>
    rw [withRegistry_of_ok hm] at h
    cases h
    rcases shape_of_resolveMember hm with hlist | ⟨hbody, hx⟩
    · exact Or.inl hlist
    · exact Or.inr ⟨hx, fun _ => hbody⟩
  | error e =>
    by_cases hs : statusSuccess status = true
    · rw [withRegistry_of_success_error hs hm] at h
      cases h
    · -- The body is kept as an error, which is one resource even if the body is a list.
      rw [withRegistry_of_failure_error hs hm] at h
      cases h
      exact Or.inr ⟨⟨_, rfl⟩, fun hstatus => absurd (statusSuccess_iff.2 hstatus) hs⟩

/-- The payload is there under two names and no others, as one resource or as a collection; it is a
collection just if the body is a list, unless a failure could not be read. -/
theorem withRegistry_access (h : withRegistry r status body label = .ok resp) :
    (∀ name, (∃ m, resp.member name = .ok m) ↔ name ∈ names label) ∧
    ((∃ x, resp.members = .resource x ∧ ∀ name ∈ names label,
        resp.member name = .ok resp.members ∧ resp.resource name = .ok x ∧
          resp.collection name = .error (.undefinedMember name)) ∨
      ∃ c, resp.members = .collection c ∧ ∀ name ∈ names label,
        resp.member name = .ok resp.members ∧ resp.collection name = .ok c ∧
          resp.resource name = .error (.undefinedMember name)) ∧
    (∀ name ∉ names label,
      resp.member name = .error (.undefinedMember name) ∧
        resp.resource name = .error (.undefinedMember name) ∧
        resp.collection name = .error (.undefinedMember name)) ∧
    (200 ≤ status ∧ status ≤ 299 →
      ((∃ c, resp.collection label = .ok c) ↔ ∃ items, normalize body = .arr items)) ∧
    ∀ c, resp.collection label = .ok c →
      ∃ items, normalize body = .arr items ∧ c.size = items.length := by
  obtain ⟨-, rfl, -, -⟩ := eq_of_withRegistry_ok h
  have hshape := shape_of_withRegistry h
  refine ⟨fun name => exists_member_iff, ?_, fun name hname => ?_, fun hs => ?_, fun c hc => ?_⟩
  · cases hm : resp.members with
    | resource x =>
      refine Or.inl ⟨x, rfl, fun name hname => ⟨?_, access_of_resource hm hname⟩⟩
      rw [member_of_mem hname, hm]
    | collection c =>
      refine Or.inr ⟨c, rfl, fun name hname => ⟨?_, access_of_collection hm hname⟩⟩
      rw [member_of_mem hname, hm]
  · exact ⟨member_of_not_mem hname, access_of_not_mem hname⟩
  · simp only [collection_name_eq_ok_iff]
    rcases hshape with ⟨items, c, hbody, hc, -⟩ | ⟨⟨x, hx⟩, hbody⟩
    · exact iff_of_true ⟨c, hc⟩ ⟨items, hbody⟩
    · exact iff_of_false (by simp [hx]) fun ⟨items, hitems⟩ => hbody hs items hitems
  · rw [collection_name_eq_ok_iff] at hc
    rcases hshape with ⟨items, d, hbody, hd, hsize⟩ | ⟨⟨x, hx⟩, -⟩
    · rw [hd] at hc
      cases hc
      exact ⟨items, hbody, hsize⟩
    · rw [hx] at hc
      cases hc

end

theorem withRegistry_access_news :
    (∃ resp c, withRegistry .standard 200 (.obj [("data", .arr [.obj [], .obj []])]) "news" =
        .ok resp ∧
      resp.collection "news" = .ok c ∧ resp.collection "newss" = .ok c ∧ c.size = 2 ∧
      resp.member "new" = .error (.undefinedMember "new")) ∧
    ∃ resp x, withRegistry .standard 500 (.arr [.str "down"]) "" = .ok resp ∧
      resp.resource "" = .ok x ∧ resp.resource "s" = .ok x ∧
      resp.collection "s" = .error (.undefinedMember "s") := by
  constructor
  · obtain ⟨resp, h⟩ : ∃ resp, withRegistry .standard 200
        (.obj [("data", .arr [.obj [], .obj []])]) "news" = .ok resp := ⟨_, rfl⟩
    obtain ⟨-, hone, hother, hsuccess, hsize⟩ := withRegistry_access h
    obtain ⟨c, hc⟩ := (hsuccess (by decide)).2 ⟨_, rfl⟩
    obtain ⟨items, hitems, hlength⟩ := hsize c hc
    cases hitems
    have hnew := hother "new" (by decide)
    rcases hone with ⟨x, -, hx⟩ | ⟨d, -, hd⟩
    · rw [(hx "news" (by decide)).2.2] at hc
      cases hc
    · have hnews := (hd "news" (by decide)).2.1
      have hplural := (hd "newss" (by decide)).2.1
      obtain rfl : c = d := Except.ok.inj (hc.symm.trans hnews)
      exact ⟨resp, c, h, hnews, hplural, hlength, hnew.1⟩
  · obtain ⟨resp, h⟩ : ∃ resp, withRegistry .standard 500 (.arr [.str "down"]) "" = .ok resp :=
      ⟨_, rfl⟩
    obtain ⟨-, hone, -⟩ := withRegistry_access h
    rcases hone with ⟨x, -, hx⟩ | ⟨c, hc, -⟩
    · exact ⟨resp, x, h, (hx "" (by decide)).2.1, (hx "s" (by decide)).2⟩
    · cases h
      cases hc

end Response

end DocumentClient
