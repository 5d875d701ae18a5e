import DocumentClient.Proofs.Json.Fields
import DocumentClient.Proofs.Response.Construction

namespace DocumentClient

namespace Registry

theorem isError_of_mem_built {label : String} {items : List Json} {xs : List Resource}
    (h : List.Forall₂ (fun v x => standard.build label v = .ok x) items xs) :
    ∀ x ∈ xs, x.isError = true ↔ label = errorLabel := by
  induction h with
  | nil => simp
  | cons hx _ ih =>
    intro y hy
    rcases List.mem_cons.1 hy with rfl | hy
    · exact isError_of_build_standard hx
    · exact ih y hy

theorem isError_of_buildCollection_standard {label : String} {items : List Json} {c : Collection}
    (h : standard.buildCollection label items = .ok c) :
    c.isError = true ↔ items ≠ [] ∧ label = errorLabel := by
  obtain ⟨-, hitems⟩ := buildCollection_eq_ok_iff.1 h
  have hmem := isError_of_mem_built hitems
  have hempty : items = [] ↔ c.items = [] := by
    rw [← List.length_eq_zero_iff, hitems.length_eq, List.length_eq_zero_iff]
  rw [ne_eq, hempty]
  cases hc : c.items with
  | nil => simp [Collection.isError, Collection.isEmpty, hc]
  | cons x xs =>
    rw [hc] at hmem
    by_cases hl : label = errorLabel
    · simp_all [Collection.isError, Collection.isEmpty]
    · simp_all [Collection.isError, Collection.isEmpty]

end Registry

namespace Response

theorem get?_remapTimes_of_ne {name : String} (hcreated : name ≠ "created_at")
    (hupdated : name ≠ "updated_at") (fs : Json.Fields) :
    Json.Fields.get? (remapTimes fs) name = fs.get? name := by
  rw [remapTimes]
  split
  · rfl
  · rw [Json.Fields.get?_put_of_ne hupdated, Json.Fields.get?_put_of_ne hcreated]

theorem has_remapTimes (fs : Json.Fields) :
    Json.Fields.has (remapTimes fs) "errors" = Json.Fields.has fs "errors" := by
  rw [Json.Fields.has, get?_remapTimes_of_ne (by decide) (by decide), Json.Fields.has]

def ItemErrors (body : Json) : Prop := ∃ items, body = .arr items ∧ ∃ v ∈ items, hasErrors v = true

theorem isError_of_resolveMember_standard {label : String} {body : Json} {m : Member}
    (h : resolveMember .standard label body = .ok m) :
    m.isError = true ↔
      (label = Registry.errorLabel ∧ body ≠ .arr []) ∨ hasErrors body = true ∨ ItemErrors body := by
  cases body with
  | arr items =>
    obtain ⟨c, hc, rfl⟩ := map_eq_ok_iff.1 h
    have herror : ItemErrors (.arr items) ↔ items.any hasErrors = true := by
      simp [ItemErrors]
    have hbody : hasErrors (.arr items) = false := rfl
    rw [Member.isError, Registry.isError_of_buildCollection_standard hc, herror, hbody]
    by_cases hany : items.any hasErrors = true
    · have hne : items ≠ [] := by
        rintro rfl
        cases hany
      simp [hany, hne]
    · simp [hany, and_comm]
  | obj fs =>
    have hbody : Json.Fields.has (remapTimes fs) "errors" = hasErrors (.obj fs) := has_remapTimes fs
    obtain ⟨x, hx, rfl⟩ := map_eq_ok_iff.1 h
    rw [Member.isError, Registry.isError_of_build_standard hx, hbody]
    by_cases herrors : hasErrors (.obj fs) = true
    · simp [herrors]
    · simp [herrors, ItemErrors]
  | null | bool | num | str =>
    obtain ⟨x, hx, rfl⟩ := map_eq_ok_iff.1 h
    rw [Member.isError, Registry.isError_of_build_standard hx]
    simp [ItemErrors, hasErrors, Json.hasField]

theorem resolveMember_of_isSuccess {r : Registry} {status : Nat} {body : Json} {name : String}
    {resp : Response} (h : withRegistry r status body name = .ok resp)
    (hs : resp.isSuccess = true) :
    hasErrors (normalize body) = false ∧
      resolveMember r name (normalize body) = .ok resp.members := by
  obtain ⟨hstatus, -, hbody, hmembers⟩ := eq_of_withRegistry_ok h
  rw [isSuccess, hstatus, hbody, Bool.and_eq_true, Bool.not_eq_true'] at hs
  refine ⟨hs.1, ?_⟩
  cases hm : resolveMember r name (normalize body) with
  | ok m => rw [hmembers m hm]
  | error e =>
    rw [withRegistry_of_success_error hs.2 hm] at h
    cases h

/-- Status and body speak for success while the payload holds errors just if these are the errors
of items of a list. -/
theorem isError_iff_of_isSuccess {status : Nat} {body : Json} {name : String} {resp : Response}
    (hname : name ≠ Registry.errorLabel) (h : new status body name = .ok resp)
    (hs : resp.isSuccess = true) :
    resp.members.isError = true ↔
      ∃ items, normalize body = .arr items ∧ ∃ v ∈ items, hasErrors v = true := by
  obtain ⟨hbody, hm⟩ := resolveMember_of_isSuccess h hs
  rw [isError_of_resolveMember_standard hm, hbody]
  simp [hname, ItemErrors]

theorem isError_iff_of_isSuccess_document :
    ∃ resp, new 200 (.obj [("data", .arr [.obj [("id", .str "1")], .obj [("errors", .null)]])])
        "document" = .ok resp ∧
      resp.isSuccess = true ∧ resp.members.isError = true := by
  obtain ⟨resp, h, hs⟩ : ∃ resp,
      new 200 (.obj [("data", .arr [.obj [("id", .str "1")], .obj [("errors", .null)]])])
        "document" = .ok resp ∧ resp.isSuccess = true := ⟨_, rfl, rfl⟩
  refine ⟨resp, h, hs, (isError_iff_of_isSuccess (by decide) h hs).2 ⟨_, rfl, ?_⟩⟩
  exact ⟨.obj [("errors", .null)], by simp, rfl⟩

theorem not_forall_isSuccess_not_isError :
    ¬ ∀ (status : Nat) (body : Json) (name : String) (resp : Response),
      name ≠ Registry.errorLabel → new status body name = .ok resp → resp.isSuccess = true →
        resp.members.isError = false := by
  intro hall
  have h := hall 200 (.arr [.obj [("errors", .arr [.str "boom"])]]) "document" _ (by decide) rfl rfl
  cases h

end Response

end DocumentClient
