import DocumentClient.Proofs.Registry
import DocumentClient.Response

namespace DocumentClient.Response

/-- What decoders are given of a body, each part with the label of its decoder. -/
def parts (label : String) : Json → List (String × Json)
  | .arr items => items.map fun v => (if items.any hasErrors then Registry.errorLabel else label, v)
  | .obj fs =>
    [(if (remapTimes fs).has "errors" then Registry.errorLabel else label, .obj (remapTimes fs))]
  | v => [(label, v)]

theorem exists_part_of_resolveMember_error {r : Registry} {label : String} {body : Json}
    {e : DecodeError} (h : resolveMember r label body = .error e) :
    ∃ p ∈ parts label body, r.build p.1 p.2 = .error e := by
  cases body with
  | arr items =>
    obtain ⟨v, hv, he⟩ := Registry.exists_mem_of_buildCollection_error (map_eq_error_iff.1 h)
    exact ⟨_, List.mem_map_of_mem hv, he⟩
  | obj fs => exact ⟨_, List.mem_singleton_self _, map_eq_error_iff.1 h⟩
  | null | bool | num | str => exact ⟨_, List.mem_singleton_self _, map_eq_error_iff.1 h⟩

theorem resolveMember_error_of_part {r : Registry} {label : String} {body : Json}
    {p : String × Json} {e : DecodeError} (hp : p ∈ parts label body)
    (h : r.build p.1 p.2 = .error e) : ∃ e', resolveMember r label body = .error e' := by
  cases body with
  | arr items =>
    obtain ⟨v, hv, rfl⟩ := List.mem_map.1 hp
    obtain ⟨e', he⟩ := Registry.buildCollection_error_of_mem hv h
    exact ⟨e', map_eq_error_iff.2 he⟩
  | obj fs =>
    obtain rfl := List.mem_singleton.1 hp
    exact ⟨e, map_eq_error_iff.2 h⟩
  | null | bool | num | str =>
    obtain rfl := List.mem_singleton.1 hp
    exact ⟨e, map_eq_error_iff.2 h⟩

theorem resolveMember_error_iff {r : Registry} {label : String} {body : Json} :
    (∃ e, resolveMember r label body = .error e) ↔
      ∃ p ∈ parts label body, ∃ e, r.build p.1 p.2 = .error e := by
  constructor
  · rintro ⟨e, h⟩
    obtain ⟨p, hp, he⟩ := exists_part_of_resolveMember_error h
    exact ⟨p, hp, e, he⟩
  · rintro ⟨p, hp, e, h⟩
    exact resolveMember_error_of_part hp h

def data? (body : Json) : Option Json := body.asFields?.bind (Json.Fields.get? · "data")

theorem normalize_cases (body : Json) :
    (∃ d, data? body = some d ∧ d ≠ .null ∧ normalize body = d) ∨
      (body = .null ∧ normalize body = .arr []) ∨
      ((∀ d, data? body = some d → d = .null) ∧ body ≠ .null ∧ normalize body = body) := by
  cases body with
  | null => exact Or.inr (Or.inl ⟨rfl, rfl⟩)
  | arr | bool | num | str => exact Or.inr (Or.inr ⟨fun d h => (by cases h), by simp, rfl⟩)
  | obj fs =>
    have hdata : data? (.obj fs) = Json.Fields.get? fs "data" := rfl
    rw [hdata, normalize]
    cases hget : Json.Fields.get? fs "data" with
    | none => exact Or.inr (Or.inr ⟨by simp, by simp, rfl⟩)
    | some d =>
      cases d with
      | null => exact Or.inr (Or.inr ⟨by simp, by simp, rfl⟩)
      | obj | arr | bool | num | str => exact Or.inl ⟨_, rfl, by simp, rfl⟩

theorem normalize_ne_null (body : Json) : normalize body ≠ .null := by
  rcases normalize_cases body with ⟨d, -, hd, h⟩ | ⟨-, h⟩ | ⟨-, hb, h⟩
  · rwa [h]
  · simp [h]
  · rwa [h]

theorem statusSuccess_iff {status : Nat} :
    statusSuccess status = true ↔ 200 ≤ status ∧ status ≤ 299 := by
  simp [statusSuccess]
  omega

section

variable {r : Registry} {status : Nat} {body : Json} {name : String}

theorem withRegistry_of_ok {m : Member} (h : resolveMember r name (normalize body) = .ok m) :
    withRegistry r status body name = .ok ⟨status, normalize body, name, m⟩ := by
  simp [withRegistry, h]

theorem withRegistry_of_success_error {e : DecodeError} (hs : statusSuccess status = true)
    (h : resolveMember r name (normalize body) = .error e) :
    withRegistry r status body name = .error (.decode e) := by
  simp [withRegistry, h, hs]

theorem withRegistry_of_failure_error {e : DecodeError} (hs : ¬ statusSuccess status = true)
    (h : resolveMember r name (normalize body) = .error e) :
    withRegistry r status body name =
      .ok ⟨status, normalize body, name, .resource (.error ⟨normalize body⟩)⟩ := by
  simp [withRegistry, h, hs]

theorem eq_of_withRegistry_ok {resp : Response}
    (h : withRegistry r status body name = .ok resp) :
    resp.status = status ∧ resp.name = name ∧ resp.body = normalize body ∧
      ∀ m, resolveMember r name (normalize body) = .ok m → resp.members = m := by
  cases hm : resolveMember r name (normalize body) with
  | ok m =>
    rw [withRegistry_of_ok hm] at h
    cases h
    exact ⟨rfl, rfl, rfl, fun m' hm' => Except.ok.inj hm'⟩
  | error e =>
    by_cases hs : statusSuccess status = true
    · rw [withRegistry_of_success_error hs hm] at h
      cases h
    · rw [withRegistry_of_failure_error hs hm] at h
      cases h
      exact ⟨rfl, rfl, rfl, fun m' hm' => by cases hm'⟩

theorem withRegistry_eq_error_iff {e : Error} :
    withRegistry r status body name = .error e ↔
      statusSuccess status = true ∧
        ∃ cause, e = .decode cause ∧ resolveMember r name (normalize body) = .error cause := by
  cases hm : resolveMember r name (normalize body) with
  | ok m => simp [withRegistry_of_ok hm]
  | error cause =>
    by_cases hs : statusSuccess status = true
    · simp [withRegistry_of_success_error hs hm, hs, eq_comm]
    · simp [withRegistry_of_failure_error hs hm, hs]

theorem exists_ok_of_failure (hs : ¬ statusSuccess status = true) :
    ∃ resp, withRegistry r status body name = .ok resp ∧ resp.isSuccess = false ∧
      ∀ e, resolveMember r name (normalize body) = .error e →
        resp.members = .resource (.error ⟨normalize body⟩) ∧ resp.members.isError = true := by
  have hfailure : ∀ m, (Response.mk status (normalize body) name m).isSuccess = false := by
    simp [isSuccess, hs]
  cases hm : resolveMember r name (normalize body) with
  | ok m => exact ⟨_, withRegistry_of_ok hm, hfailure m, fun e he => by cases he⟩
  | error e =>
    exact ⟨_, withRegistry_of_failure_error hs hm, hfailure _, fun e' _ => ⟨rfl, rfl⟩⟩

end

/-- A reply is refused just if it is a success with a part that its decoder refuses. -/
theorem withRegistry_outcome (r : Registry) (status : Nat) (body : Json) (name : String) :
    ((∃ e, withRegistry r status body name = .error e) ↔
      (200 ≤ status ∧ status ≤ 299) ∧ ∃ e, resolveMember r name (normalize body) = .error e) ∧
    ((∃ e, resolveMember r name (normalize body) = .error e) ↔
      ∃ p ∈ parts name (normalize body), ∃ e, r.build p.1 p.2 = .error e) ∧
    (∀ e, withRegistry r status body name = .error e →
      ∃ cause, e = .decode cause ∧ resolveMember r name (normalize body) = .error cause) ∧
    (¬ (200 ≤ status ∧ status ≤ 299) →
      ∃ resp, withRegistry r status body name = .ok resp ∧ resp.isSuccess = false ∧
        ∀ e, resolveMember r name (normalize body) = .error e →
          resp.members = .resource (.error ⟨normalize body⟩) ∧ resp.members.isError = true) ∧
    (∀ resp, withRegistry r status body name = .ok resp →
      resp.status = status ∧ resp.name = name ∧ resp.body = normalize body ∧ resp.body ≠ .null ∧
        ∀ m, resolveMember r name (normalize body) = .ok m → resp.members = m) ∧
    ((∃ d, data? body = some d ∧ d ≠ .null ∧ normalize body = d) ∨
      (body = .null ∧ normalize body = .arr []) ∨
      ((∀ d, data? body = some d → d = .null) ∧ body ≠ .null ∧ normalize body = body)) := by
  refine ⟨?_, resolveMember_error_iff, ?_, ?_, ?_, normalize_cases body⟩
  · constructor
    · rintro ⟨e, h⟩
      obtain ⟨hs, cause, -, hm⟩ := withRegistry_eq_error_iff.1 h
      exact ⟨statusSuccess_iff.1 hs, cause, hm⟩
    · rintro ⟨hs, e, hm⟩
      exact ⟨_, withRegistry_of_success_error (statusSuccess_iff.2 hs) hm⟩
  · exact fun e h => (withRegistry_eq_error_iff.1 h).2
  · exact fun hs => exists_ok_of_failure fun h => hs (statusSuccess_iff.1 h)
  · intro resp h
    obtain ⟨hstatus, hname, hbody, hm⟩ := eq_of_withRegistry_ok h
    exact ⟨hstatus, hname, hbody, hbody ▸ normalize_ne_null body, hm⟩

end DocumentClient.Response
