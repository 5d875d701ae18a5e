import DocumentClient.Proofs.Json.Fields
import DocumentClient.Proofs.Response.Construction

namespace DocumentClient.Response

def Encloses (fs : Json.Fields) (d : Json) : Prop := fs.get? "data" = some d ∧ d ≠ .null

def ofContent (r : Registry) (status : Nat) (content : Json) (name : String) :
    Except Error Response :=
  match resolveMember r name content with
  | .ok members => .ok { status, body := content, name, members }
  | .error e =>
    if statusSuccess status then .error (.decode e)
    else .ok { status, body := content, name, members := .resource (.error ⟨content⟩) }

variable {fs : Json.Fields} {d : Json}

theorem withRegistry_eq (r : Registry) (status : Nat) (body : Json) (name : String) :
    withRegistry r status body name = ofContent r status (normalize body) name := rfl

theorem normalize_of_encloses (h : Encloses fs d) : normalize (.obj fs) = d := by
  rcases normalize_cases (.obj fs) with ⟨d', hd', -, hnormal⟩ | ⟨hobj, -⟩ | ⟨hdata, -, -⟩
  · exact hnormal.trans (Option.some.inj (hd'.symm.trans h.1))
  · cases hobj
  · exact absurd (hdata d h.1) h.2

theorem normalize_of_not_encloses (h : ∀ d, ¬ Encloses fs d) : normalize (.obj fs) = .obj fs := by
  rcases normalize_cases (.obj fs) with ⟨d, hd, hnull, -⟩ | ⟨hobj, -⟩ | ⟨-, -, hnormal⟩
  · exact absurd ⟨hd, hnull⟩ (h d)
  · cases hobj
  · exact hnormal

theorem normalize_content (hnull : d ≠ .null) (h : ∀ gs c, d = .obj gs → ¬ Encloses gs c) :
    normalize d = d := by
  cases d with
  | null => exact absurd rfl hnull
  | obj gs => exact normalize_of_not_encloses fun c => h gs c rfl
  | arr | bool | num | str => rfl

theorem withRegistry_of_encloses (h : Encloses fs d) (r : Registry) (status : Nat)
    (name : String) : withRegistry r status (.obj fs) name = ofContent r status d name := by
  rw [withRegistry_eq, normalize_of_encloses h]

theorem withRegistry_of_not_encloses (h : ∀ d, ¬ Encloses fs d) (r : Registry) (status : Nat)
    (name : String) : withRegistry r status (.obj fs) name = ofContent r status (.obj fs) name := by
  rw [withRegistry_eq, normalize_of_not_encloses h]

theorem not_encloses (h : fs.get? "data" = none ∨ fs.get? "data" = some .null) (d : Json) :
    ¬ Encloses fs d := by
  rintro ⟨hd, hnull⟩
  rcases h with h | h
  · rw [h] at hd
    cases hd
  · rw [h] at hd
    exact hnull (Option.some.inj hd).symm

/-- Envelopes around the same content come to the same, namely to what the content comes to as it
stands.  An envelope inside is not opened, though it would be if it came alone. -/
theorem withRegistry_envelope (r : Registry) (status : Nat) (name : String) :
    (∀ fs d, Encloses fs d →
      withRegistry r status (.obj fs) name = ofContent r status d name ∧
      (∀ gs, Encloses gs d →
        withRegistry r status (.obj gs) name = withRegistry r status (.obj fs) name) ∧
      ((∀ gs c, d = .obj gs → ¬ Encloses gs c) →
        withRegistry r status (.obj fs) name = withRegistry r status d name) ∧
      (∀ gs c, d = .obj gs → Encloses gs c →
        withRegistry r status d name = ofContent r status c name) ∧
      ∀ resp, withRegistry r status (.obj fs) name = .ok resp → resp.body = d) ∧
    ∀ fs : Json.Fields, fs.get? "data" = none ∨ fs.get? "data" = some .null →
      withRegistry r status (.obj fs) name = ofContent r status (.obj fs) name ∧
      ∀ resp, withRegistry r status (.obj fs) name = .ok resp → resp.body = .obj fs := by
  constructor
  · intro fs d h
    have houtcome := withRegistry_of_encloses h r status name
    refine ⟨houtcome, fun gs hgs => ?_, fun hbare => ?_, ?_, fun resp hresp => ?_⟩
    · rw [houtcome, withRegistry_of_encloses hgs]
    · rw [houtcome, withRegistry_eq, normalize_content h.2 hbare]
    · rintro gs c rfl hgs
      exact withRegistry_of_encloses hgs r status name
    · obtain ⟨-, -, hbody, -⟩ := eq_of_withRegistry_ok hresp
      rw [hbody, normalize_of_encloses h]
  · intro fs h
    refine ⟨withRegistry_of_not_encloses (not_encloses h) r status name, fun resp hresp => ?_⟩
    obtain ⟨-, -, hbody, -⟩ := eq_of_withRegistry_ok hresp
    rw [hbody, normalize_of_not_encloses (not_encloses h)]

theorem withRegistry_envelope_nested :
    let inner : Json := .obj [("data", .arr []), ("errors", .str "inside")]
    let bare : Json.Fields := [("data", .null), ("errors", .str "outside")]
    withRegistry .standard 200 (.obj [("errors", .str "outside"), ("data", inner)]) "document" =
        withRegistry .standard 200 (.obj [("data", inner), ("_meta", .obj [])]) "document" ∧
      (∃ resp, withRegistry .standard 200 (.obj [("errors", .str "outside"), ("data", inner)])
        "document" = .ok resp ∧ resp.body = inner) ∧
      ∃ resp, withRegistry .standard 200 (.obj bare) "document" = .ok resp ∧
        resp.body = .obj bare := by
  intro inner bare
  have hbefore : Encloses [("errors", .str "outside"), ("data", inner)] inner :=
    ⟨rfl, by simp [inner]⟩
  have hafter : Encloses [("data", inner), ("_meta", .obj [])] inner := ⟨rfl, by simp [inner]⟩
  obtain ⟨henvelope, hbare⟩ := withRegistry_envelope .standard 200 "document"
  obtain ⟨houtcome, hsame, -, -, hbody⟩ := henvelope _ inner hbefore
  obtain ⟨resp, hresp⟩ : ∃ resp, ofContent .standard 200 inner "document" = .ok resp := ⟨_, rfl⟩
  obtain ⟨resp', hresp'⟩ : ∃ resp, withRegistry .standard 200 (.obj bare) "document" = .ok resp :=
    ⟨_, rfl⟩
  exact ⟨(hsame _ hafter).symm, ⟨resp, houtcome.trans hresp, hbody resp (houtcome.trans hresp)⟩,
    resp', hresp', (hbare bare (Or.inr rfl)).2 resp' hresp'⟩

end DocumentClient.Response
