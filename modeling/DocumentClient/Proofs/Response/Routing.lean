import DocumentClient.Proofs.Response.Classification

namespace DocumentClient

namespace Response

variable {r : Registry} {label : String} {fs : Json.Fields} {e : Json}

theorem hasErrors_of_get? (h : fs.get? "errors" = some e) : hasErrors (.obj fs) = true := by
  rw [hasErrors, Json.hasField, Json.Fields.has, h]
  rfl

theorem resolveMember_of_errors (h : fs.get? "errors" = some e) (label : String) :
    resolveMember .standard label (.obj fs) = .ok (.resource (.error ⟨e⟩)) := by
  have hhas : Json.Fields.has (remapTimes fs) "errors" = true := by
    rw [has_remapTimes]
    exact hasErrors_of_get? h
  have hbuild : Registry.standard.build Registry.errorLabel (.obj (remapTimes fs)) =
      .ok (.error ⟨e⟩) := by
    rw [Registry.build_standard_errorLabel, get?_remapTimes_of_ne (by decide) (by decide), h]
    rfl
  calc
    resolveMember .standard label (.obj fs) =
        (Registry.standard.build Registry.errorLabel (.obj (remapTimes fs))).map .resource := by
      rw [resolveMember, hhas]
      rfl
    _ = .ok (.resource (.error ⟨e⟩)) := by
      rw [hbuild]
      rfl

def errorsOf (fs : Json.Fields) : Resource := .error ⟨(fs.get? "errors").getD .null⟩

theorem buildCollection_errorLabel (items : List Json.Fields) :
    Registry.standard.buildCollection Registry.errorLabel (items.map .obj) =
      .ok ⟨"errors", items.map errorsOf⟩ := by
  have hlabel : Registry.pluralize Registry.errorLabel = "errors" := by decide
  refine Registry.buildCollection_eq_ok_iff.2 ⟨hlabel.symm, ?_⟩
  rw [List.forall₂_map_left_iff, List.forall₂_map_right_iff]
  exact List.forall₂_same.2 fun fs _ => Registry.build_standard_errorLabel fs

theorem resolveMember_list_of_errors {items : List Json.Fields}
    (h : ∃ fs ∈ items, fs.has "errors" = true) (label : String) :
    resolveMember .standard label (.arr (items.map .obj)) =
      .ok (.collection ⟨"errors", items.map errorsOf⟩) := by
  have hany : (items.map Json.obj).any hasErrors = true := by
    rw [List.any_map]
    exact List.any_eq_true.2 h
  rw [resolveMember, hany, if_pos rfl, buildCollection_errorLabel]
  rfl

theorem isError_errorsOf {items : List Json.Fields} (hne : items ≠ []) (label : String) :
    (Collection.mk label (items.map errorsOf)).isError = true := by
  have hall : (items.map errorsOf).all Resource.isError = true := by
    simp [errorsOf, Resource.isError]
  simp [Collection.isError, Collection.isEmpty, hne, hall]

theorem resolveMember_list {items : List Json} (h : ∀ v ∈ items, hasErrors v = false)
    (r : Registry) (label : String) :
    resolveMember r label (.arr items) = (r.buildCollection label items).map .collection := by
  have hany : items.any hasErrors = false := by simpa using h
  rw [resolveMember, hany, if_neg (by simp)]

theorem exists_buildCollection {items : List Json} (h : ∀ v ∈ items, ∃ x, r.build label v = .ok x) :
    ∃ xs, r.buildCollection label items = .ok ⟨Registry.pluralize label, xs⟩ ∧
      List.Forall₂ (fun v x => r.build label v = .ok x) items xs := by
  obtain ⟨xs, hxs⟩ := exists_mapM_ok_iff.2 h
  have hitems := mapM_eq_ok_iff.1 hxs
  exact ⟨xs, Registry.buildCollection_eq_ok_iff.2 ⟨rfl, hitems⟩, hitems⟩

/-- What reports errors becomes these errors under any label and status, a list item by item, and
any other list goes to the decoder last registered for its label. -/
theorem new_routes (status : Nat) (label : String) (body : Json) :
    (∀ (fs : Json.Fields) (e : Json), normalize body = .obj fs → fs.get? "errors" = some e →
      ∃ resp, new status body label = .ok resp ∧ resp.isSuccess = false ∧
        resp.members = .resource (.error ⟨e⟩)) ∧
    (∀ items : List Json.Fields, normalize body = .arr (items.map .obj) →
      (∃ fs ∈ items, fs.has "errors" = true) →
      ∃ resp, new status body label = .ok resp ∧
        resp.members = .collection ⟨"errors", items.map errorsOf⟩ ∧
        resp.members.isError = true) ∧
    ∀ calls items, normalize body = .arr items → (∀ v ∈ items, hasErrors v = false) →
      (∀ v ∈ items, ∃ x, Registry.lastDecoder calls label v = .ok x) →
      ∃ resp xs, withRegistry (Registry.empty.registerAll calls) status body label = .ok resp ∧
        resp.members = .collection ⟨label ++ "s", xs⟩ ∧
        List.Forall₂ (fun v x => Registry.lastDecoder calls label v = .ok x) items xs := by
  refine ⟨?_, ?_, ?_⟩
  · intro fs e hbody he
    have hm := resolveMember_of_errors he label
    rw [← hbody] at hm
    refine ⟨_, withRegistry_of_ok hm, ?_, rfl⟩
    rw [isSuccess, hbody, hasErrors_of_get? he]
    rfl
  · intro items hbody herrors
    have hm := resolveMember_list_of_errors herrors label
    rw [← hbody] at hm
    obtain ⟨fs, hfs, -⟩ := herrors
    exact ⟨_, withRegistry_of_ok hm, rfl, isError_errorsOf (List.ne_nil_of_mem hfs) "errors"⟩
  · intro calls items hbody hnone hdecoded
    rw [← Registry.find_registerAll] at hdecoded ⊢
    obtain ⟨xs, hbuilt, hitems⟩ := exists_buildCollection hdecoded
    have hm := resolveMember_list hnone (Registry.empty.registerAll calls) label
    rw [hbuilt, ← hbody] at hm
    exact ⟨_, xs, withRegistry_of_ok hm, rfl, hitems⟩

theorem new_routes_replaced :
    (∃ resp, new 200 (.obj [("data", .obj [("id", .int 1), ("errors", .null)])]) "token" =
        .ok resp ∧ resp.isSuccess = false ∧ resp.members = .resource (.error ⟨.null⟩)) ∧
      (∃ resp, new 500 (.arr [.obj [], .obj [("errors", .str "boom")]]) "token" = .ok resp ∧
        resp.members = .collection ⟨"errors", [.error ⟨.null⟩, .error ⟨.str "boom"⟩]⟩ ∧
        resp.members.isError = true) ∧
      ∃ resp, withRegistry (Registry.standard.register "document" Registry.decodeToken) 200
          (.arr [.obj [("token", .str "X")], .arr [.str "Y"]]) "document" = .ok resp ∧
        resp.members = .collection ⟨"documents", [.token ⟨"X"⟩, .token ⟨"Y"⟩]⟩ := by
  obtain ⟨hobject, -, -⟩ :=
    new_routes 200 "token" (.obj [("data", .obj [("id", .int 1), ("errors", .null)])])
  obtain ⟨-, hlist, -⟩ := new_routes 500 "token" (.arr [.obj [], .obj [("errors", .str "boom")]])
  obtain ⟨-, -, hother⟩ :=
    new_routes 200 "document" (.arr [.obj [("token", .str "X")], .arr [.str "Y"]])
  refine ⟨hobject _ .null rfl rfl, hlist [[], [("errors", .str "boom")]] rfl
    ⟨[("errors", .str "boom")], by simp, rfl⟩, ?_⟩
  let calls : List (String × Json.Decoder Resource) :=
    [("token", Registry.decodeToken), ("schema", Registry.decodeSchema),
      ("document", Registry.decodeDocument), (Registry.errorLabel, Registry.decodeError),
      ("document", Registry.decodeToken)]
  have hlast : Registry.lastDecoder calls "document" = Registry.decodeToken := rfl
  have hnone : ∀ v ∈ [Json.obj [("token", .str "X")], .arr [.str "Y"]], hasErrors v = false := by
    decide
  have hdecoded : ∀ v ∈ [Json.obj [("token", .str "X")], .arr [.str "Y"]],
      ∃ x, Registry.lastDecoder calls "document" v = .ok x := by
    rw [List.forall_mem_cons, List.forall_mem_singleton, hlast]
    exact ⟨⟨_, rfl⟩, ⟨_, rfl⟩⟩
  obtain ⟨resp, xs, hresp, hmembers, hitems⟩ := hother calls _ rfl hnone hdecoded
  rw [hlast] at hitems
  obtain ⟨x, ys, hx, hys, rfl⟩ := List.forall₂_cons_left_iff.1 hitems
  obtain ⟨y, zs, hy, hzs, rfl⟩ := List.forall₂_cons_left_iff.1 hys
  obtain rfl := List.forall₂_nil_left_iff.1 hzs
  cases hx
  cases hy
  exact ⟨resp, hresp, hmembers⟩

end Response

end DocumentClient
