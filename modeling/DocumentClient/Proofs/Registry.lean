import DocumentClient.Proofs.Except
import DocumentClient.Proofs.Keyed
import DocumentClient.Registry

namespace DocumentClient

namespace Registry

theorem exists_mem_of_buildCollection_error {r : Registry} {label : String} {items : List Json}
    {e : DecodeError} (h : r.buildCollection label items = .error e) :
    ∃ v ∈ items, r.build label v = .error e :=
  exists_mem_of_mapM_error (map_eq_error_iff.1 h)

theorem buildCollection_error_of_mem {r : Registry} {label : String} {items : List Json} {v : Json}
    {e : DecodeError} (hv : v ∈ items) (h : r.build label v = .error e) :
    ∃ e', r.buildCollection label items = .error e' := by
  obtain ⟨e', he⟩ := mapM_error_of_mem hv h
  exact ⟨e', map_eq_error_iff.2 he⟩

@[simp] theorem find_empty (label : String) : empty.find label = decodeDocument := rfl

@[simp] theorem find_register (r : Registry) (name : String) (decoder : Json.Decoder Resource)
    (label : String) :
    (r.register name decoder).find label = if name = label then decoder else r.find label := by
  rw [find, register, Keyed.find?_put]
  split <;> rfl

def registerAll (r : Registry) (calls : List (String × Json.Decoder Resource)) : Registry :=
  calls.foldl (fun r call => r.register call.1 call.2) r

def lastDecoder (calls : List (String × Json.Decoder Resource)) (label : String) :
    Json.Decoder Resource :=
  ((calls.findRev? (·.1 = label)).map Prod.snd).getD decodeDocument

theorem decoders_registerAll (r : Registry) (calls : List (String × Json.Decoder Resource)) :
    (r.registerAll calls).decoders = Keyed.putAll Prod.fst r.decoders calls := by
  induction calls generalizing r with
  | nil => rfl
  | cons call calls ih => exact ih (r.register call.1 call.2)

theorem find_registerAll (calls : List (String × Json.Decoder Resource)) (label : String) :
    (empty.registerAll calls).find label = lastDecoder calls label := by
  rw [find, decoders_registerAll, Keyed.find?_putAll, lastDecoder]
  simp [empty, Keyed.find?]

example : standard = empty.registerAll [("token", decodeToken), ("schema", decodeSchema),
    ("document", decodeDocument), (errorLabel, decodeError)] := rfl

theorem build_standard_errorLabel (fs : Json.Fields) :
    standard.build errorLabel (.obj fs) = .ok (.error ⟨(fs.get? "errors").getD .null⟩) := by
  rw [build, standard, find_register, if_pos rfl]
  rfl

theorem isError_of_build_standard {label : String} {v : Json} {x : Resource}
    (h : standard.build label v = .ok x) : x.isError = true ↔ label = errorLabel := by
  rw [build, standard] at h
  simp only [find_register, find_empty] at h
  split at h
  · next hl =>
    obtain ⟨e, -, rfl⟩ := map_eq_ok_iff.1 h
    simp [Resource.isError, hl]
  · next hl =>
    have hne : label ≠ errorLabel := Ne.symm hl
    suffices hx : x.isError = false by simp [hx, hne]
    split at h
    · obtain ⟨d, -, rfl⟩ := map_eq_ok_iff.1 h
      rfl
    · split at h
      · obtain ⟨s, -, rfl⟩ := map_eq_ok_iff.1 h
        rfl
      · split at h
        · obtain ⟨t, -, rfl⟩ := map_eq_ok_iff.1 h
          rfl
        · obtain ⟨d, -, rfl⟩ := map_eq_ok_iff.1 h
          rfl

theorem buildCollection_eq_ok_iff {r : Registry} {label : String} {items : List Json}
    {c : Collection} :
    r.buildCollection label items = .ok c ↔
      c.label = pluralize label ∧
        List.Forall₂ (fun v x => r.build label v = .ok x) items c.items := by
  rw [buildCollection, map_eq_ok_iff]
  constructor
  · rintro ⟨xs, hxs, rfl⟩
    exact ⟨rfl, mapM_eq_ok_iff.1 hxs⟩
  · rintro ⟨hlabel, hitems⟩
    exact ⟨c.items, mapM_eq_ok_iff.2 hitems, by rw [← hlabel]⟩

end Registry

end DocumentClient
