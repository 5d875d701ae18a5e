import DocumentClient.Proofs.Client.Document

namespace DocumentClient

open Text Url

namespace Client

structure EncodedId (id : String) : Prop where
  not_dots : ¬ (id = "." ∨ id = "..")
  unbroken : ∀ c ∈ id.toList, isLineBreak c = false

namespace EncodedId

variable {id : String}

theorem dropBreaks_eq (h : EncodedId id) : dropBreaks id.toList = id.toList :=
  dropBreaks_of_forall h.unbroken

theorem dropBreaks_ne (h : EncodedId id) :
    dropBreaks id.toList ≠ ['.'] ∧ dropBreaks id.toList ≠ ['.', '.'] := by
  rw [h.dropBreaks_eq]
  constructor
  · exact fun hid => h.not_dots (Or.inl (String.toList_inj.1 hid))
  · exact fun hid => h.not_dots (Or.inr (String.toList_inj.1 hid))

theorem idSegment_eq (h : EncodedId id) :
    idSegment id = Percent.encode inSpecialSegment id.toList := by
  rw [idSegment, if_neg h.dropBreaks_ne.1, h.dropBreaks_eq]

theorem standsFor (h : EncodedId id) : StandsFor (idSegment id) id :=
  idSegment_standsFor h.dropBreaks_ne.2

end EncodedId

section

variable {config : Config} {schema id : String}

theorem segmentsEndpoint_document (hroot : config.PlainRoot)
    (hschema : Query.schemaValid schema = true) (hid : EncodedId id) :
    config.segmentsEndpoint ["schemas", schema, id] = .ok (config.baseUrl.descend
      ("schemas/" ++ schema ++ "/" ++ String.ofList (idSegment id) ++ "/").toList) := by
  have hpath : documentPath config schema id = config.baseUrl.path.toList ++
      ("schemas/" ++ schema ++ "/" ++ String.ofList (idSegment id) ++ "/").toList := by
    rw [documentPath_id config schema hid.not_dots hid.dropBreaks_ne.2, Config.collectionPath]
    simp
  rw [hroot.segmentsEndpoint_id (plainWord_of_schemaValid hschema), ← documentPath, hpath]
  rfl

theorem eq_of_documentText_eq {root schema' e e' : String} (hschema : '/' ∉ schema.toList)
    (hschema' : '/' ∉ schema'.toList)
    (h : root ++ ("schemas/" ++ schema ++ "/" ++ e ++ "/") =
      root ++ ("schemas/" ++ schema' ++ "/" ++ e' ++ "/")) : schema = schema' ∧ e = e' := by
  have hlist : schema.toList ++ '/' :: (e.toList ++ ['/']) =
      schema'.toList ++ '/' :: (e'.toList ++ ['/']) := by
    simpa using congrArg String.toList h
  have hname : schema.toList = schema'.toList := by
    rw [← Path.takeWhile_append_slash hschema, hlist, Path.takeWhile_append_slash hschema']
  rw [hname, List.append_cancel_left_eq, List.cons.injEq] at hlist
  exact ⟨String.toList_inj.1 hname, String.toList_inj.1 (List.append_cancel_right hlist.2)⟩

/-- The id of a document stands in its URL in a form that only this id has. -/
theorem segmentsEndpoint_document_reversible (hroot : config.PlainRoot)
    (hschema : Query.schemaValid schema = true) (hid : EncodedId id) :
    ∃ u e, config.segmentsEndpoint ["schemas", schema, id] = .ok u ∧
      u.text = config.baseUrl.text ++ ("schemas/" ++ schema ++ "/" ++ e ++ "/") ∧
      (∀ c ∈ e.toList, c ∉ ['/', '\\', '?', '#']) ∧
      (Percent.decode e.toList).toByteArray = id.toUTF8 ∧
      ∀ schema' id' v, Query.schemaValid schema' = true → EncodedId id' →
        config.segmentsEndpoint ["schemas", schema', id'] = .ok v → v.text = u.text →
        schema' = schema ∧ id' = id := by
  refine ⟨_, String.ofList (idSegment id), segmentsEndpoint_document hroot hschema hid,
    text_descend hroot.query hroot.fragment _, ?_, ?_, ?_⟩
  · rw [String.toList_ofList]
    exact hid.standsFor.no_mark
  · rw [String.toList_ofList, hid.idSegment_eq, Percent.decode_encode rfl,
      Percent.toByteArray_bytes, String.ofList_toList]
    rfl
  · intro schema' id' v hschema' hid' hv htext
    rw [segmentsEndpoint_document hroot hschema' hid'] at hv
    cases hv
    rw [text_descend hroot.query hroot.fragment, text_descend hroot.query hroot.fragment] at htext
    obtain ⟨hname, hsegment⟩ := eq_of_documentText_eq
      (plainWord_of_schemaValid hschema').slash_not_mem
      (plainWord_of_schemaValid hschema).slash_not_mem htext
    rw [String.ofList_inj, hid.idSegment_eq, hid'.idSegment_eq] at hsegment
    exact ⟨hname, String.toList_inj.1 (Percent.encode_injective rfl hsegment)⟩

end

theorem segmentsEndpoint_document_reversible_escapes :
    ∃ config u e, Config.withBaseUrl "https://docs.example.com/api/v1" = .ok config ∧
      config.segmentsEndpoint ["schemas", "movies", "%2e%2e/é?"] = .ok u ∧
      u.text = config.baseUrl.text ++ ("schemas/" ++ "movies" ++ "/" ++ e ++ "/") ∧
      (∀ c ∈ e.toList, c ∉ ['/', '\\', '?', '#']) ∧
      (Percent.decode e.toList).toByteArray = "%2e%2e/é?".toUTF8 := by
  obtain ⟨config, hconfig, hroot⟩ := Config.exists_plainRoot
  have hall : "%2e%2e/é?".toList.all (!isLineBreak ·) = true := rfl
  have hid : EncodedId "%2e%2e/é?" :=
    ⟨by decide, fun c hc => by simpa using List.all_eq_true.1 hall c hc⟩
  obtain ⟨u, e, hu, htext, hmarks, hdecode, -⟩ := segmentsEndpoint_document_reversible hroot
    (by decide : Query.schemaValid "movies" = true) hid
  exact ⟨config, u, e, hconfig, hu, htext, hmarks, hdecode⟩

end Client

end DocumentClient
