import DocumentClient.Client
import DocumentClient.Proofs.Config.PlainRoot

namespace DocumentClient

open Text Url

namespace Url

/-- What an id is in a path: no mark of a URL, not dots, and an encoding of the id, of which line
breaks are left out.  Nothing stands for a dot with line breaks around it. -/
structure StandsFor (s : List Char) (id : String) : Prop where
  no_mark : ∀ c ∈ s, c ∉ ['/', '\\', '?', '#']
  not_dot : Path.isDot s = false
  not_dots : Path.isDoubleDot s = false
  decode_eq : dropBreaks id.toList ≠ ['.'] →
    Percent.decode s = Percent.bytes (dropBreaks id.toList)

theorem inSpecialSegment_of_mark : ∀ c ∈ ['/', '\\', '?', '#'],
    inSpecialSegment c = true ∧ c ≠ '%' ∧ c.isAlphanum = false := by
  simp only [List.mem_cons, List.not_mem_nil, or_false, forall_eq_or_imp, forall_eq]
  decide

theorem not_mark_of_mem_encode {s : List Char} {c : Char}
    (h : c ∈ Percent.encode inSpecialSegment s) : c ∉ ['/', '\\', '?', '#'] := by
  intro hc
  obtain ⟨hset, hpercent, halnum⟩ := inSpecialSegment_of_mark c hc
  rcases Percent.of_mem_encode h with hc | hc | hc
  · rw [hset] at hc
    cases hc
  · exact hpercent hc
  · rw [halnum] at hc
    cases hc

theorem idSegment_standsFor {id : String} (hdots : dropBreaks id.toList ≠ ['.', '.']) :
    StandsFor (idSegment id) id := by
  unfold idSegment
  split
  · next hdot => exact ⟨by simp, rfl, rfl, fun hne => absurd hdot hne⟩
  · next hdot =>
    refine ⟨fun c hc => not_mark_of_mem_encode hc, ?_, ?_, fun _ => Percent.decode_encode rfl _⟩
    · rw [Bool.eq_false_iff]
      exact fun h => hdot (Path.eq_of_isDot_encode rfl h)
    · rw [Bool.eq_false_iff]
      exact fun h => hdots (Path.eq_of_isDoubleDot_encode rfl h)

end Url

namespace Config

def collectionPath (c : Config) (schema : String) : List Char :=
  c.baseUrl.path.toList ++ "schemas".toList ++ '/' :: schema.toList ++ ['/']

end Config

namespace Client

section

variable {config : Config} {schema id : String}

theorem checkSchema_of_valid (hschema : Query.schemaValid schema = true) :
    checkSchema schema = .ok () := if_pos hschema

theorem documentRequest_of_valid (hschema : Query.schemaValid schema = true) {u : Url}
    (hu : config.segmentsEndpoint ["schemas", schema, id] = .ok u) :
    documentRequest config schema id = .ok (.get u.text) := by
  unfold documentRequest
  rw [checkSchema_of_valid hschema, hu]
  rfl

def documentPath (config : Config) (schema id : String) : List Char :=
  opened (pushSegment .special
    (config.baseUrl.path.toList ++ "schemas".toList ++ '/' :: schema.toList) id)

theorem documentPath_dots (config : Config) (schema : String) (hid : id = "." ∨ id = "..") :
    documentPath config schema id = config.collectionPath schema := by
  rw [documentPath, pushSegment_dots hid, opened_append_cons (Config.ne_nil_append_schemas _)]
  rfl

/-- Dots that a line break parts take the name of the schema away. -/
theorem documentPath_broken_dots (config : Config) (hschema : PlainWord schema.toList)
    (hid : ¬ (id = "." ∨ id = "..")) (hdots : dropBreaks id.toList = ['.', '.']) :
    documentPath config schema id = config.baseUrl.path.toList ++ "schemas//".toList := by
  have hne := Config.ne_nil_append_schemas config.baseUrl.path.toList
  rw [documentPath, pushSegment_broken_dots hne hschema hid hdots, opened_append_cons hne]
  simp

theorem documentPath_id (config : Config) (schema : String) (hid : ¬ (id = "." ∨ id = ".."))
    (hdots : dropBreaks id.toList ≠ ['.', '.']) :
    documentPath config schema id = config.collectionPath schema ++ idSegment id ++ ['/'] := by
  have hne := Config.ne_nil_append_schemas config.baseUrl.path.toList
  rw [documentPath, pushSegment_id hne hid hdots, opened_append_cons (by simp)]
  simp [Config.collectionPath]

theorem exists_standsFor_iff (hschema : PlainWord schema.toList) :
    (∃ s, StandsFor s id ∧
        documentPath config schema id = config.collectionPath schema ++ s ++ ['/']) ↔
      ¬ (id = "." ∨ id = "..") ∧ dropBreaks id.toList ≠ ['.', '.'] := by
  constructor
  · rintro ⟨s, -, hs⟩
    have hid : ¬ (id = "." ∨ id = "..") := by
      intro hid
      rw [documentPath_dots config schema hid] at hs
      have hlength := congrArg List.length hs
      simp at hlength
    refine ⟨hid, fun hdots => ?_⟩
    rw [documentPath_broken_dots config hschema hid hdots, Config.collectionPath] at hs
    have hlength := congrArg List.length hs
    simp at hlength
    omega
  · rintro ⟨hid, hdots⟩
    exact ⟨_, idSegment_standsFor hdots, documentPath_id config schema hid hdots⟩

/-- For any id a request is sent.  Its path is that of the collection with one more segment, unless
the id is dots. -/
theorem document_path (hroot : config.PlainRoot) (hschema : Query.schemaValid schema = true)
    (id : String) :
    ∃ path : List Char,
      (∀ {m : Type → Type} [Monad m] (transport : Transport m),
        document { config, transport } schema id =
          execute { config, transport } (.get (config.baseUrl.onPath path).text) "document") ∧
      ((∃ s, StandsFor s id ∧ path = config.collectionPath schema ++ s ++ ['/']) ↔
        ¬ (id = "." ∨ id = "..") ∧ dropBreaks id.toList ≠ ['.', '.']) ∧
      (id = "." ∨ id = ".." → path = config.collectionPath schema) ∧
      (¬ (id = "." ∨ id = "..") → dropBreaks id.toList = ['.', '.'] →
        path = config.baseUrl.path.toList ++ "schemas//".toList) := by
  have hword := plainWord_of_schemaValid hschema
  refine ⟨documentPath config schema id, fun transport => ?_, exists_standsFor_iff hword,
    documentPath_dots config schema, documentPath_broken_dots config hword⟩
  unfold document
  rw [documentRequest_of_valid hschema (hroot.segmentsEndpoint_id hword id)]
  rfl

end

theorem document_path_slashes :
    ∃ config, Config.withBaseUrl "https://docs.example.com/api/v1" = .ok config ∧
      ∃ path : List Char,
        (∀ {m : Type → Type} [Monad m] (transport : Transport m),
          document { config, transport } "movies" "../query?#%2e" =
            execute { config, transport } (.get (config.baseUrl.onPath path).text) "document") ∧
        ∃ s, StandsFor s "../query?#%2e" ∧
          path = config.collectionPath "movies" ++ s ++ ['/'] := by
  obtain ⟨config, hconfig, hroot⟩ := Config.exists_plainRoot
  obtain ⟨path, hsent, hstays, -, -⟩ :=
    document_path hroot (by decide : Query.schemaValid "movies" = true) "../query?#%2e"
  exact ⟨config, hconfig, path, hsent, hstays.2 (by decide)⟩

theorem not_forall_document_path :
    ¬ ∀ (config : Config) (schema id : String) (r : Request), config.PlainRoot →
      Query.schemaValid schema = true → documentRequest config schema id = .ok r →
      ∃ s, '/' ∉ s ∧
        r.url = (config.baseUrl.onPath (config.collectionPath schema ++ s ++ ['/'])).text := by
  intro h
  obtain ⟨config, -, hroot⟩ := Config.exists_plainRoot
  have hschema : Query.schemaValid "movies" = true := by decide
  have hword := plainWord_of_schemaValid hschema
  -- The tab is left out after the dots were looked for.
  obtain ⟨s, -, hs⟩ := h config "movies" ".\t." _ hroot hschema
    (documentRequest_of_valid hschema (hroot.segmentsEndpoint_id hword ".\t."))
  have hpath : documentPath config "movies" ".\t." = config.collectionPath "movies" ++ s ++ ['/'] :=
    text_onPath_inj.1 hs
  rw [documentPath_broken_dots config hword (by decide) (by decide), Config.collectionPath] at hpath
  have hlength := congrArg List.length hpath
  simp at hlength

end Client

end DocumentClient
