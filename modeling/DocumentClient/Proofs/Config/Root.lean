import DocumentClient.Proofs.Config.Made
import DocumentClient.Proofs.Url.Joining
import DocumentClient.Query

/-!
The root that requests go to, and the two ways beneath it: a path that is joined to it and segments
that are added to it.  They meet just if the path of the root ends in a slash, is not two slashes,
and nothing follows it.
-/

namespace DocumentClient

open Url

theorem plainWord_of_schemaValid {name : String} (h : Query.schemaValid name = true) :
    PlainWord name.toList := by
  rw [Query.schemaValid, Bool.and_eq_true] at h
  exact .of_all h.2

theorem plainWord_schemas : PlainWord "schemas".toList := .of_all (by decide)

namespace Url

theorem kind_of_scheme {u : Url} (h : u.scheme = "http" ∨ u.scheme = "https") :
    u.kind = .special := by
  rw [kind]
  rcases h with h | h
  · rw [h]
    decide
  · rw [h]
    decide

structure IsRoot (u : Url) : Prop where
  closed : u.path.toList.getLast? = some '/'
  ne_two_slashes : u.path ≠ "//"
  query : u.query = none
  fragment : u.fragment = none

theorem upToSlash_of_closed {path : List Char} (h : path.getLast? = some '/') :
    Path.upToSlash path = path := by
  obtain ⟨start, rfl⟩ := List.getLast?_eq_some_iff.1 h
  exact Path.upToSlash_append_plain (s := []) (by simp [PlainWord]) start

theorem length_upToSlash_le (path : List Char) : (Path.upToSlash path).length ≤ path.length := by
  have happend := congrArg List.length (Path.upToSlash_append_lastSegment path)
  rw [List.length_append] at happend
  omega

def tailChars (u : Url) : List Char :=
  (u.query.map fun q => '?' :: q.toList).getD [] ++
    (u.fragment.map fun f => '#' :: f.toList).getD []

theorem tailChars_eq_nil_iff {u : Url} :
    u.tailChars = [] ↔ u.query = none ∧ u.fragment = none := by
  cases hquery : u.query <;> cases hfragment : u.fragment <;> simp [tailChars, hquery, hfragment]

theorem chars_eq (u : Url) :
    u.chars = u.scheme.toList ++ ':' :: u.front.chars ++ (u.path.toList ++ u.tailChars) := by
  simp [chars, rootChars, tailChars]

theorem text_withPathOnly_eq_iff {u : Url} {path added : List Char} :
    (u.withPathOnly path).text = (u.onPath added).text ↔ path = added ++ u.tailChars := by
  have hpath : (u.withPathOnly path).chars = u.scheme.toList ++ ':' :: u.front.chars ++ path := by
    simp [chars_eq, withPathOnly, onPath, tailChars]
  have hadded : (u.onPath added).chars =
      u.scheme.toList ++ ':' :: u.front.chars ++ (added ++ u.tailChars) := by
    simp [chars_eq, onPath, tailChars]
  rw [text, text, String.ofList_inj, hpath, hadded, List.append_cancel_left_eq]

theorem toList_schemaPath (name : String) :
    ("schemas/" ++ name ++ "/").toList = "schemas".toList ++ '/' :: name.toList ++ ['/'] := by
  simp

theorem IsRoot.path_eq {u : Url} (hroot : u.IsRoot) (hweb : u.IsWeb) :
    Path.upToSlash u.path.toList = u.path.toList ∧ beneath u.path.toList = u.path.toList := by
  have htwo : u.path.toList ≠ ['/', '/'] := fun h => hroot.ne_two_slashes (String.toList_inj.1 h)
  exact ⟨upToSlash_of_closed hroot.closed, beneath_of_closed hweb.rooted hroot.closed htwo⟩

theorem isRoot_of_paths_eq {u : Url} (hweb : u.IsWeb) {name : String}
    (h : Path.upToSlash u.path.toList ++ ("schemas/" ++ name ++ "/").toList =
      beneath u.path.toList ++ "schemas".toList ++ '/' :: name.toList ++ ['/'] ++ u.tailChars) :
    u.IsRoot := by
  rw [toList_schemaPath] at h
  by_cases hclosed : u.path.toList.getLast? = some '/'
  · have htwo : u.path.toList ≠ ['/', '/'] := by
      intro htwo
      simp [htwo, beneath_two_slashes, Path.upToSlash] at h
    rw [upToSlash_of_closed hclosed, beneath_of_closed hweb.rooted hclosed htwo] at h
    have htail : u.tailChars = [] := by simpa using h
    obtain ⟨hquery, hfragment⟩ := tailChars_eq_nil_iff.1 htail
    exact ⟨hclosed, fun hpath => htwo (by rw [hpath]; rfl), hquery, hfragment⟩
  ·
    have hlength := congrArg List.length h
    rw [beneath_of_not_closed hweb.rooted hclosed] at hlength
    have hle := length_upToSlash_le u.path.toList
    simp at hlength
    omega

theorem paths_eq_iff_isRoot {u : Url} (hweb : u.IsWeb) (name : String) :
    Path.upToSlash u.path.toList ++ ("schemas/" ++ name ++ "/").toList =
        beneath u.path.toList ++ "schemas".toList ++ '/' :: name.toList ++ ['/'] ++ u.tailChars ↔
      u.IsRoot := by
  refine ⟨isRoot_of_paths_eq hweb, fun hroot => ?_⟩
  have htail : u.tailChars = [] := tailChars_eq_nil_iff.2 ⟨hroot.query, hroot.fragment⟩
  rw [(hroot.path_eq hweb).1, (hroot.path_eq hweb).2, htail, toList_schemaPath]
  simp only [List.append_assoc, List.append_nil]

end Url

namespace Config

theorem endpoint_plain {c : Config} (hweb : c.baseUrl.IsWeb) {path : String}
    (hpath : PlainPath path.toList) :
    c.endpoint path =
      .ok (c.baseUrl.withPathOnly (Path.upToSlash c.baseUrl.path.toList ++ path.toList)) := by
  obtain ⟨d, hd, hplain⟩ := hpath.head
  obtain ⟨t, ht⟩ := List.head?_eq_some_iff.1 hd
  have hne : d ≠ '/' := by
    rintro rfl
    cases hplain
  have hdrop : path.toList.dropWhile (· = '/') = path.toList := by
    rw [ht, List.dropWhile_cons_of_neg (by simpa using hne)]
  rw [endpoint, hdrop, String.ofList_toList, hweb.join_plain hpath]
  rfl

theorem segmentsEndpoint_eq {c : Config} (hweb : c.baseUrl.IsWeb) (segments : List String) :
    c.segmentsEndpoint segments =
      .ok (c.baseUrl.onPath ((segments ++ [""]).foldl (pushSegment .special)
        (dropEndSlash c.baseUrl.path.toList))) := by
  unfold segmentsEndpoint
  rw [hweb.addSegments_eq]

theorem ne_nil_append_schemas (path : List Char) : path ++ "schemas".toList ≠ [] := by simp

theorem foldl_pushSegment_schemas (path : List Char) {name : String}
    (hname : PlainWord name.toList) :
    ["schemas", name].foldl (pushSegment .special) (dropEndSlash path) =
      beneath path ++ "schemas".toList ++ '/' :: name.toList := by
  have hlength : 1 < (opened (dropEndSlash path) ++ "schemas".toList).length := by simp
  rw [List.foldl_cons, List.foldl_cons, List.foldl_nil, pushSegment_plain plainWord_schemas,
    pushSegment_plain hname, opened_of_one_lt hlength, beneath]
  simp

theorem segmentsEndpoint_schemas {c : Config} (hweb : c.baseUrl.IsWeb) {name : String}
    (hname : PlainWord name.toList) :
    c.segmentsEndpoint ["schemas", name] =
      .ok (c.baseUrl.onPath (beneath c.baseUrl.path.toList ++ "schemas".toList ++
        '/' :: name.toList ++ ['/'])) := by
  rw [segmentsEndpoint_eq hweb, List.foldl_append, foldl_pushSegment_schemas _ hname,
    List.foldl_cons, List.foldl_nil, pushSegment_empty,
    opened_append_cons (ne_nil_append_schemas _)]

theorem plainPath_schemaPath {name : String} (hname : PlainWord name.toList) :
    PlainPath ("schemas/" ++ name ++ "/").toList where
  head := ⟨'s', by simp, rfl⟩
  segments := by
    refine ⟨["schemas".toList, name.toList, []], by simp, ?_, by simp⟩
    simp only [List.mem_cons, List.not_mem_nil, or_false, forall_eq_or_imp, forall_eq]
    exact ⟨plainWord_schemas, hname, by simp [PlainWord]⟩

/-- A path joined to the root and the same path added to it in segments are one URL just if the
root is one to join to. -/
theorem endpoint_eq_segmentsEndpoint_iff {c : Config} (hc : Made c)
    (hscheme : c.baseUrl.scheme = "http" ∨ c.baseUrl.scheme = "https") {name : String}
    (hname : Query.schemaValid name = true) :
    ∃ u v, c.endpoint ("schemas/" ++ name ++ "/") = .ok u ∧
      c.segmentsEndpoint ["schemas", name] = .ok v ∧
      (u = v ↔ c.baseUrl.IsRoot) ∧ (u.text = v.text ↔ c.baseUrl.IsRoot) := by
  have hweb : c.baseUrl.IsWeb := hc.isWeb (kind_of_scheme hscheme)
  have hword := plainWord_of_schemaValid hname
  refine ⟨_, _, endpoint_plain hweb (plainPath_schemaPath hword),
    segmentsEndpoint_schemas hweb hword, ?_⟩
  have htext := text_withPathOnly_eq_iff.trans (paths_eq_iff_isRoot hweb name)
  refine ⟨⟨fun h => htext.1 (congrArg Url.text h), fun hroot => ?_⟩, htext⟩
  have hpaths := (paths_eq_iff_isRoot hweb name).2 hroot
  rw [tailChars_eq_nil_iff.2 ⟨hroot.query, hroot.fragment⟩, List.append_nil] at hpaths
  rw [withPathOnly_eq_onPath hroot.query hroot.fragment, hpaths]

theorem endpoint_eq_segmentsEndpoint_movies :
    ∃ c u v, withBaseUrl "https://docs.example.com/api/v1" = .ok c ∧
      c.endpoint "schemas/movies/" = .ok u ∧ c.segmentsEndpoint ["schemas", "movies"] = .ok v ∧
      u = v ∧ u.text = v.text := by
  obtain ⟨c, hc⟩ : ∃ c, withBaseUrl "https://docs.example.com/api/v1" = .ok c := ⟨_, rfl⟩
  have hroot : c.baseUrl.IsRoot := by
    cases hc
    exact ⟨rfl, by decide, rfl, rfl⟩
  obtain ⟨u, v, hu, hv, huv, htext⟩ := endpoint_eq_segmentsEndpoint_iff (.withBaseUrl hc)
    (Or.inr (by cases hc; rfl)) (by decide : Query.schemaValid "movies" = true)
  exact ⟨c, u, v, hc, hu, hv, huv.2 hroot, htext.2 hroot⟩

theorem not_forall_endpoint_eq_segmentsEndpoint :
    ¬ ∀ (c : Config) (name : String) (u v : Url), Made c →
      c.baseUrl.scheme = "http" ∨ c.baseUrl.scheme = "https" → Query.schemaValid name = true →
      c.endpoint ("schemas/" ++ name ++ "/") = .ok u →
      c.segmentsEndpoint ["schemas", name] = .ok v → u = v := by
  intro h
  -- The slash at the end of the text goes to the query, and the path of the root is left open.
  obtain ⟨c, hc⟩ : ∃ c, withBaseUrl "https://docs.example.com/api?v=1" = .ok c := ⟨_, rfl⟩
  have hpath : c.baseUrl.path = "/api" := by
    cases hc
    rfl
  have hscheme : c.baseUrl.scheme = "http" ∨ c.baseUrl.scheme = "https" := by
    cases hc
    exact Or.inr rfl
  have hname : Query.schemaValid "movies" = true := by decide
  have hweb : c.baseUrl.IsWeb := (Made.withBaseUrl hc).isWeb (kind_of_scheme hscheme)
  have hword := plainWord_of_schemaValid hname
  have heq := h c "movies" _ _ (.withBaseUrl hc) hscheme hname
    (endpoint_plain hweb (plainPath_schemaPath hword)) (segmentsEndpoint_schemas hweb hword)
  have htext := text_withPathOnly_eq_iff.1 (congrArg Url.text heq)
  have hclosed := ((paths_eq_iff_isRoot hweb "movies").1 htext).closed
  rw [hpath] at hclosed
  cases hclosed

end Config

end DocumentClient
