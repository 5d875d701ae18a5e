import DocumentClient.Proofs.Config.Root

namespace DocumentClient

open Text Url

namespace Url

def descend (u : Url) (path : List Char) : Url := u.onPath (u.path.toList ++ path)

theorem text_descend {u : Url} (hquery : u.query = none) (hfragment : u.fragment = none)
    (path : String) : (u.descend path.toList).text = u.text ++ path := by
  have htail : u.tailChars = [] := tailChars_eq_nil_iff.2 ⟨hquery, hfragment⟩
  have hdescend : (u.descend path.toList).tailChars = [] :=
    tailChars_eq_nil_iff.2 ⟨hquery, hfragment⟩
  rw [← String.toList_inj, text, text, chars_eq, chars_eq, htail, hdescend]
  simp [descend, onPath]

theorem text_onPath_inj {u : Url} {p q : List Char} :
    (u.onPath p).text = (u.onPath q).text ↔ p = q := by
  rw [text, text, String.ofList_inj, chars_eq, chars_eq]
  simp [onPath, tailChars]

end Url

namespace Config

theorem closed_withSlash (raw : String) : (withSlash raw).toList.getLast? = some '/' := by
  unfold withSlash
  split
  · assumption
  · simp

/-- A root of the web that was taken from text, with nothing after its path and no empty segment
inside it. -/
structure PlainRoot (c : Config) : Prop where
  taken : ∃ raw d, withBaseUrl raw = .ok d ∧ c.baseUrl = d.baseUrl
  scheme : c.baseUrl.scheme = "http" ∨ c.baseUrl.scheme = "https"
  query : c.baseUrl.query = none
  fragment : c.baseUrl.fragment = none
  single : ¬ ['/', '/'] <:+: c.baseUrl.path.toList

theorem exists_plainRoot :
    ∃ c, withBaseUrl "https://docs.example.com/api/v1" = .ok c ∧ c.PlainRoot := by
  obtain ⟨c, hc⟩ : ∃ c, withBaseUrl "https://docs.example.com/api/v1" = .ok c := ⟨_, rfl⟩
  have hpath : c.baseUrl.path = "/api/v1/" := by
    cases hc
    rfl
  refine ⟨c, hc, ⟨_, c, hc, rfl⟩, ?_, ?_, ?_, ?_⟩
  · cases hc
    exact Or.inr rfl
  · cases hc
    rfl
  · cases hc
    rfl
  · rw [hpath]
    decide +kernel

namespace PlainRoot

variable {c : Config}

theorem exists_parse (h : c.PlainRoot) : ∃ raw, Url.parse (withSlash raw) = .ok c.baseUrl := by
  obtain ⟨raw, d, hd, heq⟩ := h.taken
  exact ⟨raw, heq ▸ parse_of_withBaseUrl hd⟩

theorem isWeb (h : c.PlainRoot) : c.baseUrl.IsWeb := by
  obtain ⟨raw, hraw⟩ := h.exists_parse
  exact isWeb_of_parse hraw (kind_of_scheme h.scheme)

theorem isRoot (h : c.PlainRoot) : c.baseUrl.IsRoot where
  closed := by
    obtain ⟨raw, hraw⟩ := h.exists_parse
    exact closed_of_parse hraw (kind_of_scheme h.scheme) (closed_withSlash raw) h.query h.fragment
  ne_two_slashes := by
    intro hpath
    apply h.single
    rw [hpath]
    exact List.infix_rfl
  query := h.query
  fragment := h.fragment

theorem segmentsEndpoint_id (h : c.PlainRoot) {name : String} (hname : PlainWord name.toList)
    (id : String) :
    c.segmentsEndpoint ["schemas", name, id] =
      .ok (c.baseUrl.onPath (opened (pushSegment .special
        (c.baseUrl.path.toList ++ "schemas".toList ++ '/' :: name.toList) id))) := by
  have hsplit : ["schemas", name, id] ++ [""] = ["schemas", name] ++ [id, ""] := rfl
  rw [segmentsEndpoint_eq h.isWeb, hsplit, List.foldl_append, foldl_pushSegment_schemas _ hname,
    (h.isRoot.path_eq h.isWeb).2, List.foldl_cons, List.foldl_cons, List.foldl_nil,
    pushSegment_empty]

end PlainRoot

end Config

end DocumentClient
