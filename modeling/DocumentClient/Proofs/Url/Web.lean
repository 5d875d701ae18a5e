import DocumentClient.Proofs.Except
import DocumentClient.Proofs.Url.Segments

namespace DocumentClient.Url

open Text DocumentClient.Url.Path

namespace Reader

@[simp] theorem front_withTail (u : Url) (s : List Char) : (withTail u s).front = u.front := rfl

@[simp] theorem path_withTail (u : Url) (s : List Char) : (withTail u s).path = u.path := rfl

theorem eq_nil_of_withTail {u : Url} {s : List Char} (hs : ∀ c ∈ s.head?, isTail c = true)
    (hquery : (withTail u s).query = none) (hfragment : (withTail u s).fragment = none) :
    s = [] := by
  cases s with
  | nil => rfl
  | cons c s =>
    have hc : c = '?' ∨ c = '#' := by simpa [isTail] using hs c rfl
    rcases hc with rfl | rfl
    · cases hquery
    · cases hfragment

theorem suffix_of_scheme? {s rest : List Char} {scheme : String}
    (h : scheme? s = some (scheme, rest)) : rest <:+ s := by
  rw [scheme?] at h
  split at h
  · split at h
    · next tail htail =>
      cases h
      exact (List.suffix_cons ':' _).trans (htail ▸ List.dropWhile_suffix isSchemeChar)
    · cases h
  · cases h

theorem scheme_of_fileAfterSlashes {raw : List Char} {u : Url}
    (h : fileAfterSlashes raw = .ok u) : u.scheme = "file" := by
  obtain ⟨⟨host, rest⟩, -, h⟩ := bind_eq_ok_iff.1 h
  by_cases hhost : host = .none
  · simp only [if_pos hhost] at h
    cases h
    rfl
  · simp only [if_neg hhost] at h
    cases h
    rfl

theorem scheme_of_file {raw : List Char} {u : Url} (h : file none raw = .ok u) :
    u.scheme = "file" := by
  unfold file at h
  split at h
  · cases h
    rfl
  · next hbase => cases hbase
  · split at h
    · split at h
      · split at h
        · exact scheme_of_fileAfterSlashes h
        · cases h
          rfl
      · cases h
        rfl
    · cases h
      rfl

theorem afterSlashes_eq_ok {scheme : String} {s : List Char} {u : Url}
    (h : afterSlashes scheme s = .ok u) :
    ∃ a rest, authority scheme s = .ok (a, rest) ∧
      u = withTail
        { scheme, front := .authority a,
          path := String.ofList (pathAfter (kindOf scheme) (splitTail rest).1) }
        (splitTail rest).2 := by
  obtain ⟨⟨a, rest⟩, ha, h⟩ := bind_eq_ok_iff.1 h
  cases h
  exact ⟨a, rest, ha, rfl⟩

theorem scheme_of_withScheme {scheme : String} {s : List Char} {u : Url}
    (h : withScheme none scheme s = .ok u) : u.scheme = scheme := by
  have hafter : ∀ t, afterSlashes scheme t = .ok u → u.scheme = scheme := by
    intro t ht
    obtain ⟨a, rest, -, rfl⟩ := afterSlashes_eq_ok ht
    rfl
  unfold withScheme at h
  split at h
  · exact hafter _ h
  · split at h
    · exact hafter _ h
    · split at h
      · cases h
        rfl
      · cases h
        rfl

theorem exists_afterSlashes {raw : List Char} {u : Url} (h : read none raw = .ok u)
    (hkind : u.kind = .special) :
    ∃ s, s <:+ dropBreaks raw ∧ afterSlashes u.scheme s = .ok u := by
  unfold read at h
  split at h
  · next scheme rest hscheme =>
    split at h
    · rw [kind, scheme_of_file h] at hkind
      cases hkind
    · have hu := scheme_of_withScheme h
      rw [kind, hu] at hkind
      have hspecial : (kindOf scheme).isSpecial = true := by
        rw [hkind]
        rfl
      unfold withScheme at h
      rw [if_pos hspecial] at h
      refine ⟨dropSlashes rest, ?_, by rwa [hu]⟩
      exact (List.dropWhile_suffix _).trans (suffix_of_scheme? hscheme)
  · next hbase => cases hbase
  · cases h

theorem exists_rest_of_authority {scheme : String} {s rest : List Char} {a : Authority}
    (h : authority scheme s = .ok (a, rest)) :
    ∃ before, rest = before ++ s.dropWhile (!endsAuthority (kindOf scheme) ·) := by
  unfold authority at h
  dsimp only at h
  split at h
  · cases h
  · split at h
    · cases h
    ·
      split at h <;>
      · obtain ⟨host, -, h⟩ := bind_eq_ok_iff.1 h
        obtain ⟨⟨port, before⟩, -, h⟩ := bind_eq_ok_iff.1 h
        dsimp only at h
        split at h
        · cases h
        · cases h
          exact ⟨before, rfl⟩

theorem authority_nil {scheme : String} (h : kindOf scheme = .special) :
    authority scheme [] = .error .emptyHost := by
  simp [authority, splitUser, userInfo, splitPort, h, Kind.isSpecial]
  rfl

theorem rooted_pathAfter (s : List Char) : (pathAfter .special s).head? = some '/' := by
  cases s with
  | nil => rfl
  | cons c s => exact rooted_read rfl _

theorem closed_pathAfter {s : List Char} (h : Closes s) :
    (pathAfter .special s).getLast? = some '/' := by
  cases s with
  | nil => rfl
  | cons c s =>
    refine closed_read rfl rfl ?_
    split
    · exact h.of_suffix (List.suffix_cons c s)
    · exact h

theorem closes_of_authority {scheme : String} {s rest : List Char} {a : Authority}
    (hkind : kindOf scheme = .special) (h : authority scheme s = .ok (a, rest)) (hs : Closes s) :
    Closes rest := by
  obtain ⟨before, hrest⟩ := exists_rest_of_authority h
  rcases hs.eq_nil_or_concat with rfl | ⟨t, rfl⟩
  · rw [authority_nil hkind] at h
    cases h
  ·
    obtain ⟨u, hu⟩ :
        ∃ u, (t ++ ['/']).dropWhile (!endsAuthority (kindOf scheme) ·) = u ++ ['/'] := by
      rw [List.dropWhile_append]
      split
      · exact ⟨[], rfl⟩
      · exact ⟨_, rfl⟩
    rw [hrest, hu]
    intro c hc
    simpa [eq_comm] using hc

theorem closed_afterSlashes {scheme : String} {s : List Char} {u : Url}
    (hkind : kindOf scheme = .special) (h : afterSlashes scheme s = .ok u) (hs : Closes s)
    (hquery : u.query = none) (hfragment : u.fragment = none) :
    u.path.toList.getLast? = some '/' := by
  obtain ⟨a, rest, ha, rfl⟩ := afterSlashes_eq_ok h
  have hhead : ∀ c ∈ (splitTail rest).2.head?, isTail c = true := by
    intro c hc
    have hnot := not_of_mem_head?_dropWhile hc
    simpa using hnot
  have htail : (splitTail rest).2 = [] := eq_nil_of_withTail hhead hquery hfragment
  have hrest : (splitTail rest).1 = rest := by
    have happend : (splitTail rest).1 ++ (splitTail rest).2 = rest :=
      List.takeWhile_append_dropWhile
    rwa [htail, List.append_nil] at happend
  rw [path_withTail, String.toList_ofList, hkind, hrest]
  exact closed_pathAfter (closes_of_authority hkind ha hs)

end Reader

theorem isWeb_of_parse {s : String} {u : Url} (h : parse s = .ok u) (hkind : u.kind = .special) :
    u.IsWeb := by
  obtain ⟨t, -, ht⟩ := Reader.exists_afterSlashes h hkind
  obtain ⟨a, rest, -, hu⟩ := Reader.afterSlashes_eq_ok ht
  have hscheme : kindOf u.scheme = .special := hkind
  refine ⟨hkind, ⟨a, by rw [hu, Reader.front_withTail]⟩, ?_⟩
  rw [hu, Reader.path_withTail, String.toList_ofList, hscheme]
  exact Reader.rooted_pathAfter _

theorem closed_of_parse {s : String} {u : Url} (h : parse s = .ok u) (hkind : u.kind = .special)
    (hs : s.toList.getLast? = some '/') (hquery : u.query = none) (hfragment : u.fragment = none) :
    u.path.toList.getLast? = some '/' := by
  obtain ⟨t, hsuffix, ht⟩ := Reader.exists_afterSlashes h hkind
  have hcloses : Closes s.toList := by
    intro c hc
    rw [hs] at hc
    exact (Option.some.inj hc).symm
  have htrimmed : Closes (dropBreaks (Reader.trimmed s.toList)) :=
    (hcloses.strip rfl).filter rfl
  exact Reader.closed_afterSlashes hkind ht (htrimmed.of_suffix hsuffix) hquery hfragment

end DocumentClient.Url
