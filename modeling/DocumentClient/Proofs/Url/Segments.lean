import DocumentClient.Proofs.Url.Plain

namespace DocumentClient.Url

open Text

structure IsWeb (u : Url) : Prop where
  kind_eq : u.kind = .special
  hasAuthority : ∃ a, u.front = .authority a
  rooted : u.path.toList.head? = some '/'

theorem IsWeb.not_isOpaque {u : Url} (h : u.IsWeb) : u.isOpaque = false := by
  obtain ⟨a, ha⟩ := h.hasAuthority
  simp [isOpaque, ha]

def opened (path : List Char) : List Char := if path.length = 1 then path else path ++ ['/']

theorem opened_of_one_lt {path : List Char} (h : 1 < path.length) : opened path = path ++ ['/'] :=
  if_neg (by omega)

theorem pushSegment_dots {s : String} (h : s = "." ∨ s = "..") (kind : Kind) (path : List Char) :
    pushSegment kind path s = path := if_pos h

theorem pushSegment_special {s : String} (h : ¬ (s = "." ∨ s = "..")) (path : List Char) :
    pushSegment .special path s =
      (Path.Walk.enter .special { text := opened path }
        (Percent.encode inSpecialSegment (dropBreaks s.toList)) false).text := by
  rw [pushSegment, if_neg h]
  simp [Path.Walk.trimRoot, Path.Walk.step_special, opened, inAddedSegment, Kind.isSpecial]

section

variable {s : String} {path : List Char}

theorem pushSegment_of_dropBreaks_dots (h : ¬ (s = "." ∨ s = ".."))
    (hs : dropBreaks s.toList = ['.', '.']) :
    pushSegment .special path s = Path.upToSlash (Path.reopen (opened path)) := by
  rw [pushSegment_special h, hs]
  rfl

theorem pushSegment_of_dropBreaks_dot (h : ¬ (s = "." ∨ s = ".."))
    (hs : dropBreaks s.toList = ['.']) :
    pushSegment .special path s = Path.close (opened path) := by
  rw [pushSegment_special h, hs]
  rfl

theorem pushSegment_of_ne (hdot : dropBreaks s.toList ≠ ['.'])
    (hdots : dropBreaks s.toList ≠ ['.', '.']) :
    pushSegment .special path s =
      opened path ++ Percent.encode inSpecialSegment (dropBreaks s.toList) := by
  have hne : ¬ (s = "." ∨ s = "..") := by
    rintro (rfl | rfl)
    · exact hdot rfl
    · exact hdots rfl
  have hdot' : Path.isDot (Percent.encode inSpecialSegment (dropBreaks s.toList)) = false :=
    Bool.eq_false_iff.2 fun h => hdot (Path.eq_of_isDot_encode rfl h)
  have hdots' : Path.isDoubleDot (Percent.encode inSpecialSegment (dropBreaks s.toList)) = false :=
    Bool.eq_false_iff.2 fun h => hdots (Path.eq_of_isDoubleDot_encode rfl h)
  rw [pushSegment_special hne, Path.Walk.enter_of_not_dots hdot' hdots']
  simp [Path.Walk.add]

theorem pushSegment_plain (h : PlainWord s.toList) :
    pushSegment .special path s = opened path ++ s.toList := by
  have hdot : dropBreaks s.toList ≠ ['.'] := by
    rw [h.dropBreaks_eq]
    exact h.ne_of_dot_mem (by simp)
  have hdots : dropBreaks s.toList ≠ ['.', '.'] := by
    rw [h.dropBreaks_eq]
    exact h.ne_of_dot_mem (by simp)
  rw [pushSegment_of_ne hdot hdots, h.dropBreaks_eq, h.encode_inSegment]

end

def onPath (u : Url) (path : List Char) : Url := { u with path := String.ofList path }

theorem IsWeb.addSegments_eq {u : Url} (h : u.IsWeb) (segments : List String) :
    u.addSegments segments =
      some (u.onPath (segments.foldl (pushSegment .special) (dropEndSlash u.path.toList))) := by
  rw [addSegments, h.not_isOpaque, h.kind_eq]
  rfl

def beneath (path : List Char) : List Char := opened (dropEndSlash path)

theorem beneath_two_slashes : beneath ['/', '/'] = ['/'] := rfl

theorem beneath_of_closed {path : List Char} (hroot : path.head? = some '/')
    (hend : path.getLast? = some '/') (hne : path ≠ ['/', '/']) : beneath path = path := by
  obtain ⟨start, rfl⟩ := List.getLast?_eq_some_iff.1 hend
  cases start with
  | nil => rfl
  | cons c start =>
    have hlength : (c :: start).length ≠ 1 := by
      intro h
      obtain rfl : start = [] := by simpa using h
      exact hne (by simpa using hroot)
    have hdrop : dropEndSlash (c :: start ++ ['/']) = c :: start := by
      rw [dropEndSlash, if_pos ⟨by simp, hend⟩, List.dropLast_concat]
    rw [beneath, hdrop, opened, if_neg hlength]

theorem beneath_of_not_closed {path : List Char} (hroot : path.head? = some '/')
    (hend : path.getLast? ≠ some '/') : beneath path = path ++ ['/'] := by
  have hlength : path.length ≠ 1 := by
    intro h
    obtain ⟨c, rfl⟩ := List.length_eq_one_iff.1 h
    exact hend (by simpa using hroot)
  simp [beneath, dropEndSlash, hend, opened, hlength]

section

variable {before name : List Char} {id : String}

theorem opened_append_cons (hbefore : before ≠ []) :
    opened (before ++ '/' :: name) = before ++ '/' :: name ++ ['/'] := by
  apply opened_of_one_lt
  have hpos := List.length_pos_iff.2 hbefore
  rw [List.length_append, List.length_cons]
  omega

theorem pushSegment_empty (path : List Char) : pushSegment .special path "" = opened path := by
  rw [pushSegment_plain (by simp [PlainWord])]
  simp

theorem pushSegment_broken_dots (hbefore : before ≠ []) (hname : PlainWord name)
    (hid : ¬ (id = "." ∨ id = "..")) (hdots : dropBreaks id.toList = ['.', '.']) :
    pushSegment .special (before ++ '/' :: name) id = before ++ ['/'] := by
  rw [pushSegment_of_dropBreaks_dots hid hdots, opened_append_cons hbefore,
    Path.reopen_append_plain hname, Path.upToSlash_append_plain hname]

def idSegment (id : String) : List Char :=
  if dropBreaks id.toList = ['.'] then []
  else Percent.encode inSpecialSegment (dropBreaks id.toList)

theorem pushSegment_id (hbefore : before ≠ []) (hid : ¬ (id = "." ∨ id = ".."))
    (hdots : dropBreaks id.toList ≠ ['.', '.']) :
    pushSegment .special (before ++ '/' :: name) id =
      before ++ '/' :: name ++ '/' :: idSegment id := by
  rw [idSegment]
  split
  · next hdot =>
    have hclosed : Path.endsInSlash (before ++ '/' :: name ++ ['/']) = true := by
      rw [Path.endsInSlash, List.getLast?_concat]
      rfl
    rw [pushSegment_of_dropBreaks_dot hid hdot, opened_append_cons hbefore, Path.close,
      if_pos hclosed]
  · next hdot =>
    rw [pushSegment_of_ne hdot hdots, opened_append_cons hbefore]
    simp

end

end DocumentClient.Url
