import DocumentClient.Proofs.Url.Path
import DocumentClient.Url.Reader
import DocumentClient.Url.Segments

namespace DocumentClient.Url

open Text

def isPlain (c : Char) : Bool := c.isAlphanum || c = '_'

structure Inert (c : Char) : Prop where
  not_slash : Path.isSlash .special c = false
  not_lineBreak : isLineBreak c = false
  not_margin : Reader.isMargin c = false
  not_tail : Reader.isTail c = false
  not_inPath : inPath c = false
  not_inSegment : inSpecialSegment c = false
  ne_dot : c ≠ '.'
  ne_colon : c ≠ ':'
  ne_bar : c ≠ '|'

theorem toNat_lt_of_isAlphanum {c : Char} (h : c.isAlphanum = true) : c.toNat < 128 := by
  have hval : c.toNat = c.val.toNat := rfl
  rcases Bool.or_eq_true_iff.1 h with halpha | hdigit
  · rcases Bool.or_eq_true_iff.1 halpha with hupper | hlower
    · have hle : c.val ≤ 'Z'.val := (of_decide_eq_true hupper).2
      have hZ : 'Z'.val.toNat = 90 := rfl
      have hnat := UInt32.le_iff_toNat_le.1 hle
      omega
    · have hle : c.val ≤ 'z'.val := of_decide_eq_true (Bool.and_eq_true_iff.1 hlower).2
      have hz : 'z'.val.toNat = 122 := rfl
      have hnat := UInt32.le_iff_toNat_le.1 hle
      omega
  · have hle : c.val ≤ '9'.val := of_decide_eq_true (Bool.and_eq_true_iff.1 hdigit).2
    have h9 : '9'.val.toNat = 57 := rfl
    have hnat := UInt32.le_iff_toNat_le.1 hle
    omega

theorem toNat_lt_of_isPlain {c : Char} (h : isPlain c = true) : c.toNat < 128 := by
  rw [isPlain, Bool.or_eq_true, decide_eq_true_eq] at h
  rcases h with halnum | rfl
  · exact toNat_lt_of_isAlphanum halnum
  · decide

theorem inert_of_isPlain {c : Char} (h : isPlain c = true) : Inert c := by
  have table : ∀ n < 128, isPlain (Char.ofNat n) = true →
      Path.isSlash .special (Char.ofNat n) = false ∧ isLineBreak (Char.ofNat n) = false ∧
        Reader.isMargin (Char.ofNat n) = false ∧ Reader.isTail (Char.ofNat n) = false ∧
        inPath (Char.ofNat n) = false ∧ inSpecialSegment (Char.ofNat n) = false ∧
        Char.ofNat n ≠ '.' ∧ Char.ofNat n ≠ ':' ∧ Char.ofNat n ≠ '|' := by decide
  have hc := table c.toNat (toNat_lt_of_isPlain h)
  rw [Char.ofNat_toNat] at hc
  obtain ⟨hslash, hbreak, hmargin, htail, hpath, hsegment, hdot, hcolon, hbar⟩ := hc h
  exact ⟨hslash, hbreak, hmargin, htail, hpath, hsegment, hdot, hcolon, hbar⟩

def PlainWord (s : List Char) : Prop := ∀ c ∈ s, isPlain c = true

namespace PlainWord

variable {s : List Char}

theorem of_all (h : s.all isPlain = true) : PlainWord s := List.all_eq_true.1 h

theorem dropBreaks_eq (h : PlainWord s) : dropBreaks s = s :=
  dropBreaks_of_forall fun c hc => (inert_of_isPlain (h c hc)).not_lineBreak

theorem encode_inPath (h : PlainWord s) : Percent.encode inPath s = s :=
  Percent.encode_of_forall fun c hc => (inert_of_isPlain (h c hc)).not_inPath

theorem encode_inSegment (h : PlainWord s) : Percent.encode inSpecialSegment s = s :=
  Percent.encode_of_forall fun c hc => (inert_of_isPlain (h c hc)).not_inSegment

theorem ne_of_dot_mem {t : List Char} (h : PlainWord s) (ht : '.' ∈ t) : s ≠ t := by
  rintro rfl
  exact (inert_of_isPlain (h '.' ht)).ne_dot rfl

theorem not_isDot (h : PlainWord s) : Path.isDot s = false := by
  rw [Bool.eq_false_iff]
  intro hdot
  rw [← h.encode_inSegment] at hdot
  exact h.ne_of_dot_mem (by simp) (Path.eq_of_isDot_encode rfl hdot)

theorem not_isDoubleDot (h : PlainWord s) : Path.isDoubleDot s = false := by
  rw [Bool.eq_false_iff]
  intro hdot
  rw [← h.encode_inSegment] at hdot
  exact h.ne_of_dot_mem (by simp) (Path.eq_of_isDoubleDot_encode rfl hdot)

theorem slash_not_mem (h : PlainWord s) : '/' ∉ s := by
  intro hmem
  have hslash := (inert_of_isPlain (h '/' hmem)).not_slash
  cases hslash

theorem not_leadsWithDrive (h : PlainWord s) : Path.leadsWithDrive s = false := by
  rw [Path.leadsWithDrive, Bool.and_eq_false_iff]
  left
  match s with
  | [] => rfl
  | [_] => rfl
  | c :: d :: rest =>
    have hd := inert_of_isPlain (h d (by simp))
    simp [Path.isDriveLetter, hd.ne_colon, hd.ne_bar]

end PlainWord

namespace Path

theorem lastSegment_append_plain {s : List Char} (h : PlainWord s) (before : List Char) :
    lastSegment (before ++ '/' :: s) = s := by
  have hslash : '/' ∉ s.reverse := fun hmem => h.slash_not_mem (List.mem_reverse.1 hmem)
  rw [lastSegment, List.reverse_append, List.reverse_cons, List.append_assoc,
    List.singleton_append, takeWhile_append_slash hslash, List.reverse_reverse]

theorem upToSlash_append_plain {s : List Char} (h : PlainWord s) (before : List Char) :
    upToSlash (before ++ '/' :: s) = before ++ ['/'] := by
  have happend := upToSlash_append_lastSegment (before ++ '/' :: s)
  rw [lastSegment_append_plain h] at happend
  refine List.append_cancel_right (?_ : _ ++ s = _ ++ s)
  rw [happend]
  simp

theorem reopen_append_plain {s : List Char} (h : PlainWord s) (before : List Char) :
    reopen (before ++ '/' :: s ++ ['/']) = before ++ '/' :: s := by
  have hmem : '/' ∈ before ++ '/' :: s := by simp
  have hdrive : leadsWithDrive (lastSegment (before ++ '/' :: s)) = false := by
    rw [lastSegment_append_plain h]
    exact h.not_leadsWithDrive
  rw [reopen, List.dropLast_concat, List.getLast?_concat]
  exact if_pos ⟨rfl, hmem, by simp [hdrive]⟩

theorem Walk.enter_of_not_dots {s : List Char} (hdot : isDot s = false)
    (hdots : isDoubleDot s = false) (w : Walk) (closed : Bool) :
    w.enter .special s closed = w.add s closed := by
  simp [enter, hdot, hdots]

theorem Walk.step_plain {s : List Char} (h : PlainWord s) (w : Walk) (closed : Bool) :
    w.step .special inPath s closed = w.add s closed := by
  rw [step_special, h.dropBreaks_eq, h.encode_inPath,
    enter_of_not_dots h.not_isDot h.not_isDoubleDot]

theorem Walk.steps_plain {segments : List (List Char)} (hne : segments ≠ [])
    (h : ∀ s ∈ segments, PlainWord s) (w : Walk) :
    (w.steps .special segments).text = w.text ++ ['/'].intercalate segments := by
  induction segments generalizing w with
  | nil => exact absurd rfl hne
  | cons s rest ih =>
    cases rest with
    | nil => simp [steps, step_plain (h s (by simp)), add]
    | cons t ts =>
      rw [steps_cons .special w s (by simp), step_plain (h s (by simp)),
        ih (by simp) fun u hu => h u (by simp [hu]), List.intercalate_cons_cons]
      simp [add]

theorem splitOnP_plain {segments : List (List Char)} (hne : segments ≠ [])
    (h : ∀ s ∈ segments, PlainWord s) :
    (['/'].intercalate segments).splitOnP (isSlash .special) = segments := by
  induction segments with
  | nil => exact absurd rfl hne
  | cons s rest ih =>
    have hs : ∀ c ∈ s, isSlash .special c = false := fun c hc =>
      (inert_of_isPlain (h s (by simp) c hc)).not_slash
    cases rest with
    | nil => simpa using List.splitOnP_eq_singleton hs
    | cons t ts =>
      rw [List.intercalate_cons_cons, List.append_assoc, List.singleton_append,
        List.splitOnP_append_cons_of_forall_mem hs '/' (by decide),
        ih (by simp) fun u hu => h u (by simp [hu])]

theorem read_plain {segments : List (List Char)} (hne : segments ≠ [])
    (h : ∀ s ∈ segments, PlainWord s) (done : List Char) :
    (read .special done (['/'].intercalate segments)).text =
      done ++ ['/'].intercalate segments := by
  rw [read_special, splitOnP_plain hne h, Walk.steps_plain hne h]

end Path

end DocumentClient.Url
