import DocumentClient.Proofs.Url.Joining
import DocumentClient.Proofs.Url.Web

namespace DocumentClient.Url

open Text

structure Server where
  scheme : String
  host : Option Host
  port : Option Nat
  deriving DecidableEq, Repr

def port? (u : Url) : Option Nat :=
  match u.front with
  | .authority a => a.port
  | _ => none

def server (u : Url) : Server := { scheme := u.scheme, host := u.host?, port := u.port? }

theorem server_congr {u v : Url} (hscheme : u.scheme = v.scheme) (hfront : u.front = v.front) :
    u.server = v.server := by
  simp only [server, host?, port?, hscheme, hfront]

namespace Reader

def hostText (s : List Char) : List Char :=
  (splitUser (s.takeWhile (!endsAuthority .special ·))).2

theorem mem_of_mem_splitUser {c : Char} {s : List Char} (h : c ∈ (splitUser s).2) : c ∈ s := by
  rw [splitUser] at h
  split at h
  · exact List.mem_reverse.1 ((List.takeWhile_prefix _).subset (List.mem_reverse.1 h))
  · exact h

theorem mem_of_mem_hostText {c : Char} {s : List Char} (h : c ∈ hostText s) : c ∈ s :=
  (List.takeWhile_prefix _).subset (mem_of_mem_splitUser h)

theorem splitPort_of_colon_not_mem {s : List Char} (h : ':' ∉ s) (bracketed : Bool) :
    splitPort bracketed s = (s, []) := by
  induction s generalizing bracketed with
  | nil => rfl
  | cons c s ih =>
    rw [List.mem_cons, not_or] at h
    have hc : ¬ (c = ':' ∧ !bracketed) := fun hc => h.1 hc.1.symm
    rw [splitPort, if_neg hc, ih h.2]

theorem host_of_authority {scheme : String} {s rest : List Char} {a : Authority}
    (hkind : kindOf scheme = .special) (hcolon : ':' ∉ s)
    (h : authority scheme s = .ok (a, rest)) :
    Host.parse (hostText s) = .ok a.host ∧ a.port = none := by
  have hport : splitPort false (hostText s) = (hostText s, []) :=
    splitPort_of_colon_not_mem (fun hmem => hcolon (mem_of_mem_hostText hmem)) false
  unfold authority at h
  dsimp only at h
  rw [hkind, ← hostText, hport] at h
  split at h
  · cases h
  · split at h
    · cases h
    · obtain ⟨host, hhost, h⟩ := bind_eq_ok_iff.1 h
      obtain ⟨⟨port, before⟩, hnone, h⟩ := bind_eq_ok_iff.1 h
      cases hnone
      dsimp only at h
      split at h
      · cases h
      · cases h
        exact ⟨hhost, rfl⟩

theorem server_of_afterSlashes {scheme : String} {s : List Char} {u : Url}
    (hkind : kindOf scheme = .special) (hcolon : ':' ∉ s) (h : afterSlashes scheme s = .ok u) :
    ∃ host, Host.parse (hostText s) = .ok host ∧
      u.server = { scheme, host := some host, port := none } := by
  obtain ⟨a, rest, ha, rfl⟩ := afterSlashes_eq_ok h
  obtain ⟨hhost, hport⟩ := host_of_authority hkind hcolon ha
  exact ⟨a.host, hhost, by rw [← hport]; rfl⟩

theorem isMargin_of_isLineBreak {c : Char} (h : isLineBreak c = true) : isMargin c = true := by
  simp only [isLineBreak, Bool.or_eq_true, decide_eq_true_eq] at h
  rcases h with (rfl | rfl) | rfl <;> rfl

theorem not_isMargin_of_isSlash {c : Char} (h : Path.isSlash .special c = true) :
    isMargin c = false := by
  simp only [Path.isSlash, Bool.or_eq_true, Bool.and_eq_true, decide_eq_true_eq] at h
  rcases h with rfl | ⟨rfl, -⟩ <;> rfl

theorem not_isLineBreak_of_isSlash {c : Char} (h : Path.isSlash .special c = true) :
    isLineBreak c = false := by
  rw [Bool.eq_false_iff]
  intro hbreak
  exact Bool.eq_false_iff.1 (not_isMargin_of_isSlash h) (isMargin_of_isLineBreak hbreak)

theorem two_le_slashCount_iff {s : List Char} :
    2 ≤ slashCount s ↔ ∃ c d rest, s = c :: d :: rest ∧
      Path.isSlash .special c = true ∧ Path.isSlash .special d = true := by
  match s with
  | [] => simp [slashCount]
  | [c] => by_cases hc : Path.isSlash .special c = true <;> simp [slashCount, hc]
  | c :: d :: rest =>
    by_cases hc : Path.isSlash .special c = true
    · by_cases hd : Path.isSlash .special d = true <;> simp [slashCount, hc, hd]
    · simp [slashCount, hc]

/-- Text in which two slashes of either kind are the first to count: margins may stand before them,
and line breaks between them. -/
inductive LeadsWithSlashes : List Char → Prop
  | intro {margins breaks rest : List Char} {c d : Char}
      (hmargins : ∀ x ∈ margins, isMargin x = true) (hbreaks : ∀ x ∈ breaks, isLineBreak x = true)
      (hc : Path.isSlash .special c = true) (hd : Path.isSlash .special d = true) :
      LeadsWithSlashes (margins ++ c :: (breaks ++ d :: rest))

theorem leadsWithSlashes_of_two_le_slashCount {s : List Char}
    (h : 2 ≤ slashCount (dropBreaks (trimmed s))) : LeadsWithSlashes s := by
  obtain ⟨c, d, t, hcounted, hc, hd⟩ := two_le_slashCount_iff.1 h
  obtain ⟨before, after, htrimmed, hbefore, -, hafter⟩ := List.filter_eq_cons_iff.1 hcounted
  obtain ⟨breaks, rest, rfl, hbreaks, -, -⟩ := List.filter_eq_cons_iff.1 hafter
  have hstrips : StripsTo isMargin s (before ++ c :: (breaks ++ d :: rest)) :=
    strip_eq_iff.1 htrimmed
  obtain rfl : before = [] := by
    cases before with
    | nil => rfl
    | cons b bs =>
      have hmargin := isMargin_of_isLineBreak (by simpa using hbefore b List.mem_cons_self)
      exact absurd hmargin (Bool.eq_false_iff.1 (hstrips.stripped.head b rfl))
  obtain ⟨margins, post, hmargins, -, rfl⟩ := hstrips.enclosed
  rw [List.nil_append, List.append_assoc, List.cons_append, List.append_assoc, List.cons_append]
  exact .intro hmargins (fun x hx => by simpa using hbreaks x hx) hc hd

theorem LeadsWithSlashes.two_le_slashCount {s : List Char} (h : LeadsWithSlashes s) :
    2 ≤ slashCount (dropBreaks (trimmed s)) := by
  obtain @⟨margins, breaks, rest, c, d, hmargins, hbreaks, hc, hd⟩ := h
  have hreverse : (c :: (breaks ++ d :: rest)).reverse =
      rest.reverse ++ d :: (breaks.reverse ++ [c]) := by simp
  have htrimmed : trimmed (margins ++ c :: (breaks ++ d :: rest)) =
      c :: (breaks ++ d :: (rest.reverse.dropWhile isMargin).reverse) := by
    rw [trimmed, strip, List.dropWhile_append_of_pos hmargins,
      List.dropWhile_cons_of_neg (by simp [not_isMargin_of_isSlash hc]), hreverse,
      dropWhile_append_cons (not_isMargin_of_isSlash hd)]
    simp
  have hnone : breaks.filter (!isLineBreak ·) = [] :=
    List.filter_eq_nil_iff.2 fun x hx => by simp [hbreaks x hx]
  rw [htrimmed, dropBreaks, List.filter_cons_of_pos (by simp [not_isLineBreak_of_isSlash hc]),
    List.filter_append, hnone, List.nil_append,
    List.filter_cons_of_pos (by simp [not_isLineBreak_of_isSlash hd])]
  exact two_le_slashCount_iff.2 ⟨c, d, _, rfl, hc, hd⟩

theorem leadsWithSlashes_iff {s : List Char} :
    LeadsWithSlashes s ↔ 2 ≤ slashCount (dropBreaks (trimmed s)) :=
  ⟨LeadsWithSlashes.two_le_slashCount, leadsWithSlashes_of_two_le_slashCount⟩

instance (s : List Char) : Decidable (LeadsWithSlashes s) :=
  decidable_of_iff _ leadsWithSlashes_iff.symm

def pastSlashes (s : List Char) : List Char :=
  if ['/', '/'].isPrefixOf s then s.drop 2 else dropSlashes s

theorem mem_of_mem_pastSlashes {c : Char} {s : List Char} (h : c ∈ pastSlashes s) : c ∈ s := by
  rw [pastSlashes] at h
  split at h
  · exact List.mem_of_mem_drop h
  · exact (List.dropWhile_suffix _).subset h

theorem relative_of_two_le_slashCount {base : Url} {s : List Char} (hcount : 2 ≤ slashCount s) :
    relative base s = afterSlashes base.scheme (pastSlashes s) := by
  obtain ⟨c, d, s, rfl, hslash, -⟩ := two_le_slashCount_iff.1 hcount
  have htail : c ≠ '?' ∧ c ≠ '#' := by
    constructor <;>
    · rintro rfl
      cases hslash
  unfold relative
  dsimp only
  rw [if_neg htail.1, if_neg htail.2, if_pos hslash, if_pos hcount]
  rfl

end Reader

theorem IsWeb.front_withPath {base : Url} (h : base.IsWeb) (done s : List Char) :
    (Reader.withPath base done s).front = base.front :=
  h.settle_eq _

theorem IsWeb.relative_of_slashCount_lt {base : Url} (h : base.IsWeb) {s : List Char}
    (hcount : Reader.slashCount s < 2) :
    ∃ u, Reader.relative base s = .ok u ∧ u.server = base.server := by
  cases s with
  | nil => exact ⟨_, rfl, rfl⟩
  | cons c s =>
    unfold Reader.relative
    dsimp only
    rw [if_neg (Nat.not_le.2 hcount)]
    split
    · exact ⟨_, rfl, server_congr rfl rfl⟩
    · split
      · exact ⟨_, rfl, server_congr rfl rfl⟩
      ·
        split <;> exact ⟨_, rfl, server_congr rfl (h.front_withPath _ _)⟩

theorem IsWeb.server_of_relative {base : Url} (h : base.IsWeb) {s : List Char} {u : Url}
    (hcolon : ':' ∉ s) (hcount : 2 ≤ Reader.slashCount s)
    (hu : Reader.relative base s = .ok u) :
    ∃ host, Host.parse (Reader.hostText (Reader.pastSlashes s)) = .ok host ∧
      u.server = { scheme := base.scheme, host := some host, port := none } := by
  rw [Reader.relative_of_two_le_slashCount hcount] at hu
  exact Reader.server_of_afterSlashes h.kind_eq
    (fun hmem => hcolon (Reader.mem_of_mem_pastSlashes hmem)) hu

end DocumentClient.Url
