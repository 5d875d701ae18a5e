import DocumentClient.Config
import DocumentClient.Proofs.Except
import DocumentClient.Proofs.Text.Digits

namespace DocumentClient

open Text

namespace Config

/-- A setting is the one to start with, unless its variable holds a text: then what the text
writes. -/
inductive SetFrom {α : Type} (start : α) (Writes : String → α → Prop) : Option String → α → Prop
  | unset : SetFrom start Writes none start
  | set {text : String} {x : α} : Writes text x → SetFrom start Writes (some text) x

inductive Slashed : String → String → Prop
  | closed (root : String) : Slashed (root ++ "/") (root ++ "/")
  | opened {text : String} : (∀ root, text ≠ root ++ "/") → Slashed text (text ++ "/")

def WritesBaseUrl (text : String) (u : Url) : Prop := ∃ s, Slashed text s ∧ Url.parse s = .ok u

def WritesTimeout (text : String) (n : UInt64) : Prop :=
  ∃ digits, IsNumeral digits ∧ (text.toList = digits ∨ text.toList = '+' :: digits) ∧
    ofDigits digits = n.toNat

def WritesOrderFormat (text : String) : OrderFormat → Prop
  | .pair => lowercase text.toList = "pair".toList
  | .clause => lowercase text.toList = "clause".toList

def WritesToken (text : String) (token : Option String) : Prop :=
  token = if text = "" then none else some text

structure Variable where
  key : String
  Accepts : String → Prop

namespace Variable

def Fits (v : Variable) (lookup : String → Option String) : Prop :=
  ∀ text ∈ lookup v.key, v.Accepts text

variable {α : Type} {v : Variable} {start x : α} {Writes : String → α → Prop}
  {read : Option String → Except ConfigError α} {lookup : String → Option String}

/-- `read` gives the setting of a variable where the variable fits, and names it where it does
not. -/
structure ReadBy (v : Variable) (start : α) (Writes : String → α → Prop)
    (read : Option String → Except ConfigError α) : Prop where
  unset : read none = .ok start
  set {text : String} {x : α} : read (some text) = .ok x ↔ Writes text x
  accepts {text : String} : v.Accepts text ↔ ∃ x, Writes text x
  key_of_error {raw : Option String} {e : ConfigError} : read raw = .error e → e.key = v.key

theorem ReadBy.eq_ok_iff (h : v.ReadBy start Writes read) {raw : Option String} :
    read raw = .ok x ↔ SetFrom start Writes raw x := by
  constructor
  · intro hx
    cases raw with
    | none =>
      rw [h.unset] at hx
      cases hx
      exact .unset
    | some text => exact .set (h.set.1 hx)
  · rintro (_ | hx)
    · exact h.unset
    · exact h.set.2 hx

theorem ReadBy.exists_iff (h : v.ReadBy start Writes read) :
    (∃ x, read (lookup v.key) = .ok x) ↔ v.Fits lookup := by
  rw [Fits]
  cases lookup v.key with
  | none => simp [h.unset]
  | some text => simp [h.set, h.accepts]

theorem ReadBy.not_fits (h : v.ReadBy start Writes read) {e : ConfigError}
    (he : read (lookup v.key) = .error e) : ¬ v.Fits lookup := by
  rw [← h.exists_iff]
  rintro ⟨x, hx⟩
  rw [he] at hx
  cases hx

end Variable

def urlVariable : Variable where
  key := "DOCSTORE_URL"
  Accepts text := ∃ s u, Slashed text s ∧ Url.parse s = .ok u

def timeoutVariable : Variable where
  key := "DOCSTORE_TIMEOUT_SECONDS"
  Accepts text := ∃ digits, IsNumeral digits ∧
    (text.toList = digits ∨ text.toList = '+' :: digits) ∧ ofDigits digits < 2 ^ 64

def orderFormatVariable : Variable where
  key := "DOCSTORE_ORDER_FORMAT"
  Accepts text := lowercase text.toList = "pair".toList ∨ lowercase text.toList = "clause".toList

@[simp] theorem key_urlVariable : urlVariable.key = urlKey := rfl

@[simp] theorem key_timeoutVariable : timeoutVariable.key = timeoutKey := rfl

@[simp] theorem key_orderFormatVariable : orderFormatVariable.key = orderFormatKey := rfl

section

variable {s digits : List Char} {text : String} {n : UInt64}

theorem getLast?_eq_slash_iff : text.toList.getLast? = some '/' ↔ ∃ root, text = root ++ "/" := by
  rw [List.getLast?_eq_some_iff]
  constructor
  · rintro ⟨root, hroot⟩
    exact ⟨String.ofList root, String.toList_injective (by simp [hroot])⟩
  · rintro ⟨root, rfl⟩
    exact ⟨root.toList, by simp⟩

theorem slashed_iff {s : String} : Slashed text s ↔ withSlash text = s := by
  constructor
  · rintro (root | hopen)
    · exact if_pos (getLast?_eq_slash_iff.2 ⟨root, rfl⟩)
    · refine if_neg fun hend => ?_
      obtain ⟨root, hroot⟩ := getLast?_eq_slash_iff.1 hend
      exact hopen root hroot
  · rintro rfl
    rw [withSlash]
    split
    · next hend =>
      obtain ⟨root, rfl⟩ := getLast?_eq_slash_iff.1 hend
      exact .closed root
    · next hopen =>
      exact .opened fun root hroot => hopen (getLast?_eq_slash_iff.2 ⟨root, hroot⟩)

theorem readBy_baseUrlOf : urlVariable.ReadBy standard.baseUrl WritesBaseUrl baseUrlOf where
  unset := rfl
  set := by
    intro text u
    rw [baseUrlOf, parseBase, mapError_eq_ok_iff, WritesBaseUrl]
    simp [slashed_iff]
  accepts := exists_comm
  key_of_error := by
    intro raw e h
    cases raw with
    | none => cases h
    | some text =>
      obtain ⟨cause, -, rfl⟩ := mapError_eq_error_iff.1 h
      rfl

def unsigned : List Char → List Char
  | '+' :: ds => ds
  | ds => ds

theorem unsigned_cases (s : List Char) : s = unsigned s ∨ s = '+' :: unsigned s := by
  fun_cases unsigned s
  · exact Or.inr rfl
  · exact Or.inl rfl

theorem unsigned_of_isNumeral (h : IsNumeral s) : unsigned s = s := by
  rcases unsigned_cases s with hs | hs
  · exact hs.symm
  · have hsign : Char.isDigit '+' = true := h.2 '+' (by rw [hs]; simp)
    cases hsign

theorem unsigned_eq (h : IsNumeral digits) (hs : s = digits ∨ s = '+' :: digits) :
    unsigned s = digits := by
  rcases hs with rfl | rfl
  · exact unsigned_of_isNumeral h
  · rfl

theorem ofNat_eq_some_iff {m : Nat} :
    (if m < UInt64.size then some (UInt64.ofNat m) else none) = some n ↔ m = n.toNat := by
  constructor
  · intro h
    split at h
    · next hm =>
      cases h
      exact (UInt64.toNat_ofNat_of_lt hm).symm
    · cases h
  · rintro rfl
    rw [if_pos n.toNat_lt, UInt64.ofNat_toNat]

theorem readSeconds_eq_some_iff : readSeconds text = some n ↔ WritesTimeout text n := by
  have hread : readSeconds text = (wholeNumber? (unsigned text.toList)).bind fun m =>
      if m < UInt64.size then some (UInt64.ofNat m) else none := rfl
  rw [hread, Option.bind_eq_some_iff]
  simp only [wholeNumber?_eq_some_iff, ofNat_eq_some_iff]
  constructor
  · rintro ⟨m, ⟨hdigits, rfl⟩, hm⟩
    exact ⟨_, hdigits, unsigned_cases _, hm⟩
  · rintro ⟨digits, hdigits, htext, hn⟩
    obtain rfl := unsigned_eq hdigits htext
    exact ⟨_, ⟨hdigits, rfl⟩, hn⟩

theorem exists_writesTimeout_iff :
    (∃ n, WritesTimeout text n) ↔ timeoutVariable.Accepts text := by
  constructor
  · rintro ⟨n, digits, hdigits, htext, hn⟩
    exact ⟨digits, hdigits, htext, hn ▸ n.toNat_lt⟩
  · rintro ⟨digits, hdigits, htext, hlt⟩
    exact ⟨_, digits, hdigits, htext, (UInt64.toNat_ofNat_of_lt hlt).symm⟩

theorem readBy_timeoutOf : timeoutVariable.ReadBy 30 WritesTimeout timeoutOf where
  unset := rfl
  set := by
    intro text n
    rw [← readSeconds_eq_some_iff, timeoutOf]
    cases readSeconds text <;> simp
  accepts := exists_writesTimeout_iff.symm
  key_of_error := by
    intro raw e h
    cases raw with
    | none => cases h
    | some text =>
      rw [timeoutOf] at h
      split at h <;> cases h
      rfl

theorem ofText?_eq_some_iff {f : OrderFormat} :
    OrderFormat.ofText? text = some f ↔ WritesOrderFormat text f := by
  have hne : "pair".toList ≠ "clause".toList := by decide
  rw [OrderFormat.ofText?]
  cases f with
  | pair =>
    refine ⟨fun h => ?_, fun h => if_pos h⟩
    split at h
    · next hpair => exact hpair
    · split at h <;> cases h
  | clause =>
    refine ⟨fun h => ?_, fun h => ?_⟩
    · split at h
      · cases h
      · split at h
        · next hclause => exact hclause
        · cases h
    · exact (if_neg fun hpair => hne (hpair.symm.trans h)).trans (if_pos h)

theorem exists_writesOrderFormat_iff :
    (∃ f, WritesOrderFormat text f) ↔ orderFormatVariable.Accepts text := by
  constructor
  · rintro ⟨_ | _, h⟩
    · exact Or.inl h
    · exact Or.inr h
  · rintro (h | h)
    · exact ⟨.pair, h⟩
    · exact ⟨.clause, h⟩

theorem readBy_orderFormatOf :
    orderFormatVariable.ReadBy .pair WritesOrderFormat orderFormatOf where
  unset := rfl
  set := by
    intro text f
    rw [← ofText?_eq_some_iff, orderFormatOf]
    cases OrderFormat.ofText? text <;> simp
  accepts := exists_writesOrderFormat_iff.symm
  key_of_error := by
    intro raw e h
    cases raw with
    | none => cases h
    | some text =>
      rw [orderFormatOf] at h
      split at h <;> cases h
      rfl

theorem tokenOf_eq_iff {raw token : Option String} :
    tokenOf raw = token ↔ SetFrom none WritesToken raw token := by
  have htoken : ∀ text, tokenOf (some text) = if text = "" then none else some text := by
    simp [tokenOf, Option.filter_some]
  constructor
  · rintro rfl
    cases raw with
    | none => exact .unset
    | some text => exact .set (htoken text)
  · rintro (_ | h)
    · rfl
    · rw [htoken, h]

end

def checked : List Variable := [urlVariable, timeoutVariable, orderFormatVariable]

theorem forall_checked {P : Variable → Prop} :
    (∀ v ∈ checked, P v) ↔ P urlVariable ∧ P timeoutVariable ∧ P orderFormatVariable := by
  simp [checked]

section

variable {lookup other : String → Option String} {c : Config} {e : ConfigError}

theorem ofVariables_eq_ok_iff :
    ofVariables lookup = .ok c ↔
      baseUrlOf (lookup urlKey) = .ok c.baseUrl ∧ tokenOf (lookup tokenKey) = c.token ∧
        timeoutOf (lookup timeoutKey) = .ok c.timeoutSeconds ∧
        orderFormatOf (lookup orderFormatKey) = .ok c.orderFormat := by
  rw [ofVariables]
  simp only [bind_eq_ok_iff]
  constructor
  · rintro ⟨u, hu, n, hn, f, hf, h⟩
    cases h
    exact ⟨hu, rfl, hn, hf⟩
  · rintro ⟨hu, htoken, hn, hf⟩
    refine ⟨_, hu, _, hn, _, hf, ?_⟩
    rw [htoken]
    rfl

theorem parse_standard : Url.parse "http://localhost:8000/api/v1/" = .ok standard.baseUrl := rfl

theorem ofVariables_eq_error_iff :
    ofVariables lookup = .error e ↔
      baseUrlOf (lookup urlKey) = .error e ∨
        ∃ u, baseUrlOf (lookup urlKey) = .ok u ∧ (timeoutOf (lookup timeoutKey) = .error e ∨
          ∃ n, timeoutOf (lookup timeoutKey) = .ok n ∧
            orderFormatOf (lookup orderFormatKey) = .error e) := by
  rw [ofVariables]
  simp only [bind_eq_error_iff]
  simp [pure, Except.pure]

theorem exists_ofVariables_iff :
    (∃ c, ofVariables lookup = .ok c) ↔ ∀ v ∈ checked, v.Fits lookup := by
  rw [forall_checked, ← readBy_baseUrlOf.exists_iff, ← readBy_timeoutOf.exists_iff,
    ← readBy_orderFormatOf.exists_iff]
  constructor
  · rintro ⟨c, h⟩
    obtain ⟨hu, -, hn, hf⟩ := ofVariables_eq_ok_iff.1 h
    exact ⟨⟨_, hu⟩, ⟨_, hn⟩, ⟨_, hf⟩⟩
  · rintro ⟨⟨u, hu⟩, ⟨n, hn⟩, ⟨f, hf⟩⟩
    exact ⟨⟨u, tokenOf (lookup tokenKey), n, f⟩, ofVariables_eq_ok_iff.2 ⟨hu, rfl, hn, hf⟩⟩

theorem first_fault_of_error (h : ofVariables lookup = .error e) :
    ∃ before v after, checked = before ++ v :: after ∧ e.key = v.key ∧
      (∀ w ∈ before, w.Fits lookup) ∧ ¬ v.Fits lookup ∧
      ∀ other : String → Option String,
        (∀ w ∈ before ++ [v], other w.key = lookup w.key) → ofVariables other = .error e := by
  rcases ofVariables_eq_error_iff.1 h with hu | ⟨u, hu, hn | ⟨n, hn, hf⟩⟩
  · refine ⟨[], urlVariable, _, rfl, readBy_baseUrlOf.key_of_error hu, by simp,
      readBy_baseUrlOf.not_fits hu, fun other hsame => ofVariables_eq_error_iff.2 ?_⟩
    have hurl : other urlKey = lookup urlKey := by simpa using hsame
    rw [hurl]
    exact Or.inl hu
  · have hfits : urlVariable.Fits lookup := readBy_baseUrlOf.exists_iff.1 ⟨u, hu⟩
    refine ⟨[urlVariable], timeoutVariable, _, rfl, readBy_timeoutOf.key_of_error hn,
      by simpa using hfits, readBy_timeoutOf.not_fits hn,
      fun other hsame => ofVariables_eq_error_iff.2 ?_⟩
    obtain ⟨hurl, htimeout⟩ : other urlKey = lookup urlKey ∧
        other timeoutKey = lookup timeoutKey := by simpa using hsame
    rw [hurl, htimeout]
    exact Or.inr ⟨u, hu, Or.inl hn⟩
  · have hfits : urlVariable.Fits lookup ∧ timeoutVariable.Fits lookup :=
      ⟨readBy_baseUrlOf.exists_iff.1 ⟨u, hu⟩, readBy_timeoutOf.exists_iff.1 ⟨n, hn⟩⟩
    refine ⟨[urlVariable, timeoutVariable], orderFormatVariable, _, rfl,
      readBy_orderFormatOf.key_of_error hf, by simpa using hfits,
      readBy_orderFormatOf.not_fits hf, fun other hsame => ofVariables_eq_error_iff.2 ?_⟩
    obtain ⟨hurl, htimeout, hformat⟩ : other urlKey = lookup urlKey ∧
        other timeoutKey = lookup timeoutKey ∧ other orderFormatKey = lookup orderFormatKey := by
      simpa using hsame
    rw [hurl, htimeout, hformat]
    exact Or.inr ⟨u, hu, Or.inr ⟨n, hn, hf⟩⟩

theorem exists_first_fault (h : ¬ ∀ v ∈ checked, v.Fits lookup) :
    ∃ e before v after, ofVariables lookup = .error e ∧
      checked = before ++ v :: after ∧ e.key = v.key ∧
      (∀ w ∈ before, w.Fits lookup) ∧ ¬ v.Fits lookup ∧
      ∀ other : String → Option String,
        (∀ w ∈ before ++ [v], other w.key = lookup w.key) → ofVariables other = .error e := by
  cases hload : ofVariables lookup with
  | ok c => exact absurd (exists_ofVariables_iff.1 ⟨c, hload⟩) h
  | error e =>
    obtain ⟨before, v, after, hfault⟩ := first_fault_of_error hload
    exact ⟨e, before, v, after, rfl, hfault⟩

theorem ofVariables_congr (hchecked : ∀ v ∈ checked, other v.key = lookup v.key)
    (htoken : tokenOf (other tokenKey) = tokenOf (lookup tokenKey)) :
    ofVariables other = ofVariables lookup := by
  obtain ⟨hurl, htimeout, hformat⟩ : other urlKey = lookup urlKey ∧
      other timeoutKey = lookup timeoutKey ∧ other orderFormatKey = lookup orderFormatKey :=
    forall_checked.1 hchecked
  rw [ofVariables, ofVariables, hurl, htoken, htimeout, hformat]

theorem settings_apart {c' : Config} (h : ofVariables lookup = .ok c)
    (h' : ofVariables other = .ok c') :
    (other urlKey = lookup urlKey → c'.baseUrl = c.baseUrl) ∧
      (other tokenKey = lookup tokenKey → c'.token = c.token) ∧
      (other timeoutKey = lookup timeoutKey → c'.timeoutSeconds = c.timeoutSeconds) ∧
      (other orderFormatKey = lookup orderFormatKey → c'.orderFormat = c.orderFormat) := by
  obtain ⟨hurl, htoken, htimeout, hformat⟩ := ofVariables_eq_ok_iff.1 h
  obtain ⟨hurl', htoken', htimeout', hformat'⟩ := ofVariables_eq_ok_iff.1 h'
  refine ⟨fun hsame => ?_, fun hsame => ?_, fun hsame => ?_, fun hsame => ?_⟩
  · rw [hsame, hurl] at hurl'
    exact (Except.ok.inj hurl').symm
  · rw [← htoken', hsame, htoken]
  · rw [hsame, htimeout] at htimeout'
    exact (Except.ok.inj htimeout').symm
  · rw [hsame, hformat] at hformat'
    exact (Except.ok.inj hformat').symm

end

/-- Loading succeeds just if every variable fits, and otherwise names the first that does not; each
setting is that of its own variable, whatever the others hold. -/
theorem ofVariables_own_variables (lookup : String → Option String) :
    ((∃ c, ofVariables lookup = .ok c) ↔ ∀ v ∈ checked, v.Fits lookup) ∧
    (¬ (∀ v ∈ checked, v.Fits lookup) →
      ∃ e before v after, ofVariables lookup = .error e ∧
        checked = before ++ v :: after ∧ e.key = v.key ∧
        (∀ w ∈ before, w.Fits lookup) ∧ ¬ v.Fits lookup ∧
        ∀ other : String → Option String,
          (∀ w ∈ before ++ [v], other w.key = lookup w.key) → ofVariables other = .error e) ∧
    (∃ start, Url.parse "http://localhost:8000/api/v1/" = .ok start ∧
      ∀ c, ofVariables lookup = .ok c ↔
        SetFrom start WritesBaseUrl (lookup "DOCSTORE_URL") c.baseUrl ∧
          SetFrom none WritesToken (lookup "DOCSTORE_TOKEN") c.token ∧
          SetFrom 30 WritesTimeout (lookup "DOCSTORE_TIMEOUT_SECONDS") c.timeoutSeconds ∧
          SetFrom .pair WritesOrderFormat (lookup "DOCSTORE_ORDER_FORMAT") c.orderFormat) ∧
    (∀ other c c', ofVariables lookup = .ok c → ofVariables other = .ok c' →
      (other "DOCSTORE_URL" = lookup "DOCSTORE_URL" → c'.baseUrl = c.baseUrl) ∧
      (other "DOCSTORE_TOKEN" = lookup "DOCSTORE_TOKEN" → c'.token = c.token) ∧
      (other "DOCSTORE_TIMEOUT_SECONDS" = lookup "DOCSTORE_TIMEOUT_SECONDS" →
        c'.timeoutSeconds = c.timeoutSeconds) ∧
      (other "DOCSTORE_ORDER_FORMAT" = lookup "DOCSTORE_ORDER_FORMAT" →
        c'.orderFormat = c.orderFormat)) ∧
    ∀ other : String → Option String,
      lookup "DOCSTORE_TOKEN" = some "" → other "DOCSTORE_TOKEN" = none →
      (∀ v ∈ checked, other v.key = lookup v.key) → ofVariables other = ofVariables lookup := by
  refine ⟨exists_ofVariables_iff, exists_first_fault, ⟨_, parse_standard, fun c => ?_⟩,
    fun other c c' => settings_apart, fun other hempty hunset hsame => ?_⟩
  · rw [ofVariables_eq_ok_iff, readBy_baseUrlOf.eq_ok_iff, tokenOf_eq_iff,
      readBy_timeoutOf.eq_ok_iff, readBy_orderFormatOf.eq_ok_iff]
    rfl
  · have htoken : tokenOf (other tokenKey) = tokenOf (lookup tokenKey) := by
      rw [tokenKey, hempty, hunset]
      rfl
    exact ofVariables_congr hsame htoken

theorem ofVariables_own_variables_docs :
    let good : String → Option String := fun key =>
      if key = "DOCSTORE_URL" then some "https://docs.example.com/api/v2"
      else if key = "DOCSTORE_TIMEOUT_SECONDS" then some "+0005"
      else if key = "DOCSTORE_ORDER_FORMAT" then some "CLAUSE" else some ""
    let bad : String → Option String := fun key =>
      if key = "DOCSTORE_TIMEOUT_SECONDS" then some "5s"
      else if key = "DOCSTORE_ORDER_FORMAT" then some "tuple" else none
    (∃ c, ofVariables good = .ok c ∧ c.baseUrl.text = "https://docs.example.com/api/v2/" ∧
      c.token = none ∧ c.timeoutSeconds = 5 ∧ c.orderFormat = .clause) ∧
    ∃ e before after, ofVariables bad = .error e ∧ e.key = "DOCSTORE_TIMEOUT_SECONDS" ∧
      checked = before ++ timeoutVariable :: after ∧ ∀ w ∈ before, w.Fits bad := by
  intro good bad
  constructor
  · obtain ⟨-, -, ⟨start, -, hsettings⟩, -, -⟩ := ofVariables_own_variables good
    obtain ⟨u, hu, htext⟩ : ∃ u, Url.parse "https://docs.example.com/api/v2/" = .ok u ∧
        u.text = "https://docs.example.com/api/v2/" := ⟨_, rfl, by decide +kernel⟩
    have hbase : WritesBaseUrl "https://docs.example.com/api/v2" u := ⟨_, slashed_iff.2 rfl, hu⟩
    have htimeout : WritesTimeout "+0005" 5 := ⟨"0005".toList, by decide, Or.inr rfl, by decide⟩
    have hformat : WritesOrderFormat "CLAUSE" .clause := by
      rw [WritesOrderFormat]
      decide
    exact ⟨⟨u, none, 5, .clause⟩,
      (hsettings _).2 ⟨.set hbase, .set rfl, .set htimeout, .set hformat⟩, htext, rfl, rfl, rfl⟩
  · obtain ⟨hload, hfault, -⟩ := ofVariables_own_variables bad
    have hnot : ¬ ∀ v ∈ checked, v.Fits bad := by
      rw [← hload]
      rintro ⟨c, hc⟩
      cases hc
    obtain ⟨e, before, v, after, he, hchecked, hv, hbefore, -⟩ := hfault hnot
    have hkey : e.key = "DOCSTORE_TIMEOUT_SECONDS" := by
      cases he
      rfl
    have hmem : v ∈ checked := by simp [hchecked]
    simp only [checked, List.mem_cons, List.not_mem_nil, or_false] at hmem
    rcases hmem with rfl | rfl | rfl
    · exact absurd (hkey.symm.trans hv) (by decide)
    · exact ⟨e, before, after, he, hkey, hchecked, hbefore⟩
    · exact absurd (hkey.symm.trans hv) (by decide)

end Config

end DocumentClient
