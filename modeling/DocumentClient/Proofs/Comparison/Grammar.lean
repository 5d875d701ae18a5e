import DocumentClient.Comparison
import DocumentClient.Proofs.Operator
import DocumentClient.Proofs.Text

namespace DocumentClient.Comparison

open Text

/-- The words are those of a comparison, with any words after its value. -/
def Spells (c : Comparison) (ws : List (List Char)) : Prop :=
  ∃ value rest, ws = c.column.toList :: (c.operator.surfaceWords ++ value :: rest) ∧
    c.value = .coerce value (some c.operator)

def slice? {α : Type} (xs : List α) (first last : Nat) : Option (List α) :=
  if last < xs.length then some ((xs.drop first).take (last + 1 - first)) else none

def ofWordsAt? (clause : String) (op : Operator) (ws : List (List Char)) :
    Option (Except Error Comparison) :=
  if ws.length < op.wordCount + 2 then some (.error (.undeterminedQuery clause))
  else do
    let written ← slice? ws 1 op.wordCount
    if written ≠ op.surfaceWords then return .error (.invalidOperator clause)
    let column ← ws[0]?
    let value ← ws[op.wordCount + 1]?
    return .ok ⟨String.ofList column, op, .coerce value (some op)⟩

def parseAt? (clause : String) : Option (Except Error Comparison) :=
  let text := lowercase clause.toList
  match Operator.scan text with
  | none => some (.error (.invalidOperator clause))
  | some op => ofWordsAt? clause op (words text)

section

variable {clause : String} {op : Operator} {ws : List (List Char)}

theorem exists_split {α : Type} {n : Nat} {xs : List α} (h : n + 2 ≤ xs.length) :
    ∃ x ys z zs, ys.length = n ∧ xs = x :: (ys ++ z :: zs) := by
  obtain ⟨x, tail, rfl⟩ : ∃ x tail, xs = x :: tail :=
    List.exists_cons_of_length_pos (by omega)
  rw [List.length_cons] at h
  obtain ⟨z, zs, hz⟩ : ∃ z zs, tail.drop n = z :: zs :=
    List.exists_cons_of_length_pos (by rw [List.length_drop]; omega)
  refine ⟨x, tail.take n, z, zs, ?_, ?_⟩
  · rw [List.length_take]
    omega
  · rw [← hz, List.take_append_drop]

theorem ofWords_short (h : ws.length < op.wordCount + 2) :
    ofWords clause op ws = .error (.undeterminedQuery clause) := if_pos h

theorem ofWordsAt?_short (h : ws.length < op.wordCount + 2) :
    ofWordsAt? clause op ws = some (.error (.undeterminedQuery clause)) := if_pos h

theorem not_short {written : List (List Char)} (h : written.length = op.wordCount)
    (column value : List Char) (rest : List (List Char)) :
    ¬ (column :: (written ++ value :: rest)).length < op.wordCount + 2 := by
  rw [List.length_cons, List.length_append, List.length_cons, h]
  omega

theorem ofWords_split {written : List (List Char)} (h : written.length = op.wordCount)
    (column value : List Char) (rest : List (List Char)) :
    ofWords clause op (column :: (written ++ value :: rest)) =
      if written = op.surfaceWords then .ok ⟨String.ofList column, op, .coerce value (some op)⟩
      else .error (.invalidOperator clause) := by
  have htake : (written ++ value :: rest).take op.wordCount = written := by simp [← h]
  have hdrop : (written ++ value :: rest).drop op.wordCount = value :: rest := by simp [← h]
  rw [ofWords, if_neg (not_short h column value rest)]
  simp only [htake, hdrop, ite_not]

theorem ofWordsAt?_split {written : List (List Char)} (h : written.length = op.wordCount)
    (column value : List Char) (rest : List (List Char)) :
    ofWordsAt? clause op (column :: (written ++ value :: rest)) =
      some (ofWords clause op (column :: (written ++ value :: rest))) := by
  have hlong := not_short h column value rest
  have hslice : slice? (column :: (written ++ value :: rest)) 1 op.wordCount = some written := by
    rw [slice?, if_pos (by omega)]
    simp [← h]
  have hvalue : (column :: (written ++ value :: rest))[op.wordCount + 1]? = some value := by
    simp [← h]
  rw [ofWords_split h, ofWordsAt?, if_neg hlong, hslice, hvalue]
  by_cases hw : written = op.surfaceWords <;> simp [hw]

theorem ofWordsAt?_eq (clause : String) (op : Operator) (ws : List (List Char)) :
    ofWordsAt? clause op ws = some (ofWords clause op ws) := by
  by_cases h : ws.length < op.wordCount + 2
  · rw [ofWordsAt?_short h, ofWords_short h]
  · obtain ⟨column, written, value, rest, hw, rfl⟩ := exists_split (Nat.le_of_not_lt h)
    exact ofWordsAt?_split hw column value rest

theorem ofWords_eq_ok_iff {c : Comparison} :
    ofWords clause op ws = .ok c ↔ c.operator = op ∧ c.Spells ws := by
  constructor
  · intro h
    by_cases hs : ws.length < op.wordCount + 2
    · rw [ofWords_short hs] at h
      cases h
    · obtain ⟨column, written, value, rest, hw, rfl⟩ := exists_split (Nat.le_of_not_lt hs)
      rw [ofWords_split hw] at h
      split at h
      · next heq =>
        cases h
        exact ⟨rfl, value, rest, by simp [heq], rfl⟩
      · cases h
  · rintro ⟨rfl, value, rest, rfl, hv⟩
    rw [ofWords_split rfl, if_pos rfl, String.ofList_toList, ← hv]

theorem ofWords_eq_undetermined_iff :
    ofWords clause op ws = .error (.undeterminedQuery clause) ↔ ws.length < op.wordCount + 2 := by
  refine ⟨fun h => Nat.lt_of_not_le fun hs => ?_, ofWords_short⟩
  obtain ⟨column, written, value, rest, hw, rfl⟩ := exists_split hs
  rw [ofWords_split hw] at h
  split at h <;> cases h

theorem ofWords_cases (clause : String) (op : Operator) (ws : List (List Char)) :
    (∃ c, ofWords clause op ws = .ok c) ∨
      ofWords clause op ws = .error (.undeterminedQuery clause) ∨
      ofWords clause op ws = .error (.invalidOperator clause) := by
  by_cases hs : ws.length < op.wordCount + 2
  · exact Or.inr (Or.inl (ofWords_short hs))
  · obtain ⟨column, written, value, rest, hw, rfl⟩ := exists_split (Nat.le_of_not_lt hs)
    rw [ofWords_split hw]
    split
    · exact Or.inl ⟨_, rfl⟩
    · exact Or.inr (Or.inr rfl)

theorem ofWords_append (hs : op.wordCount + 2 ≤ ws.length) (clause' : String)
    (more : List (List Char)) :
    ofWords clause' op (ws ++ more) =
      (ofWords clause op ws).mapError fun _ => .invalidOperator clause' := by
  obtain ⟨column, written, value, rest, hw, rfl⟩ := exists_split hs
  rw [List.cons_append, List.append_assoc, List.cons_append, ofWords_split hw, ofWords_split hw]
  split <;> rfl

end

theorem parse_of_firstIn {clause : String} {op : Operator}
    (h : op.FirstIn (lowercase clause.toList)) :
    parse clause = ofWords clause op (words (lowercase clause.toList)) := by
  simp [parse, Operator.scan_eq_some_iff.2 h]

theorem parse_of_scan_none {clause : String} (h : Operator.scan (lowercase clause.toList) = none) :
    parse clause = .error (.invalidOperator clause) := by
  simp [parse, h]

theorem parseAt?_eq (clause : String) : parseAt? clause = some (parse clause) := by
  cases h : Operator.scan (lowercase clause.toList) with
  | none => simp [parseAt?, parse, h]
  | some op => simp [parseAt?, parse, h, ofWordsAt?_eq]

theorem parse_eq_ok_iff {clause : String} {c : Comparison} :
    parse clause = .ok c ↔
      c.operator.FirstIn (lowercase clause.toList) ∧
        c.Spells (words (lowercase clause.toList)) := by
  cases h : Operator.scan (lowercase clause.toList) with
  | none =>
    rw [parse_of_scan_none h]
    constructor
    · intro hc
      cases hc
    · rintro ⟨hf, -⟩
      exact absurd hf.occurs (Operator.scan_eq_none_iff.1 h _)
  | some op =>
    have hop := Operator.scan_eq_some_iff.1 h
    rw [parse_of_firstIn hop, ofWords_eq_ok_iff]
    constructor
    · rintro ⟨rfl, hs⟩
      exact ⟨hop, hs⟩
    · rintro ⟨hf, hs⟩
      exact ⟨hf.unique hop, hs⟩

theorem parse_eq_undetermined_iff {clause : String} :
    parse clause = .error (.undeterminedQuery clause) ↔
      ∃ op : Operator, op.FirstIn (lowercase clause.toList) ∧
        (words (lowercase clause.toList)).length < op.wordCount + 2 := by
  cases h : Operator.scan (lowercase clause.toList) with
  | none =>
    rw [parse_of_scan_none h]
    constructor
    · intro hc
      cases hc
    · rintro ⟨op, hf, -⟩
      exact absurd hf.occurs (Operator.scan_eq_none_iff.1 h _)
  | some op =>
    have hop := Operator.scan_eq_some_iff.1 h
    rw [parse_of_firstIn hop, ofWords_eq_undetermined_iff]
    constructor
    · exact fun hs => ⟨op, hop, hs⟩
    · rintro ⟨op', hf, hs⟩
      exact hop.unique hf ▸ hs

theorem parse_cases (clause : String) :
    (∃ c, parse clause = .ok c) ∨ parse clause = .error (.undeterminedQuery clause) ∨
      parse clause = .error (.invalidOperator clause) := by
  cases h : Operator.scan (lowercase clause.toList) with
  | none => exact Or.inr (Or.inr (parse_of_scan_none h))
  | some op =>
    rw [parse_of_firstIn (Operator.scan_eq_some_iff.1 h)]
    exact ofWords_cases _ _ _

theorem parse_eq_invalid_iff {clause : String} :
    parse clause = .error (.invalidOperator clause) ↔
      (∀ c : Comparison, c.operator.FirstIn (lowercase clause.toList) →
        ¬ c.Spells (words (lowercase clause.toList))) ∧
      ∀ op : Operator, op.FirstIn (lowercase clause.toList) →
        op.wordCount + 2 ≤ (words (lowercase clause.toList)).length := by
  constructor
  · intro h
    refine ⟨fun c hf hs => ?_, fun op hf => Nat.le_of_not_lt fun hlt => ?_⟩
    · rw [parse_eq_ok_iff.2 ⟨hf, hs⟩] at h
      cases h
    · rw [parse_eq_undetermined_iff.2 ⟨op, hf, hlt⟩] at h
      cases h
  · rintro ⟨hok, hlong⟩
    rcases parse_cases clause with ⟨c, hc⟩ | h | h
    · obtain ⟨hf, hs⟩ := parse_eq_ok_iff.1 hc
      exact absurd hs (hok c hf)
    · obtain ⟨op, hf, hlt⟩ := parse_eq_undetermined_iff.1 h
      exact absurd hlt (Nat.not_lt.2 (hlong op hf))
    · exact h

theorem parse_append {clause : String} {op : Operator} {more : List Char}
    (hop : op.FirstIn (lowercase clause.toList))
    (hlong : op.wordCount + 2 ≤ (words (lowercase clause.toList)).length)
    (hmore : StartsBlank more)
    (hearlier : ∀ e ∈ op.before, ¬ e.surface.toList <:+: lowercase (clause.toList ++ more)) :
    parse (clause ++ String.ofList more) =
      (parse clause).mapError fun _ => .invalidOperator (clause ++ String.ofList more) := by
  have htext : (clause ++ String.ofList more).toList = clause.toList ++ more := by simp
  obtain ⟨r, hr, hlower⟩ := lowercase_append (s := clause.toList) hmore
  rw [hlower] at hearlier
  have hop' : op.FirstIn (lowercase (clause ++ String.ofList more).toList) := by
    rw [htext, hlower]
    exact hop.append hearlier
  rw [parse_of_firstIn hop', parse_of_firstIn hop, htext, hlower, words_append hr,
    ofWords_append hlong]

/-- The clauses that are accepted, what they are read as, and how the others are refused. -/
theorem parse_grammar (clause : String) :
    (∀ c, parse clause = .ok c ↔
      c.operator.FirstIn (lowercase clause.toList) ∧
        c.Spells (words (lowercase clause.toList))) ∧
    (parse clause = .error (.undeterminedQuery clause) ↔
      ∃ op : Operator, op.FirstIn (lowercase clause.toList) ∧
        (words (lowercase clause.toList)).length < op.wordCount + 2) ∧
    (parse clause = .error (.invalidOperator clause) ↔
      (∀ c : Comparison, c.operator.FirstIn (lowercase clause.toList) →
        ¬ c.Spells (words (lowercase clause.toList))) ∧
      ∀ op : Operator, op.FirstIn (lowercase clause.toList) →
        op.wordCount + 2 ≤ (words (lowercase clause.toList)).length) ∧
    parseAt? clause = some (parse clause) ∧
    ∀ (op : Operator) (more : List Char), op.FirstIn (lowercase clause.toList) →
      op.wordCount + 2 ≤ (words (lowercase clause.toList)).length → StartsBlank more →
      (∀ e ∈ op.before, ¬ e.surface.toList <:+: lowercase (clause.toList ++ more)) →
      parse (clause ++ String.ofList more) =
        (parse clause).mapError fun _ => .invalidOperator (clause ++ String.ofList more) := by
  exact ⟨fun c => parse_eq_ok_iff, parse_eq_undetermined_iff, parse_eq_invalid_iff,
    parseAt?_eq clause, fun op more => parse_append⟩

theorem parse_grammar_words_after :
    parse "Rating > 4" = .ok ⟨"rating", .greater, .int 4⟩ ∧
      parse ("Rating > 4" ++ String.ofList [' ', '<', ' ', '5']) =
        .ok ⟨"rating", .greater, .int 4⟩ ∧
      parse "knot in (a,b)" = .error (.undeterminedQuery "knot in (a,b)") := by
  obtain ⟨hok, -, -, -, hmore⟩ := parse_grammar "Rating > 4"
  have hop : Operator.FirstIn .greater (lowercase "Rating > 4".toList) :=
    ⟨by decide +kernel, by decide +kernel⟩
  have hparse : parse "Rating > 4" = .ok ⟨"rating", .greater, .int 4⟩ :=
    (hok _).2 ⟨hop, ['4'], [], by decide +kernel, by decide +kernel⟩
  refine ⟨hparse, ?_, ?_⟩
  · rw [hmore .greater [' ', '<', ' ', '5'] hop (by decide +kernel) (startsBlank_cons.2 rfl)
      (by decide +kernel), hparse]
    rfl
  · exact (parse_grammar "knot in (a,b)").2.1.2
      ⟨.notIn, ⟨by decide +kernel, by decide +kernel⟩, by decide +kernel⟩

end DocumentClient.Comparison
