import DocumentClient.Operator

namespace DocumentClient

open Text

theorem find?_eq_some_iff_takeWhile {α : Type u} [DecidableEq α] {p : α → Bool} {xs : List α}
    {b : α} :
    xs.find? p = some b ↔ b ∈ xs ∧ p b = true ∧ ∀ a ∈ xs.takeWhile (· ≠ b), p a = false := by
  induction xs with
  | nil => simp
  | cons x xs ih =>
    by_cases hx : x = b
    · subst hx
      cases hp : p x with
      | true => simp [hp]
      | false =>
        have hne : ∀ c, xs.find? p = some c → c ≠ x := by
          rintro c hc rfl
          exact absurd (List.find?_some hc) (by simp [hp])
        simpa [hp] using fun h => hne x h rfl
    · cases hp : p x with
      | true => simp [hp, hx]
      | false => simp [hp, hx, ih, Ne.symm hx]

namespace Operator

def before (op : Operator) : List Operator := scanOrder.takeWhile (· ≠ op)

structure FirstIn (op : Operator) (text : List Char) : Prop where
  occurs : op.surface.toList <:+: text
  earlier : ∀ e ∈ op.before, ¬ e.surface.toList <:+: text

theorem mem_scanOrder (op : Operator) : op ∈ scanOrder := by
  cases op <;> decide

theorem scan_eq_some_iff {text : List Char} {op : Operator} :
    scan text = some op ↔ op.FirstIn text := by
  rw [scan, find?_eq_some_iff_takeWhile]
  constructor
  · rintro ⟨-, hop, hbefore⟩
    refine ⟨occurs_iff.1 hop, fun e he h => ?_⟩
    exact absurd (occurs_iff.2 h) (by simp [hbefore e he])
  · rintro ⟨hop, hbefore⟩
    refine ⟨mem_scanOrder op, occurs_iff.2 hop, fun e he => ?_⟩
    simpa [← occurs_iff] using hbefore e he

theorem scan_eq_none_iff {text : List Char} :
    scan text = none ↔ ∀ op : Operator, ¬ op.surface.toList <:+: text := by
  simp [scan, ← occurs_iff, mem_scanOrder]

theorem FirstIn.unique {text : List Char} {op op' : Operator} (h : op.FirstIn text)
    (h' : op'.FirstIn text) : op = op' :=
  Option.some.inj ((scan_eq_some_iff.2 h).symm.trans (scan_eq_some_iff.2 h'))

theorem FirstIn.append {text : List Char} {op : Operator} (h : op.FirstIn text) {more : List Char}
    (hearlier : ∀ e ∈ op.before, ¬ e.surface.toList <:+: text ++ more) :
    op.FirstIn (text ++ more) where
  occurs := h.occurs.trans (List.prefix_append text more).isInfix
  earlier := hearlier

end Operator

end DocumentClient
