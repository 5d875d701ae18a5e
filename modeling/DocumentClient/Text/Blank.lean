import DocumentClient.Text.Split

namespace DocumentClient.Text

def isBlank (c : Char) : Bool :=
  let n := c.toNat
  n == 0x20 || (0x9 ≤ n && n ≤ 0xD) || n == 0x85 || n == 0xA0 || n == 0x1680 ||
    (0x2000 ≤ n && n ≤ 0x200A) || n == 0x2028 || n == 0x2029 || n == 0x202F || n == 0x205F ||
    n == 0x3000

def words (s : List Char) : List (List Char) :=
  (s.splitOnP isBlank).filter (!·.isEmpty)

theorem words_of_forall {w : List Char} (hw : w ≠ []) (h : ∀ c ∈ w, isBlank c = false) :
    words w = [w] := by
  simp [words, List.splitOnP_eq_singleton h, hw]

theorem words_append_cons {w : List Char} {c : Char} (hw : w ≠ [])
    (h : ∀ d ∈ w, isBlank d = false) (hc : isBlank c = true) (s : List Char) :
    words (w ++ c :: s) = w :: words s := by
  simp [words, List.splitOnP_append_cons_of_forall_mem h c hc, hw]

theorem ne_nil_of_mem_words {s w : List Char} (h : w ∈ words s) : w ≠ [] := by
  simpa using (List.mem_filter.1 h).2

theorem not_isBlank_of_mem_words {s w : List Char} (h : w ∈ words s) :
    ∀ c ∈ w, isBlank c = false :=
  not_of_mem_splitOnP (List.mem_filter.1 h).1

def trim (s : List Char) : List Char := strip isBlank s

end DocumentClient.Text
