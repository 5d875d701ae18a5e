import DocumentClient.Text.Percent
import Mathlib.Logic.Function.Basic

namespace DocumentClient.Text.Percent

def bytes (s : List Char) : List UInt8 := s.flatMap String.utf8EncodeChar

theorem toByteArray_bytes (s : List Char) :
    (bytes s).toByteArray = (String.ofList s).toByteArray := String.toByteArray_ofList.symm

theorem bytes_injective : Function.Injective bytes := by
  intro s t h
  have htext : (String.ofList s).toByteArray = (String.ofList t).toByteArray := by
    rw [← toByteArray_bytes, ← toByteArray_bytes, h]
  exact String.ofList_injective (String.toByteArray_inj.1 htext)

theorem hexValue_upperHexDigit : ∀ n < 16, hexValue (upperHexDigit n) = some n := by decide

theorem isAlphanum_upperHexDigit : ∀ n < 16, (upperHexDigit n).isAlphanum = true := by decide

theorem decode_escapeByte (b : UInt8) (s : List Char) :
    decode (escapeByte b ++ s) = b :: decode s := by
  have hb : b.toNat < 256 := b.toNat_lt
  have hhigh := hexValue_upperHexDigit (b.toNat / 16) (by omega)
  have hlow := hexValue_upperHexDigit (b.toNat % 16) (by omega)
  have hvalue : b.toNat / 16 * 16 + b.toNat % 16 = b.toNat := by omega
  simp [escapeByte, decode, hhigh, hlow, hvalue]

theorem decode_flatMap_escapeByte (bs : List UInt8) (s : List Char) :
    decode (bs.flatMap escapeByte ++ s) = bs ++ decode s := by
  induction bs with
  | nil => rfl
  | cons b bs ih =>
    rw [List.flatMap_cons, List.append_assoc, decode_escapeByte, ih, List.cons_append]

theorem decode_cons_of_ne {c : Char} (h : c ≠ '%') (s : List Char) :
    decode (c :: s) = String.utf8EncodeChar c ++ decode s := by
  rw [decode]
  intro a b rest hc _
  exact h hc

section

variable {encoded : Char → Bool}

theorem decode_encodeChar (hpercent : encoded '%' = true) (c : Char) (s : List Char) :
    decode (encodeChar encoded c ++ s) = String.utf8EncodeChar c ++ decode s := by
  rw [encodeChar]
  split
  · exact decode_flatMap_escapeByte _ s
  · next hc =>
    have hne : c ≠ '%' := by
      rintro rfl
      exact hc hpercent
    exact decode_cons_of_ne hne s

/-- A percent sign has to be escaped too, for else an escape could stand for itself. -/
theorem decode_encode (hpercent : encoded '%' = true) (s : List Char) :
    decode (encode encoded s) = bytes s := by
  induction s with
  | nil => rfl
  | cons c s ih =>
    have hcons : encode encoded (c :: s) = encodeChar encoded c ++ encode encoded s := rfl
    rw [hcons, decode_encodeChar hpercent, ih, bytes, bytes, List.flatMap_cons]

theorem encode_injective (hpercent : encoded '%' = true) :
    Function.Injective (encode encoded) := by
  intro s t h
  apply bytes_injective
  rw [← decode_encode hpercent, ← decode_encode hpercent, h]

theorem encode_of_forall {s : List Char} (h : ∀ c ∈ s, encoded c = false) :
    encode encoded s = s := by
  induction s with
  | nil => rfl
  | cons c s ih =>
    have hcons : encode encoded (c :: s) = encodeChar encoded c ++ encode encoded s := rfl
    rw [hcons, ih fun d hd => h d (List.mem_cons_of_mem _ hd), encodeChar, h c List.mem_cons_self]
    rfl

theorem of_mem_escapeByte {b : UInt8} {c : Char} (h : c ∈ escapeByte b) :
    c = '%' ∨ c.isAlphanum = true := by
  have hb : b.toNat < 256 := b.toNat_lt
  simp only [escapeByte, List.mem_cons, List.not_mem_nil, or_false] at h
  rcases h with rfl | rfl | rfl
  · exact Or.inl rfl
  · exact Or.inr (isAlphanum_upperHexDigit _ (by omega))
  · exact Or.inr (isAlphanum_upperHexDigit _ (by omega))

theorem of_mem_encode {s : List Char} {c : Char} (h : c ∈ encode encoded s) :
    encoded c = false ∨ c = '%' ∨ c.isAlphanum = true := by
  obtain ⟨d, -, hc⟩ := List.mem_flatMap.1 h
  rw [encodeChar] at hc
  split at hc
  · obtain ⟨b, -, hc⟩ := List.mem_flatMap.1 hc
    exact Or.inr (of_mem_escapeByte hc)
  · next hd =>
    rw [List.mem_singleton.1 hc]
    exact Or.inl (by simpa using hd)

end

end DocumentClient.Text.Percent
