import Mathlib

/-!
# Texts as bytes

- A text is read back from its bytes (`fromUTF8?_bytes`).
- What a proper prefix of the bytes is read as is a proper prefix of the text (`fromUTF8?_prefix`).
- Only a line break has the byte of a line break (`lineBreak_notMem_bytes`).
-/

namespace Blotter.Text

/-- The bytes of characters. -/
def bytes (cs : List Char) : List UInt8 := cs.flatMap String.utf8EncodeChar

/-- Every character has a byte. -/
theorem length_le_bytes (cs : List Char) : cs.length ≤ (bytes cs).length := by
  induction cs with
  | nil => exact Nat.le_refl 0
  | cons c cs ih =>
    have some : 0 < (String.utf8EncodeChar c).length := by
      rw [String.length_utf8EncodeChar]
      exact c.utf8Size_pos
    rw [bytes, List.flatMap_cons, List.length_append, List.length_cons]
    have behind : cs.length ≤ (cs.flatMap String.utf8EncodeChar).length := ih
    omega

theorem byteArray_toList (b : ByteArray) : b.toList = b.data.toList := by
  have loop (n : Nat) : ∀ (i : Nat) (r : List UInt8), b.size - i = n → ByteArray.toList.loop b i r =
      r.reverse ++ b.data.toList.drop i := by
    induction n with
    | zero =>
      intro i r hn
      have short : b.data.toList.length ≤ i := by
        have : b.data.toList.length = b.size := rfl
        omega
      rw [ByteArray.toList.loop, if_neg (by omega), List.drop_eq_nil_of_le short, List.append_nil]
    | succ n ih =>
      intro i r hn
      have inside : i < b.data.toList.length := by
        have : b.data.toList.length = b.size := rfl
        omega
      have byte : b.get! i = b.data.toList[i] := by
        have hi : i < b.data.size := inside
        simp only [ByteArray.get!, Array.getElem_toList]
        exact getElem!_pos b.data i hi
      rw [ByteArray.toList.loop, if_pos (by omega), ih (i + 1) _ (by omega), List.drop_eq_getElem_cons inside, byte]
      simp
  rw [ByteArray.toList, loop b.size 0 [] rfl]
  rfl

theorem toUTF8_toList (s : String) : s.toUTF8.toList = bytes s.toList := by
  rw [byteArray_toList, bytes]
  have encoded : s.toUTF8 = s.toList.utf8Encode := by simp
  rw [encoded, List.utf8Encode]
  simp

/-- A text is read back from its bytes. -/
theorem fromUTF8?_bytes (s : String) : String.fromUTF8? ⟨(bytes s.toList).toArray⟩ = some s := by
  have encoded : (⟨(bytes s.toList).toArray⟩ : ByteArray) = s.toByteArray := by
    rw [← toUTF8_toList, byteArray_toList]
    rfl
  rw [encoded, String.fromUTF8?, dif_pos s.isValidUTF8]
  rfl

/-- Bytes that are read as a text are those of the text. -/
theorem eq_bytes_of_fromUTF8? {data : List UInt8} {s : String} (h : String.fromUTF8? ⟨data.toArray⟩ = some s) :
    data = bytes s.toList := by
  rw [String.fromUTF8?] at h
  split at h
  · rename_i valid
    have same : s.toByteArray = ⟨data.toArray⟩ := by
      rw [← Option.some.inj h]
      rfl
    rw [← toUTF8_toList, byteArray_toList]
    exact (congrArg (fun b => b.data.toList) same).symm
  · exact absurd h (by simp)

/-- What the front of the bytes of a text is read as is the front of the text. -/
theorem fromUTF8?_prefix {cs : List Char} {front ext : List UInt8} {s : String} (h : front ++ ext = bytes cs)
    (hs : String.fromUTF8? ⟨front.toArray⟩ = some s) : front = bytes s.toList ∧ s.toList <+: cs := by
  have read := eq_bytes_of_fromUTF8? hs
  refine ⟨read, List.isPrefix_of_utf8Encode_append_eq_utf8Encode ⟨ext.toArray⟩ ?_⟩
  have encoded (l : List Char) : l.utf8Encode = ⟨(bytes l).toArray⟩ := by
    ext1
    rw [List.utf8Encode]
    apply Array.toList_inj.mp
    simp [bytes]
  rw [encoded, encoded, ← h, ← read]
  ext1
  apply Array.toList_inj.mp
  simp

/-- A byte below 128 stands for itself. -/
theorem toNat_of_mem_utf8EncodeChar {c : Char} {b : UInt8} (h : b ∈ String.utf8EncodeChar c) (hb : b.toNat < 128) :
    c.toNat = b.toNat := by
  have large {n : Nat} (hn : 128 ≤ n) (hn' : n < 256) (e : b = UInt8.ofNat n) : False := by
    rw [e, UInt8.toNat_ofNat_of_lt' (by simpa [UInt8.size] using hn')] at hb
    omega
  have hc : c.val.toNat = c.toNat := rfl
  simp only [String.utf8EncodeChar, hc] at h
  split at h
  · rw [List.mem_singleton] at h
    rw [h, UInt8.toNat_ofNat_of_lt' (by simp [UInt8.size]; omega)]
  · exfalso
    split at h
    · simp only [List.mem_cons, List.not_mem_nil, or_false] at h
      rcases h with h | h <;> exact large (by omega) (by omega) h
    · split at h
      · simp only [List.mem_cons, List.not_mem_nil, or_false] at h
        rcases h with h | h | h <;> exact large (by omega) (by omega) h
      · simp only [List.mem_cons, List.not_mem_nil, or_false] at h
        rcases h with h | h | h | h <;> exact large (by omega) (by omega) h

/-- Where all bytes are below 128, every character is one of them. -/
theorem exists_byte_of_mem {cs : List Char} (small : ∀ b ∈ bytes cs, b.toNat < 128) {c : Char} (hc : c ∈ cs) :
    ∃ b ∈ bytes cs, b.toNat = c.toNat := by
  have some : String.utf8EncodeChar c ≠ [] := by
    rw [← List.length_pos_iff, String.length_utf8EncodeChar]
    exact c.utf8Size_pos
  obtain ⟨b, hb⟩ := List.exists_mem_of_ne_nil _ some
  have mem : b ∈ bytes cs := List.mem_flatMap.mpr ⟨c, hc, hb⟩
  exact ⟨b, mem, (toNat_of_mem_utf8EncodeChar hb (small b mem)).symm⟩

/-- Only a line break has the byte of a line break. -/
theorem lineBreak_notMem_bytes {cs : List Char} (h : '\n' ∉ cs) : (10 : UInt8) ∉ bytes cs := by
  intro hb
  obtain ⟨c, hc, hb⟩ := List.mem_flatMap.mp hb
  have code := toNat_of_mem_utf8EncodeChar hb (by decide)
  have : c = '\n' := by
    rw [← Char.ofNat_toNat c, code]
    rfl
  exact h (this ▸ hc)

end Blotter.Text
