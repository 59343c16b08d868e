import Mathlib

/-!
# Bytes of texts

* `fromUTF8?_flatMap`, `eq_flatMap_of_fromUTF8?` — a text is read from its bytes, and from no
  others.
* `toNat_of_mem_utf8` — a byte of ASCII is the whole of a character.
-/

namespace HostAgent.Text

variable {c : Char} {cs : List Char} {bs : List UInt8} {b : UInt8} {s : String}

lemma toByteArray_eq (bs : List UInt8) : bs.toByteArray = ⟨bs.toArray⟩ := by
  ext1
  simp

lemma utf8Encode_eq (cs : List Char) :
    cs.utf8Encode = ⟨(cs.flatMap String.utf8EncodeChar).toArray⟩ :=
  toByteArray_eq _

/-- **A text is read from its bytes.** -/
theorem fromUTF8?_flatMap (cs : List Char) :
    String.fromUTF8? ⟨(cs.flatMap String.utf8EncodeChar).toArray⟩ = some (String.ofList cs) := by
  have hvalid : (⟨(cs.flatMap String.utf8EncodeChar).toArray⟩ : ByteArray).IsValidUTF8 :=
    ⟨cs, (utf8Encode_eq cs).symm⟩
  rw [String.fromUTF8?, dif_pos hvalid, Option.some.injEq]
  exact String.toByteArray_inj.mp (utf8Encode_eq cs).symm

/-- **It is read from no other bytes.** -/
theorem eq_flatMap_of_fromUTF8? (h : String.fromUTF8? ⟨bs.toArray⟩ = some s) :
    bs = s.toList.flatMap String.utf8EncodeChar := by
  unfold String.fromUTF8? at h
  split_ifs at h with hvalid
  have hbytes : (⟨bs.toArray⟩ : ByteArray) = s.toList.utf8Encode := by
    rw [String.utf8Encode_toList, ← Option.some.inj h]
    rfl
  rw [utf8Encode_eq, ByteArray.mk.injEq] at hbytes
  exact Array.toList_inj.mpr hbytes

/-- Different texts have different bytes. -/
lemma flatMap_utf8_injective : (List.flatMap String.utf8EncodeChar).Injective := fun cs ds h => by
  have hread := fromUTF8?_flatMap cs
  rw [h, fromUTF8?_flatMap, Option.some.injEq] at hread
  exact String.ofList_injective hread.symm

/-- The byte of a character of ASCII. -/
lemma utf8EncodeChar_of_lt (h : c.toNat < 0x80) :
    String.utf8EncodeChar c = [UInt8.ofNat c.toNat] := by
  change c.val.toNat < 0x80 at h
  rw [String.utf8EncodeChar, if_pos (by omega)]
  rfl

/-- A byte of ASCII is the whole of a character. -/
lemma toNat_of_mem_utf8 (h : b ∈ String.utf8EncodeChar c) (hb : b.toNat < 0x80) :
    c.toNat = b.toNat := by
  have hval : c.val.toNat < 0x110000 := by
    rcases c.valid with h | h <;> omega
  unfold String.utf8EncodeChar at h
  simp only at h
  split_ifs at h with h1 h2 h3
  all_goals simp only [List.mem_cons, List.not_mem_nil, or_false] at h
  · subst h
    simp only [UInt8.toNat_ofNat']
    change c.val.toNat = _
    omega
  all_goals
    rcases h with rfl | rfl | rfl | rfl <;> simp only [UInt8.toNat_ofNat'] at hb <;> omega

end HostAgent.Text
