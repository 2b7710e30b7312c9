import BuildTree.Disk.BuildStep

/-!
# Plain text in files

The bytes of a text in ASCII are its characters. So a file that was written with such a text, and no carriage return in
it, is read as that text.
-/

namespace BuildTree

theorem toList_eq_data (bytes : ByteArray) : bytes.toList = bytes.data.toList := by
  suffices h : ∀ place found, ByteArray.toList.loop bytes place found = found.reverse ++ bytes.data.toList.drop place by
    exact h 0 []
  intro place found
  induction place, found using ByteArray.toList.loop.induct bytes with
  | case1 place found hplace ih =>
    have hlength : place < bytes.data.toList.length := by simpa using hplace
    have hbyte : bytes.get! place = bytes.data.toList[place] := by
      rw [ByteArray.get!, Array.getElem_toList]
      exact getElem!_pos bytes.data place (by simpa using hplace)
    rw [ByteArray.toList.loop, if_pos hplace, ih, hbyte, List.reverse_cons, List.append_assoc, List.singleton_append,
      ← List.drop_eq_getElem_cons]
  | case2 place found hplace =>
    rw [ByteArray.toList.loop, if_neg hplace, List.drop_eq_nil_of_le (by simpa using hplace), List.append_nil]

namespace Text

/-- A character with a byte of its own. -/
def IsAscii (c : Char) : Prop :=
  c.toNat < 0x80

instance (c : Char) : Decidable (IsAscii c) := inferInstanceAs (Decidable (_ < _))

theorem toNat_byte {c : Char} (h : IsAscii c) : (UInt8.ofNat c.toNat).toNat = c.toNat := by
  have hlow : c.toNat < 0x80 := h
  rw [UInt8.toNat_ofNat']
  omega

theorem encode_of_ascii {s : String} (h : ∀ c ∈ s.toList, IsAscii c) :
    encode s = s.toList.map fun c => UInt8.ofNat c.toNat := by
  have hchar : ∀ c ∈ s.toList, String.utf8EncodeChar c = [UInt8.ofNat c.toNat] := by
    intro c hc
    have hlow : c.toNat < 0x80 := h c hc
    have hsize : c.utf8Size = 1 := by
      rw [Char.utf8Size, if_pos]
      exact Nat.le_of_lt_succ hlow
    exact String.utf8EncodeChar_eq_singleton hsize
  have hbytes : encode s = s.toList.flatMap String.utf8EncodeChar := by
    rw [encode, toList_eq_data]
    show s.toByteArray.data.toList = _
    rw [← String.utf8Encode_toList, List.utf8Encode, List.toList_data_toByteArray]
  rw [hbytes, List.map_eq_flatMap, List.flatMap_def, List.map_congr_left hchar, List.flatMap_def]

theorem decodeFrom_ascii {cs : List Char} (h : ∀ c ∈ cs, IsAscii c) (place : Nat) (found : List Char) :
    decodeFrom place found none (cs.map fun c => UInt8.ofNat c.toNat) = .ok (found.reverse ++ cs) := by
  induction cs generalizing place found with
  | nil => rw [List.map_nil, decodeFrom, List.append_nil]
  | cons c cs ih =>
    obtain ⟨hc, hcs⟩ := List.forall_mem_cons.mp h
    have hlow : UInt8.ofNat c.toNat < 0x80 := by
      rw [UInt8.lt_iff_toNat_lt, toNat_byte hc]
      exact hc
    rw [List.map_cons, decodeFrom, if_pos hlow, ih hcs, toNat_byte hc, Char.ofNat_toNat, List.reverse_cons,
      List.append_assoc]
    rfl

theorem unifyLineEnds_of_notMem {cs : List Char} (h : '\r' ∉ cs) : unifyLineEnds cs = cs := by
  induction cs with
  | nil => rfl
  | cons c cs ih =>
    simp only [List.mem_cons, not_or] at h
    rw [unifyLineEnds, ih h.2, if_neg (Ne.symm h.1)]
    exact fun _ hc => absurd hc (Ne.symm h.1)

end Text

/-- A file with plain text says what was written. -/
theorem textOfBytes_encode {s : String} (h : ∀ c ∈ s.toList, Text.IsAscii c) (hreturn : '\r' ∉ s.toList) :
    textOfBytes (Text.encode s) = .ok s := by
  rw [textOfBytes, Text.encode_of_ascii h, Text.decode, Text.decodeFrom_ascii h]
  simp [Text.unifyLineEnds_of_notMem hreturn]

end BuildTree
