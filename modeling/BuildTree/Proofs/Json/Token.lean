import BuildTree.Json.Reader
import BuildTree.Proofs.Text.Integer

/-!
# Strings and whole numbers in a document

What the layout writes for a string or a whole number is read as that string or number, whatever is written behind it
in a document. A character beyond sixteen bits goes out as two surrogates and comes back as one character. A number
comes back if it has no more digits than the reader takes.
-/

namespace BuildTree.Json

/-- What can be written behind a value: nothing, the comma before the next one, or the end of its line. -/
def Ends (cs : List Char) : Prop :=
  cs = [] ∨ ∃ rest, cs = ',' :: rest ∨ cs = '\n' :: rest

section Strings

/-- The code units of a character. -/
def charUnits (c : Char) : List Nat :=
  if c.toNat < 0x10000 then [c.toNat]
  else [0xd800 + (c.toNat - 0x10000) / 0x400, 0xdc00 + (c.toNat - 0x10000) % 0x400]

theorem charUnits_of_lt {c : Char} (h : c.toNat < 0x10000) : charUnits c = [c.toNat] :=
  if_pos h

/-- A character is no surrogate, and there are seventeen planes. -/
theorem toNat_cases (c : Char) : c.toNat < 0xd800 ∨ 0xdfff < c.toNat ∧ c.toNat < 0x110000 := c.valid

theorem hexValue_hexDigit {k : Nat} (h : k < 16) : hexValue (Text.hexDigit k) = some k :=
  (by decide : ∀ k < 16, hexValue (Text.hexDigit k) = some k) k h

variable {rest more : List Char} {units : List Nat}

theorem stringUnits_unitEscape {n : Nat} (hn : n < 0x10000) (h : stringUnits rest = some (units, more)) :
    stringUnits (unitEscape n ++ rest) = some (n :: units, more) := by
  have hunit : hexUnit (Text.hexDigit (n / 16 / 16 / 16 % 16)) (Text.hexDigit (n / 16 / 16 % 16))
      (Text.hexDigit (n / 16 % 16)) (Text.hexDigit (n % 16)) = some n := by
    simp only [hexUnit, hexValue_hexDigit (Nat.mod_lt _ (by decide : 0 < 16)), Option.bind_eq_bind, Option.bind_some,
      Option.pure_def]
    congr 1
    omega
  show stringUnits ('\\' :: 'u' :: Text.hexDigit (n / 16 / 16 / 16 % 16) :: Text.hexDigit (n / 16 / 16 % 16) ::
    Text.hexDigit (n / 16 % 16) :: Text.hexDigit (n % 16) :: rest) = _
  rw [stringUnits, hunit, h]
  rfl

theorem stringUnits_letter {c : Char} (hquote : c ≠ '"') (hslash : c ≠ '\\') (hblank : 0x20 ≤ c.toNat)
    (h : stringUnits rest = some (units, more)) : stringUnits (c :: rest) = some (c.toNat :: units, more) := by
  rw [stringUnits.eq_def]
  split
  next heq => cases heq
  next heq => exact absurd (List.cons.inj heq).1 hquote
  next heq => exact absurd (List.cons.inj heq).1 hslash
  next heq => exact absurd (List.cons.inj heq).1 hslash
  next heq =>
    obtain ⟨rfl, rfl⟩ := List.cons.inj heq
    rw [if_neg (by simp [hslash]; omega), h]
    rfl

/-- What is written for a character is read as its units. -/
theorem stringUnits_stringChar (c : Char) (h : stringUnits rest = some (units, more)) :
    stringUnits (stringChar c ++ rest) = some (charUnits c ++ units, more) := by
  by_cases hshort : c ∈ ['"', '\\', '\n', '\r', '\t', '\x0c', '\x08']
  · simp only [List.mem_cons, List.not_mem_nil, or_false] at hshort
    rcases hshort with rfl | rfl | rfl | rfl | rfl | rfl | rfl
    all_goals
      show stringUnits ('\\' :: _ :: rest) = _
      simp [stringUnits, escapedChar, h, charUnits]
  · simp only [List.mem_cons, List.not_mem_nil, or_false, not_or] at hshort
    obtain ⟨hquote, hslash, hline, hreturn, htab, hpage, hback⟩ := hshort
    rw [stringChar, if_neg hquote, if_neg hslash, if_neg hline, if_neg hreturn, if_neg htab, if_neg hpage,
      if_neg hback]
    by_cases hplain : ' ' ≤ c ∧ c ≤ '~'
    · have hlow : 0x20 ≤ c.toNat := hplain.1
      have hhigh : c.toNat ≤ 0x7e := hplain.2
      rw [if_pos hplain, charUnits_of_lt (by omega)]
      exact stringUnits_letter hquote hslash hlow h
    · rw [if_neg hplain, unicodeEscape, charUnits]
      have hvalid := toNat_cases c
      split
      next hsmall => exact stringUnits_unitEscape hsmall h
      · rw [List.append_assoc]
        exact stringUnits_unitEscape (by omega) (stringUnits_unitEscape (by omega) h)

/-- The units of a character are read as that character. -/
theorem unitsChars_charUnits (c : Char) (units : List Nat) :
    unitsChars (charUnits c ++ units) = c :: unitsChars units := by
  have hvalid := toNat_cases c
  by_cases hsmall : c.toNat < 0x10000
  · have hchar : unitChar c.toNat = c := by rw [unitChar, if_neg (by omega), Char.ofNat_toNat]
    rw [charUnits_of_lt hsmall]
    cases units with
    | nil => exact congrArg (fun c => [c]) hchar
    | cons low rest => rw [List.singleton_append, unitsChars, if_neg (by omega), hchar]
  · have hchar : 0x10000 + (0xd800 + (c.toNat - 0x10000) / 0x400 - 0xd800) * 0x400 +
        (0xdc00 + (c.toNat - 0x10000) % 0x400 - 0xdc00) = c.toNat := by omega
    rw [charUnits, if_neg hsmall, List.cons_append, List.singleton_append, unitsChars, if_pos (by omega), hchar,
      Char.ofNat_toNat]

/-- A string is read back up to its closing quote. -/
theorem readString_stringChars (s : String) (rest : List Char) :
    readString (s.toList.flatMap stringChar ++ '"' :: rest) = some (s, rest) := by
  have hunits : stringUnits (s.toList.flatMap stringChar ++ '"' :: rest) = some (s.toList.flatMap charUnits, rest) := by
    induction s.toList with
    | nil => rw [List.flatMap_nil, List.flatMap_nil, List.nil_append, stringUnits]
    | cons c cs ih =>
      rw [List.flatMap_cons, List.flatMap_cons, List.append_assoc]
      exact stringUnits_stringChar c ih
  have hchars : unitsChars (s.toList.flatMap charUnits) = s.toList := by
    induction s.toList with
    | nil => rw [List.flatMap_nil, unitsChars]
    | cons c cs ih => rw [List.flatMap_cons, unitsChars_charUnits, ih]
  rw [readString, hunits]
  exact congrArg (fun text => some (text, rest)) (by rw [hchars, String.ofList_toList])

end Strings

section Numbers

theorem isDigit_of_mem_toDigits {n : Nat} {c : Char} (h : c ∈ Nat.toDigits 10 n) : c.isDigit = true :=
  Nat.isDigit_of_mem_toDigits (by decide) (by decide) h

theorem digitsValue_toDigits (n : Nat) : digitsValue (Nat.toDigits 10 n) = n := by
  have hvalue : Nat.ofDigitChars 10 (Nat.toDigits 10 n) 0 = n := Nat.ofDigitChars_toDigits (by decide) (by decide)
  rw [Nat.ofDigitChars_eq_foldl] at hvalue
  refine Eq.trans ?_ hvalue
  rw [digitsValue]
  congr 1
  funext value c
  rw [Nat.mul_comm]
  rfl

/-- Only zero is written with a leading zero. -/
theorem head?_toDigits {n : Nat} (h : 0 < n) : (Nat.toDigits 10 n).head? ≠ some '0' := by
  induction n using Nat.strongRecOn with
  | ind n ih =>
    rw [Nat.toDigits_eq_if (by decide)]
    split
    · simp
      omega
    · obtain ⟨c, cs, hcs⟩ := List.exists_cons_of_ne_nil (Nat.toDigits_ne_nil : Nat.toDigits 10 (n / 10) ≠ [])
      have hsmaller := ih (n / 10) (by omega) (by omega)
      rw [hcs] at hsmaller ⊢
      exact hsmaller

theorem spanDigits_append {digits rest : List Char} (hdigits : ∀ c ∈ digits, c.isDigit = true) (hrest : Ends rest) :
    spanDigits (digits ++ rest) = (digits, rest) := by
  have hnone : rest.takeWhile Char.isDigit = [] ∧ rest.dropWhile Char.isDigit = rest := by
    obtain rfl | ⟨more, rfl | rfl⟩ := hrest
    · exact ⟨rfl, rfl⟩
    all_goals exact ⟨by rw [List.takeWhile_cons_of_neg (by decide)], by rw [List.dropWhile_cons_of_neg (by decide)]⟩
  rw [spanDigits, List.takeWhile_append_of_pos hdigits, List.dropWhile_append_of_pos hdigits, hnone.1, hnone.2,
    List.append_nil]

theorem wholeDigits_toDigits (n : Nat) {rest : List Char} (h : Ends rest) :
    wholeDigits (Nat.toDigits 10 n ++ rest) = some (Nat.toDigits 10 n, rest) := by
  cases n with
  | zero => rfl
  | succ n =>
    have hspan : spanDigits (Nat.toDigits 10 (n + 1) ++ rest) = (Nat.toDigits 10 (n + 1), rest) :=
      spanDigits_append (fun c hc => isDigit_of_mem_toDigits hc) h
    have hhead := head?_toDigits (Nat.succ_pos n)
    obtain ⟨c, cs, hcs⟩ := List.exists_cons_of_ne_nil (Nat.toDigits_ne_nil : Nat.toDigits 10 (n + 1) ≠ [])
    rw [hcs, List.cons_append] at hspan ⊢
    rw [wholeDigits.eq_def]
    split
    next heq =>
      rw [hcs, (List.cons.inj heq).1] at hhead
      exact absurd rfl hhead
    · rw [hspan]

/-- Digits are read as the number they were written for, unless they are too many, if nothing goes on behind them. -/
theorem readMagnitude_toDigits (negative : Bool) (n : Nat) {rest : List Char} (h : Ends rest) :
    readMagnitude negative (Nat.toDigits 10 n ++ rest) =
      if n < 10 ^ Text.digitLimit then .ok (.int (if negative then -n else n), rest)
      else .error (.tooManyDigits (Nat.toDigits 10 n).length) := by
  have hfraction : fractionDigits rest = none := by obtain rfl | ⟨more, rfl | rfl⟩ := h <;> rfl
  have hexponent : exponentDigits rest = none := by obtain rfl | ⟨more, rfl | rfl⟩ := h <;> rfl
  have hlength : Text.digitLimit < (Nat.toDigits 10 n).length ↔ ¬ n < 10 ^ Text.digitLimit := by
    rw [← Text.length_toDigits_le_iff n (by decide), Nat.not_le]
  by_cases hn : n < 10 ^ Text.digitLimit <;>
    simp [readMagnitude, wholeDigits_toDigits n h, wanted, hfraction, hexponent, hlength, digitsValue_toDigits, hn, bind,
      Except.bind, pure, Except.pure, throw, throwThe, MonadExceptOf.throw]

theorem readValue_digit {c : Char} (h : c.isDigit = true) (fuel room : Nat) (cs : List Char) :
    readValue (fuel + 1) room (c :: cs) = readMagnitude false (c :: cs) := by
  rw [readValue.eq_def]
  dsimp only
  split
  all_goals
    first
    | rfl
    | next heq =>
        rw [(List.cons.inj heq).1] at h
        exact absurd h (by decide)

theorem readValue_minus {c : Char} (h : c.isDigit = true) (fuel room : Nat) (cs : List Char) :
    readValue (fuel + 1) room ('-' :: c :: cs) = readMagnitude true (c :: cs) := by
  rw [readValue.eq_def]
  dsimp only
  split
  case h_9 heq =>
    rw [(List.cons.inj (List.cons.inj heq).2).1] at h
    exact absurd h (by decide)
  case h_10 heq => rw [(List.cons.inj heq).2]
  case h_11 hminus => exact absurd rfl (hminus _)
  all_goals
    next heq => exact absurd (List.cons.inj heq).1 (by decide)

theorem toList_ofNat (n : Nat) : (toString (Int.ofNat n)).toList = Nat.toDigits 10 n :=
  Nat.toList_repr

theorem toList_negSucc (n : Nat) : (toString (Int.negSucc n)).toList = '-' :: Nat.toDigits 10 (n + 1) := by
  show ("-" ++ Nat.repr (n + 1)).toList = _
  rw [String.toList_append, Nat.toList_repr]
  rfl

theorem head_toDigits (n : Nat) : ∃ c cs, Nat.toDigits 10 n = c :: cs ∧ c.isDigit = true := by
  obtain ⟨c, cs, hcs⟩ := List.exists_cons_of_ne_nil (Nat.toDigits_ne_nil : Nat.toDigits 10 n ≠ [])
  exact ⟨c, cs, hcs, isDigit_of_mem_toDigits (hcs ▸ List.mem_cons_self)⟩

theorem head_int (i : Int) : ∃ c cs, (toString i).toList = c :: cs ∧ (c = '-' ∨ c.isDigit = true) := by
  cases i with
  | ofNat n =>
    obtain ⟨c, cs, hcs, hc⟩ := head_toDigits n
    exact ⟨c, cs, (toList_ofNat n).trans hcs, .inr hc⟩
  | negSucc n => exact ⟨_, _, toList_negSucc n, .inl rfl⟩

/-- A whole number of few digits is read back, and no other. -/
theorem readValue_int (i : Int) {rest : List Char} (h : Ends rest) (fuel room : Nat) :
    (Text.Short i → readValue (fuel + 1) room ((toString i).toList ++ rest) = .ok (.int i, rest)) ∧
    (¬ Text.Short i → ∃ count,
      readValue (fuel + 1) room ((toString i).toList ++ rest) = .error (.tooManyDigits count)) := by
  have hread : ∃ count, readValue (fuel + 1) room ((toString i).toList ++ rest) =
      if i.natAbs < 10 ^ Text.digitLimit then .ok (.int i, rest) else .error (.tooManyDigits count) := by
    cases i with
    | ofNat n =>
      obtain ⟨c, cs, hcs, hc⟩ := head_toDigits n
      rw [toList_ofNat, hcs, List.cons_append, readValue_digit hc, ← List.cons_append, ← hcs,
        readMagnitude_toDigits false n h]
      exact ⟨_, rfl⟩
    | negSucc n =>
      obtain ⟨c, cs, hcs, hc⟩ := head_toDigits (n + 1)
      rw [toList_negSucc, hcs, List.cons_append, List.cons_append, readValue_minus hc, ← List.cons_append, ← hcs,
        readMagnitude_toDigits true (n + 1) h]
      exact ⟨_, rfl⟩
  obtain ⟨count, hread⟩ := hread
  rw [hread]
  exact ⟨fun hi => if_pos hi, fun hi => ⟨count, if_neg hi⟩⟩

end Numbers
end BuildTree.Json
