import SqlTemplate.Proofs.Literal.RoundTrip

/-!
# The content of bytes literals

`decodeBytes?` gives the bytes that the content of a bytes literal stands for: a backslash before a
backslash or an apostrophe stands for the latter, one before `x` and two hexadecimal digits for the
byte that these denote, and every other character for itself. What is written for bytes is decoded
to them (`decodeBytes?_flatMap`), so different bytes are written differently. It is plain ASCII, and
where the bytes themselves are, it is what is written for the text of the same characters
(`bytesLiteral_eq_quotedString`).
-/

namespace SqlTemplate

/-- The bytes that the content of a bytes literal stands for. -/
def decodeBytes? : Text → Option (List UInt8)
  | [] => some []
  | '\\' :: '\\' :: s => (decodeBytes? s).map (0x5C :: ·)
  | '\\' :: '\'' :: s => (decodeBytes? s).map (0x27 :: ·)
  | '\\' :: 'x' :: a :: d :: s =>
    match Literal.hexValue? a, Literal.hexValue? d with
    | some m, some n => (decodeBytes? s).map (UInt8.ofNat (16 * m + n) :: ·)
    | _, _ => none
  | '\\' :: _ => none
  | c :: s => if c.toNat < 256 then (decodeBytes? s).map (UInt8.ofNat c.toNat :: ·) else none

/-- Printable ASCII. -/
def IsPrintable (n : Nat) : Prop := 0x20 ≤ n ∧ n ≤ 0x7E

instance (n : Nat) : Decidable (IsPrintable n) := inferInstanceAs (Decidable (_ ∧ _))

/-! ## One byte -/

/-- **The ways to write a byte**: as a printable character, escaped as in a text, or as two
hexadecimal digits. -/
theorem byteLiteral_cases (b : UInt8) :
    (IsPrintable b.toNat ∧ byteLiteral b = Text.escapeChar '\'' (Char.ofNat b.toNat)) ∨
      (¬ IsPrintable b.toNat ∧
        byteLiteral b = "\\x".toList ++ (Text.padded 16 2 b.toNat).map Char.toUpper) := by
  unfold byteLiteral
  by_cases hb : b = 0x5C
  · subst hb
    exact .inl (by decide)
  by_cases hq : b = 0x27
  · subst hq
    exact .inl (by decide)
  rw [if_neg hb, if_neg hq]
  by_cases hp : IsPrintable b.toNat
  · have hv := Literal.toNat_ofNat_ascii b.toNat (by have := hp.2; omega)
    have hne : ∀ c : Char, b.toNat ≠ c.toNat → Char.ofNat b.toNat ≠ c := by
      rintro c hc rfl
      exact hc hv.symm
    have hb' : Char.ofNat b.toNat ≠ '\\' := hne _ fun e => hb (UInt8.toNat_inj.1 e)
    have hq' : Char.ofNat b.toNat ≠ '\'' := hne _ fun e => hq (UInt8.toNat_inj.1 e)
    rw [if_pos ⟨hp.1, Nat.lt_succ_of_le hp.2⟩, Text.escapeChar, if_neg hb', if_neg hq']
    exact .inl ⟨hp, rfl⟩
  · rw [if_neg fun h => hp ⟨h.1, Nat.le_of_lt_succ h.2⟩]
    exact .inr ⟨hp, rfl⟩

/-- An ASCII character is decoded from its escaped form. -/
theorem decodeBytes?_escapeChar {n : Nat} (hn : n < 128) (s : Text) :
    decodeBytes? (Text.escapeChar '\'' (Char.ofNat n) ++ s) =
      (decodeBytes? s).map (UInt8.ofNat n :: ·) := by
  have hv := Literal.toNat_ofNat_ascii n hn
  unfold Text.escapeChar
  split
  · rename_i hc
    rw [← hv, hc]
    rfl
  · rename_i hc
    split
    · rename_i hq
      rw [← hv, hq]
      rfl
    · rw [List.singleton_append, decodeBytes?, hv, if_pos (by omega)]
      all_goals simp [hc]

/-- A byte is decoded from its two digits. -/
theorem decodeBytes?_hexByte (b : UInt8) (s : Text) :
    decodeBytes? ("\\x".toList ++ (Text.padded 16 2 b.toNat).map Char.toUpper ++ s) =
      (decodeBytes? s).map (b :: ·) := by
  obtain ⟨a, rest, hp, ha, hr⟩ :=
    List.map_eq_cons_iff.1 (Literal.hexValue?_padded b.toNat b.toNat_lt)
  obtain ⟨d, rest, rfl, hd, hr⟩ := List.map_eq_cons_iff.1 hr
  obtain rfl := List.map_eq_nil_iff.1 hr
  rw [hp]
  show decodeBytes? ('\\' :: 'x' :: a :: d :: s) = _
  rw [decodeBytes?, ha, hd]
  simp only [Nat.div_add_mod, UInt8.ofNat_toNat]

/-- A byte is decoded off the front of a content. -/
theorem decodeBytes?_byteLiteral (b : UInt8) (s : Text) :
    decodeBytes? (byteLiteral b ++ s) = (decodeBytes? s).map (b :: ·) := by
  rcases byteLiteral_cases b with ⟨hp, hw⟩ | ⟨-, hw⟩
  · rw [hw, decodeBytes?_escapeChar (by have := hp.2; omega), UInt8.ofNat_toNat]
  · rw [hw, decodeBytes?_hexByte]

theorem isPrintable_of_hexValue? {c : Char} {n : Nat} (h : Literal.hexValue? c = some n) :
    IsPrintable c.toNat := by
  have hbetween : ∀ a b : Char, a ≤ c ∧ c ≤ b → a.toNat ≤ c.toNat ∧ c.toNat ≤ b.toNat :=
    fun _ _ h => h
  unfold Literal.hexValue? at h
  unfold IsPrintable
  split at h
  · rename_i hd
    have hc : 48 ≤ c.toNat ∧ c.toNat ≤ 57 := Char.isDigit_iff_toNat.1 hd
    omega
  · split at h
    · rename_i hl
      have hc := hbetween 'a' 'f' hl
      simp only [Char.reduceToNat] at hc
      omega
    · split at h
      · rename_i hu
        have hc := hbetween 'A' 'F' hu
        simp only [Char.reduceToNat] at hc
        omega
      · cases h

theorem isPrintable_hexDigits {n : Nat} (hn : n < 256) {c : Char}
    (hc : c ∈ (Text.padded 16 2 n).map Char.toUpper) : IsPrintable c.toNat := by
  have hm : Literal.hexValue? c ∈ [some (n / 16), some (n % 16)] :=
    Literal.hexValue?_padded n hn ▸ List.mem_map_of_mem hc
  rcases List.mem_pair.1 hm with h | h
  · exact isPrintable_of_hexValue? h
  · exact isPrintable_of_hexValue? h

/-- Escaping brings in backslashes and nothing else. -/
theorem mem_escapeChar {q c d : Char} (h : c ∈ Text.escapeChar q d) : c = '\\' ∨ c = d := by
  unfold Text.escapeChar at h
  split at h
  · exact .inl (by simpa using h)
  · split at h
    · rename_i hq
      subst hq
      exact List.mem_pair.1 h
    · exact .inr (List.mem_singleton.1 h)

/-- The form of a byte is printable. -/
theorem isPrintable_byteLiteral (b : UInt8) : ∀ c ∈ byteLiteral b, IsPrintable c.toNat := by
  intro c hc
  rcases byteLiteral_cases b with ⟨hp, hw⟩ | ⟨-, hw⟩
  · rw [hw] at hc
    rcases mem_escapeChar hc with rfl | rfl
    · decide
    · rwa [Literal.toNat_ofNat_ascii b.toNat (by have := hp.2; omega)]
  · rw [hw] at hc
    rcases List.mem_append.1 hc with hc | hc
    · rcases List.mem_pair.1 hc with rfl | rfl
      · decide
      · decide
    · exact isPrintable_hexDigits b.toNat_lt hc

/-! ## Several bytes -/

/-- **What is written for bytes is decoded to them.** -/
theorem decodeBytes?_flatMap (data : List UInt8) :
    decodeBytes? (data.flatMap byteLiteral) = some data := by
  induction data with
  | nil => rfl
  | cons b rest ih => rw [List.flatMap_cons, decodeBytes?_byteLiteral, ih, Option.map_some]

/-- Different bytes have different literals. -/
theorem bytesLiteral_inj {data data' : List UInt8} :
    bytesLiteral data = bytesLiteral data' ↔ data = data' := by
  refine ⟨fun h => ?_, congrArg _⟩
  have hc := List.append_cancel_left (List.append_cancel_right h)
  have hd := decodeBytes?_flatMap data
  rw [hc, decodeBytes?_flatMap] at hd
  exact (Option.some.inj hd).symm

/-- **Printable bytes are written as the text of the same characters.** -/
theorem bytesLiteral_eq_quotedString {data : List UInt8} (h : ∀ b ∈ data, IsPrintable b.toNat) :
    bytesLiteral data = Text.quotedString (data.map fun b => Char.ofNat b.toNat) := by
  have hb : data.flatMap byteLiteral =
      (data.map fun b => Char.ofNat b.toNat).flatMap (Text.escapeChar '\'') := by
    rw [List.flatMap_map]
    refine List.flatMap_congr fun b hm => ?_
    rcases byteLiteral_cases b with ⟨-, hw⟩ | ⟨hp, -⟩
    · exact hw
    · exact absurd (h b hm) hp
  rw [bytesLiteral, hb, ← Text.escape_single (by decide)]
  rfl

end SqlTemplate
