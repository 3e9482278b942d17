import Mathlib.Tactic.NormNum
import SqlTemplate.Proofs.Literal.ByteContent
import SqlTemplate.Proofs.Literal.Obstacle
import SqlTemplate.Proofs.Number.Positional

/-!
# Literal forms of values without parts

A value without parts that a standard writer is for is written from what it is built on, whatever
its class is (`writeLiteral_isCoreOf`). Decimals are numerals that denote them exactly, and bytes
are texts of printable ASCII that are decoded to them.
-/

namespace SqlTemplate

namespace Value

open Literal (Numeric)

/-- A value is `core`, or is built on it, and its class is one of those that `fits` tells. -/
inductive IsCoreOf (fits : Class → Bool) (core : Value) : Value → Prop
  | itself : fits core.cls = true → IsCoreOf fits core core
  | derived {cls : Class} {payload : Value} :
      fits cls = true → IsCoreOf fits core (object cls core payload)
  | member {cls : Class} {value : Value} :
      fits cls = true → IsCoreOf fits core (mixed cls core value)

/-- The predefined values that have a literal form of their own and no parts. -/
def isAtom : Value → Bool
  | bool _ | int _ | float _ | decimal _ | text _ | bytes .. | uuid _ | date _ | time _
  | dateTime _ => true
  | _ => false

section

variable {core : Value} (ha : core.isAtom = true) (setting : Setting)

include ha

/-- An atom is built on nothing else. -/
theorem core_of_isAtom : core.core = core := by
  cases core <;> first | rfl | cases ha

/-- It has no parts to write. -/
theorem writeParts_of_isAtom : writeParts setting core = .none := by
  cases core <;> first | rfl | cases ha

/-- It is written by the writer of its class. -/
theorem write_of_isAtom : write setting core = setting.atom core := by
  cases core <;> first | rfl | cases ha

end

/-- A value is written as what it is built on, under the name of its own class. -/
theorem writeLiteral_isCoreOf {s : Standard} {core v : Value} (ha : core.isAtom = true)
    (hs : s ≠ .enumeration) (hv : core.IsCoreOf (·.isWrittenBy s) v) :
    writeLiteral Writer.dispatcher v = s.write v.cls core .none := by
  have hf : ∀ {cls : Class}, cls.isWrittenBy s = true →
      (Setting.nested Writer.dispatcher depthLimit).find cls = some (.standard s) :=
    fun hc => Class.isWrittenBy_iff.1 hc
  unfold writeLiteral
  cases hv with
  | itself hc => rw [write_of_isAtom ha, Setting.atom, hf hc]
  | derived hc =>
    rw [write, Setting.deliver, hf hc, core_of_isAtom ha, writeParts_of_isAtom ha]
    rfl
  | member hc =>
    have hne : some (Writer.standard s) ≠ some (.standard .enumeration) := fun h =>
      hs (Writer.standard.inj (Option.some.inj h))
    rw [write, hf hc]
    split
    · rename_i h
      exact absurd h hne
    · rw [Setting.deliver, hf hc, core_of_isAtom ha, writeParts_of_isAtom ha]
      rfl

/-! ## Decimals -/

theorem pointed_eq_ite {fraction : Text} {exponent : Int}
    (h : fraction.length = (-exponent).toNat) :
    Decimal.pointed fraction = if exponent < 0 then '.' :: fraction else [] := by
  by_cases he : exponent < 0
  · have hne : fraction ≠ [] := by
      rw [← List.length_pos_iff]
      omega
    rw [Decimal.pointed, if_neg (by simpa using hne), if_pos he]
  · have hnil : fraction = [] := by
      rw [← List.length_eq_zero_iff]
      omega
    rw [hnil, if_neg he]
    rfl

/-- Beside digits and points only a minus sign is in a number without exponent. -/
theorem mem_sign_append {t : Text} (h : Numeric t) {c : Char} (hd : c.isDigit = false)
    (hp : c ≠ '.') (negative : Bool) :
    c ∈ Text.sign negative ++ t ↔ negative = true ∧ c = '-' := by
  rw [List.mem_append, or_iff_left (h.not_mem hd hp)]
  cases negative <;> simp [Text.sign]

/-- **The literal form of a decimal**, of whatever class. A finite one is written as a minus sign
where its sign is set, digits, at least one, and where its exponent is negative a point and as many
digits as the exponent says; no letter marks an exponent. Read back, the text denotes exactly the
number that sign, coefficient and exponent make. One that is not finite is a failure to serialize,
and nothing is written for it. -/
theorem writeLiteral_decimal {v : Value} {d : Decimal}
    (hv : (decimal d).IsCoreOf (·.isWrittenBy .decimal) v) :
    let w := writeLiteral Writer.dispatcher v
    (∀ negative coefficient exponent, d = .finite negative coefficient exponent →
      ∃ whole fraction : Text,
        let t := Text.sign negative ++ whole ++ (if exponent < 0 then '.' :: fraction else [])
        w = .ok t ∧ whole ≠ [] ∧ (∀ c ∈ whole ++ fraction, c.isDigit = true) ∧
        fraction.length = (-exponent).toNat ∧ ('-' ∈ t ↔ negative = true) ∧ 'e' ∉ t ∧ 'E' ∉ t ∧
        Decimal.readPositional? t =
          some ((-1) ^ negative.toNat * coefficient * 10 ^ exponent : ℚ)) ∧
    (d.isFinite = false → ∃ fault, w = .fault fault ∧ fault.isSerialization = true ∧
      fault.className? = some v.cls.name) := by
  intro w
  have hw : w = decimalLiteral v.cls.name d := writeLiteral_isCoreOf rfl (by decide) hv
  constructor
  · rintro negative coefficient exponent rfl
    obtain ⟨t, ht, whole, fraction, rfl, hn, hwhole, hfraction, hl, hvalue⟩ :=
      Decimal.isNumeral_plainText negative coefficient exponent
    have hread := Decimal.readPositional?_pointed hn hwhole hfraction negative
    have hnumeric : Numeric (whole ++ Decimal.pointed fraction) :=
      Decimal.numeric_pointed hwhole hfraction
    rw [hvalue, ← mul_assoc] at hread
    rw [pointed_eq_ite hl] at ht hread hnumeric
    refine ⟨whole, fraction, ?_, hn, ?_, hl, ?_, ?_, ?_, ?_⟩
    · rw [hw, List.append_assoc, ← ht]
      rfl
    · exact fun c hc => (List.mem_append.1 hc).elim (hwhole c) (hfraction c)
    · rw [List.append_assoc, mem_sign_append hnumeric (by decide) (by decide), and_iff_left rfl]
    · rw [List.append_assoc, mem_sign_append hnumeric (by decide) (by decide)]
      exact fun h => absurd h.2 (by decide)
    · rw [List.append_assoc, mem_sign_append hnumeric (by decide) (by decide)]
      exact fun h => absurd h.2 (by decide)
    · rw [List.append_assoc]
      exact hread
  · intro hd
    refine ⟨.nonFinite v.cls.name d.toText, ?_, rfl, rfl⟩
    rw [hw]
    cases d with
    | finite negative coefficient exponent => cases hd
    | infinite negative => rfl
    | notANumber negative signaling payload => rfl

def moneyClass : Class := .mk (.declared 0) "Money".toList [Class.decimal]

/-- Zeros in front of the point and behind it, a negative nought with a positive exponent, and an
amount of a declared class that is not a number. -/
theorem writeLiteral_decimal_noughts :
    let w := writeLiteral Writer.dispatcher
    (w (decimal (.finite true 50 (-3))) = .ok "-0.050".toList ∧
      Decimal.readPositional? "-0.050".toList = some (-1 / 20)) ∧
    (∃ t, w (decimal (.finite true 0 3)) = .ok t ∧ '-' ∈ t ∧
      Decimal.readPositional? t = some 0) ∧
    ∃ fault, w (object moneyClass (decimal (.notANumber true true 7)) null) = .fault fault ∧
      fault.isSerialization = true ∧ fault.className? = some "Money".toList := by
  intro w
  have itself : ∀ d, (decimal d).IsCoreOf (·.isWrittenBy .decimal) (decimal d) :=
    fun d => .itself rfl
  refine ⟨⟨rfl, ?_⟩, ?_, ?_⟩
  · obtain ⟨whole, fraction, ht, -, -, -, -, -, -, hr⟩ :=
      (writeLiteral_decimal (itself (.finite true 50 (-3)))).1 true 50 (-3) rfl
    have ht' : "-0.050".toList = _ := Written.ok_inj.1 ht
    rw [ht', hr]
    norm_num
  · obtain ⟨whole, fraction, ht, -, -, -, hm, -, -, hr⟩ :=
      (writeLiteral_decimal (itself (.finite true 0 3))).1 true 0 3 rfl
    refine ⟨_, ht, hm.2 rfl, hr.trans ?_⟩
    norm_num
  · exact (writeLiteral_decimal (.derived rfl)).2 rfl

/-! ## Bytes -/

theorem isCoreOf_bytes (kind : BytesKind) (data : List UInt8) :
    (bytes kind data).IsCoreOf (·.isWrittenBy .bytes) (bytes kind data) := by
  cases kind <;> exact .itself rfl

theorem writeLiteral_isCoreOf_bytes {kind : BytesKind} {data : List UInt8} {v : Value}
    (hv : (bytes kind data).IsCoreOf (·.isWrittenBy .bytes) v) :
    writeLiteral Writer.dispatcher v = .ok (bytesLiteral data) :=
  writeLiteral_isCoreOf rfl (by decide) hv

/-- **The literal form of bytes** of any kind and class: printable ASCII between apostrophes, with a
content that is decoded to exactly these bytes. Where all of them are printable it is the literal
form of the text of the same characters. Other bytes have another literal form. -/
theorem writeLiteral_bytes (data : List UInt8) : ∃ content t : Text,
    t = '\'' :: content ++ ['\''] ∧
    (∀ kind v, (bytes kind data).IsCoreOf (·.isWrittenBy .bytes) v →
      writeLiteral Writer.dispatcher v = .ok t) ∧
    (∀ c ∈ t, 0x20 ≤ c.toNat ∧ c.toNat ≤ 0x7E) ∧
    decodeBytes? content = some data ∧
    ((∀ b ∈ data, 0x20 ≤ b.toNat ∧ b.toNat ≤ 0x7E) →
      ∀ v, (text (data.map fun b => Char.ofNat b.toNat)).IsCoreOf (·.isWrittenBy .text) v →
        writeLiteral Writer.dispatcher v = .ok t) ∧
    ∀ data' kind v, (bytes kind data').IsCoreOf (·.isWrittenBy .bytes) v →
      (writeLiteral Writer.dispatcher v = .ok t ↔ data' = data) := by
  refine ⟨data.flatMap byteLiteral, bytesLiteral data, rfl, ?_, ?_, decodeBytes?_flatMap data, ?_, ?_⟩
  · intro kind v hv
    exact writeLiteral_isCoreOf_bytes hv
  · intro c hc
    rcases List.mem_append.1 hc with hc | hc
    · rcases List.mem_cons.1 hc with rfl | hc
      · decide
      · obtain ⟨b, -, hb⟩ := List.mem_flatMap.1 hc
        exact isPrintable_byteLiteral b c hb
    · rw [List.mem_singleton.1 hc]
      decide
  · intro hp v hv
    rw [bytesLiteral_eq_quotedString hp]
    exact writeLiteral_isCoreOf rfl (by decide) hv
  · intro data' kind v hv
    rw [writeLiteral_isCoreOf_bytes hv, Written.ok_inj, bytesLiteral_inj]

/-- An apostrophe, a backslash and an `x` with two digits, all printable, and a byte that is not. -/
theorem writeLiteral_bytes_escapes :
    let w := writeLiteral Writer.dispatcher
    let printable : List UInt8 := [0x27, 0x5C, 0x78, 0x34, 0x31]
    let written := Written.ok "'\\'\\\\x41'".toList
    w (bytes .byteArray printable) = written ∧ w (bytes .memoryView printable) = written ∧
    w (text "'\\x41".toList) = written ∧
    w (bytes .bytes [0xC3]) = .ok "'\\xC3'".toList ∧
    decodeBytes? "\\xC3".toList = some [0xC3] := by
  intro w printable written
  obtain ⟨content, t, -, hk, -, -, ht, -⟩ := writeLiteral_bytes printable
  have hw : w (bytes .bytes printable) = .ok _ := hk _ _ (isCoreOf_bytes .bytes printable)
  have hp : ∀ b ∈ printable, 0x20 ≤ b.toNat ∧ b.toNat ≤ 0x7E := by simp [printable]
  obtain ⟨content', t', rfl, hk', -, hd', -⟩ := writeLiteral_bytes [0xC3]
  have hw' : w (bytes .bytes [0xC3]) = .ok _ := hk' _ _ (isCoreOf_bytes .bytes [0xC3])
  have hc' : content' = "\\xC3".toList := by
    have h : "'\\xC3'".toList = '\'' :: content' ++ ['\''] := Written.ok_inj.1 hw'
    exact (List.append_cancel_right (List.cons.inj h).2).symm
  refine ⟨?_, ?_, ?_, rfl, hc' ▸ hd'⟩
  · exact (hk _ _ (isCoreOf_bytes _ _)).trans (hw.symm.trans rfl)
  · exact (hk _ _ (isCoreOf_bytes _ _)).trans (hw.symm.trans rfl)
  · exact (ht hp _ (.itself rfl)).trans (hw.symm.trans rfl)

end Value

end SqlTemplate
