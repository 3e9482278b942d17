import Mathlib.Data.List.Chain
import SqlTemplate.Number.Binary64
import SqlTemplate.Proofs.Literal.Spelling

/-!
# Numbers are tokens

The texts of whole, decimal and binary numbers are tokens (`IsToken`): they hold letters, digits,
signs and points only, and a minus sign stands in front of a digit or a word. What a number is made
of before signs and exponents are added, digits and points, is `Numeric`.
-/

namespace SqlTemplate.Literal

/-! ## Minus signs -/

theorem Calm.of_not_mem {t : Text} (h : '-' ∉ t) : Calm t := by
  unfold Calm
  induction t with
  | nil => exact .singleton _
  | cons c t ih =>
    obtain ⟨hc, ht⟩ := List.ne_and_not_mem_of_not_mem_cons h
    rw [List.cons_append, List.isChain_cons]
    exact ⟨fun d _ e => absurd e.symm hc, ih ht⟩

theorem Calm.append {a b : Text} (ha : Calm a) (hb : Calm b) : Calm (a ++ b) := by
  unfold Calm at *
  rw [List.append_assoc]
  rw [List.isChain_append] at ha ⊢
  refine ⟨ha.1, hb, fun x hx y _ e => ?_⟩
  exact absurd rfl (ha.2.2 x hx '-' rfl e)

theorem Calm.minus {t : Text} (ht : Calm t) (hn : t ≠ []) (hh : t.head? ≠ some '-') :
    Calm ('-' :: t) := by
  obtain ⟨c, t, rfl⟩ := List.exists_cons_of_ne_nil hn
  unfold Calm at *
  rw [List.cons_append, List.cons_append, List.isChain_cons_cons]
  exact ⟨fun _ e => hh (e ▸ rfl), ht⟩

/-! ## Digits and points -/

/-- A text of digits and points. -/
def Numeric (t : Text) : Prop := ∀ c ∈ t, c.isDigit = true ∨ c = '.'

theorem Numeric.nil : Numeric [] := by simp [Numeric]

theorem Numeric.digits (n : Nat) : Numeric (Nat.toDigits 10 n) := fun _ hc =>
  .inl (Nat.isDigit_of_mem_toDigits (by decide) (by decide) hc)

theorem Numeric.zeros (n : Nat) : Numeric (List.replicate n '0') := fun c hc =>
  .inl (by rw [(List.mem_replicate.1 hc).2]; decide)

theorem Numeric.append {a b : Text} (ha : Numeric a) (hb : Numeric b) : Numeric (a ++ b) :=
  fun c hc => (List.mem_append.1 hc).elim (ha c) (hb c)

theorem Numeric.point {t : Text} (h : Numeric t) : Numeric ('.' :: t) := fun c hc =>
  (List.mem_cons.1 hc).elim .inr (h c)

theorem Numeric.sublist {a b : Text} (h : Numeric b) (hs : a.Sublist b) : Numeric a := fun c hc =>
  h c (hs.subset hc)

theorem Numeric.bare {t : Text} (h : Numeric t) : ∀ c ∈ t, isBare c = true := by
  intro c hc
  rcases h c hc with h | rfl
  · simp [isBare, Char.isAlphanum, h]
  · decide

theorem Numeric.not_mem {t : Text} (h : Numeric t) {c : Char} (hd : c.isDigit = false)
    (hp : c ≠ '.') : c ∉ t := fun hc => by
  rcases h c hc with h | rfl
  · exact absurd h (by simp [hd])
  · exact hp rfl

theorem Numeric.calm {t : Text} (h : Numeric t) : Calm t :=
  .of_not_mem (h.not_mem (by decide) (by decide))

theorem Numeric.head_ne {t : Text} (h : Numeric t) {c : Char} (hd : c.isDigit = false)
    (hp : c ≠ '.') : t.head? ≠ some c := fun e => h.not_mem hd hp (List.mem_of_mem_head? e)

theorem Numeric.isToken {t : Text} (h : Numeric t) (hn : t ≠ []) : IsToken t :=
  ⟨hn, h.bare, h.head_ne (by decide) (by decide), h.calm⟩

theorem isToken_word {t : Text} (hn : t ≠ []) (hb : t.all isBare = true)
    (hm : t.head? ≠ some 'm') (hd : '-' ∉ t) : IsToken t :=
  ⟨hn, List.all_eq_true.1 hb, hm, .of_not_mem hd⟩

/-- A minus sign may stand in front of a token that has none. -/
theorem IsToken.sign {t : Text} (h : IsToken t) (hh : t.head? ≠ some '-') (negative : Bool) :
    IsToken (Text.sign negative ++ t) := by
  cases negative with
  | false => exact h
  | true =>
    refine ⟨List.cons_ne_nil _ _, fun c hc => ?_, by simp [Text.sign], h.calm.minus h.ne_nil hh⟩
    rcases List.mem_cons.1 hc with rfl | hc
    · decide
    · exact h.bare c hc

theorem Numeric.isToken_sign {t : Text} (h : Numeric t) (hn : t ≠ []) (negative : Bool) :
    IsToken (Text.sign negative ++ t) :=
  (h.isToken hn).sign (h.head_ne (by decide) (by decide)) negative

/-! ## Whole and decimal numbers -/

/-- Whole numbers are tokens. -/
theorem isToken_integer (n : Int) : IsToken (Text.integer n) :=
  (Numeric.digits _).isToken_sign Nat.toDigits_ne_nil _

/-- Decimals without exponent are tokens. -/
theorem isToken_plainText (negative : Bool) (coefficient : Nat) (exponent : Int) :
    IsToken (Decimal.plainText negative coefficient exponent) := by
  have hd := Numeric.digits coefficient
  refine Numeric.isToken_sign ?_ ?_ negative
  · split
    · split
      · exact (Numeric.zeros 1)
      · exact hd.append (.zeros _)
    · have hf :=
        (Numeric.zeros ((-exponent).toNat + 1 - (Nat.toDigits 10 coefficient).length)).append hd
      exact (hf.sublist (List.take_sublist _ _)).append (hf.sublist (List.drop_sublist _ _)).point
  · split
    · split
      · simp
      · simp
    · simp

/-! ## Binary numbers -/

theorem Numeric.padded (width n : Nat) : Numeric (Text.padded 10 width n) :=
  (Numeric.zeros _).append (.digits n)

theorem numeric_shortest (m : Nat) (q : Int) : Numeric (Binary64.shortest m q).1 := by
  have hd := Numeric.digits (Binary64.firstGrid (Binary64.interval m q)
    (Binary64.leadingPlace m q) 20 1).1
  refine hd.sublist ?_
  have hs := (List.dropWhile_sublist (l := (Nat.toDigits 10 (Binary64.firstGrid
    (Binary64.interval m q) (Binary64.leadingPlace m q) 20 1).1).reverse) (· == '0')).reverse
  rwa [List.reverse_reverse] at hs

/-- Positional digits are digits and points. -/
theorem numeric_positional {digits : Text} (h : Numeric digits) (place : Int) :
    Numeric (Binary64.positional digits place) := by
  have hz : Numeric "0.".toList := by simp [Numeric]
  have he : Numeric ".0".toList := by simp [Numeric]
  unfold Binary64.positional
  dsimp only
  split
  · exact (hz.append (.zeros _)).append h
  · split
    · exact (h.append (.zeros _)).append he
    · exact (h.sublist (List.take_sublist _ _)).append (h.sublist (List.drop_sublist _ _)).point

theorem positional_ne_nil (digits : Text) (place : Int) :
    Binary64.positional digits place ≠ [] := by
  unfold Binary64.positional
  dsimp only
  split
  · simp
  · split <;> simp

/-- A mantissa, the mark of the exponent, and the exponent with a sign or without. -/
theorem isToken_exponential {mantissa sign exponent : Text} (hm : Numeric mantissa)
    (hs : sign = [] ∨ sign = ['+'] ∨ sign = ['-']) (he : Numeric exponent) (hn : exponent ≠ []) :
    IsToken (mantissa ++ 'e' :: sign ++ exponent) := by
  have hsign : sign.all isBare = true := by
    rcases hs with rfl | rfl | rfl <;> rfl
  refine ⟨by simp, fun c hc => ?_, fun e => ?_, ?_⟩
  · simp only [List.append_assoc, List.cons_append, List.mem_append, List.mem_cons] at hc
    rcases hc with hc | rfl | hc | hc
    · exact hm.bare c hc
    · decide
    · exact List.all_eq_true.1 hsign c hc
    · exact he.bare c hc
  · cases mantissa with
    | nil => simp at e
    | cons c t => exact hm.head_ne (c := 'm') (by decide) (by decide) e
  · have hmark : Calm (mantissa ++ ['e']) := hm.calm.append (.of_not_mem (by decide))
    have htail : Calm (sign ++ exponent) := by
      rcases hs with rfl | rfl | rfl
      · exact he.calm
      · exact (Calm.of_not_mem (t := ['+']) (by decide)).append he.calm
      · exact he.calm.minus hn (he.head_ne (by decide) (by decide))
    simpa using hmark.append htail

theorem exponential_head_ne {mantissa tail : Text} (hm : Numeric mantissa) :
    (mantissa ++ 'e' :: tail).head? ≠ some '-' := by
  cases mantissa with
  | nil => simp
  | cons c t => exact hm.head_ne (c := '-') (by decide) (by decide)

theorem padded_ne_nil (base width n : Nat) : Text.padded base width n ≠ [] := by
  simp [Text.padded, Nat.toDigits_ne_nil]

/-- Binary numbers are tokens, in every layout. -/
theorem isToken_layout (layout : Binary64.Layout) (negative : Bool) (m : Nat) (q : Int) :
    IsToken (layout.text negative m q) := by
  have hd := numeric_shortest m q
  unfold Binary64.Layout.text
  split
  · exact Numeric.isToken_sign (by simp [Numeric]) (by simp) negative
  · dsimp only
    split
    · exact (numeric_positional hd _).isToken_sign (positional_ne_nil _ _) negative
    · have hm : Numeric ((Binary64.shortest m q).1.take 1 ++
          if (Binary64.shortest m q).1.length ≤ 1 then [] else
            '.' :: (Binary64.shortest m q).1.drop 1) := by
        refine (hd.sublist (List.take_sublist _ _)).append ?_
        split
        · exact .nil
        · exact (hd.sublist (List.drop_sublist _ _)).point
      unfold Binary64.Layout.exponential
      refine (isToken_exponential hm ?_ (.padded _ _) (padded_ne_nil _ _ _)).sign ?_ negative
      · split
        · exact .inr (.inr rfl)
        · split
          · exact .inr (.inl rfl)
          · exact .inl rfl
      · rw [List.append_assoc]
        exact exponential_head_ne hm

theorem isToken_toText (x : Binary64) : IsToken x.toText := by
  cases x with
  | finite negative m q => exact isToken_layout Binary64.literalLayout negative m q
  | infinite negative =>
    have hw : IsToken "inf".toList := isToken_word (by decide) rfl (by decide) (by decide)
    exact hw.sign (by decide) negative
  | notANumber => exact isToken_word (by decide) rfl (by decide) (by decide)

end SqlTemplate.Literal
