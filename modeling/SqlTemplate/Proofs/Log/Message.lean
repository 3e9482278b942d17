import Mathlib.Data.Bool.AllAny
import SqlTemplate.Log.Message

/-!
# Messages piece by piece

A message is spelled as a series of pieces: texts, whose percent signs are doubled, and directives,
with a key or without. Each directive is read back from its spelling (`Directive.read_spelled`), so
a message is filled piece by piece (`fillMessage_pieces`): texts stay as they are, a directive shows
the next argument, and what goes wrong first is what the message is refused for.

With arguments in order, directives that show any value are short of arguments, or leave some over,
exactly if there are more of them, or fewer, than arguments (`fillPieces_shown`).
-/

namespace SqlTemplate

/-! ## Directives -/

namespace Directive

/-- The letters of directives. -/
def letters : Text := "sradiuxXocfFeEgG".toList

theorem letter_mem {c : Char} (h : (Conversion.named? c).isSome) : c ∈ letters := by
  unfold Conversion.named? at h
  split at h
  all_goals first | decide | cases h

/-- What can be spelled: flags that are known, counts that are small enough, and a letter that names
a conversion. -/
structure WellFormed (d : Directive) : Prop where
  flags : ∀ c ∈ d.flags, c ∈ "-+ #0".toList
  width : d.width < widthCount.bound
  precision : ∀ p ∈ d.precision?, p < precisionCount.bound
  letter : (Conversion.named? d.letter).isSome

/-- The digits of a width. No width is written without digits, so that none looks like a flag. -/
def widthText (n : Nat) : Text := if n = 0 then [] else Nat.toDigits 10 n

def precisionText : Option Nat → Text
  | none => []
  | some n => '.' :: Nat.toDigits 10 n

/-- The text of a directive behind its percent sign. -/
def spelled (d : Directive) : Text :=
  d.flags ++ widthText d.width ++ precisionText d.precision? ++ [d.letter]

/-- A key between parentheses. -/
def keyText : Option Text → Text
  | none => []
  | some key => '(' :: key ++ [')']

/-- The supply that a directive with or without a key takes its argument from. -/
def supplied (supply : Supply) : Option Text → Except MessageFault Supply
  | none => .ok supply
  | some key => supply.keyed key

/-! ## Reading directives back -/

theorem takeWhile_append_stop {p : Char → Bool} {t rest : Text} (ht : ∀ c ∈ t, p c = true)
    (hr : ∀ c ∈ rest.head?, p c = false) : (t ++ rest).takeWhile p = t := by
  rw [List.takeWhile_append_of_pos ht]
  cases rest with
  | nil => simp
  | cons c rest => simp [hr c rfl]

theorem isDigit_widthText (n : Nat) : ∀ c ∈ widthText n, c.isDigit = true := by
  unfold widthText
  split
  · simp
  · exact fun _ => Nat.isDigit_of_mem_toDigits (by decide) (by decide)

/-- A width is read back, nought from no digits at all. -/
theorem digitsValue_widthText (n : Nat) : Decimal.digitsValue (widthText n) = n := by
  unfold widthText
  split
  · rename_i h
    rw [h]
    rfl
  · exact Nat.ofDigitChars_ten_toDigits

/-- The digits of a number do not begin with nought unless it is nought. -/
theorem head_toDigits_ne {n : Nat} (h : n ≠ 0) : (Nat.toDigits 10 n).head? ≠ some '0' := by
  induction n using Nat.strongRecOn with
  | _ n ih =>
    by_cases hn : n < 10
    · have hd : ∀ n < 10, n ≠ 0 → Nat.digitChar n ≠ '0' := by decide
      rw [Nat.toDigits_of_lt_base hn]
      simpa using hd n hn h
    · have hs := ih (n / 10) (by omega) (by omega)
      rw [Nat.toDigits_of_base_le (by decide) (by omega)]
      cases hq : Nat.toDigits 10 (n / 10) with
      | nil => exact absurd hq Nat.toDigits_ne_nil
      | cons c t =>
        rw [hq] at hs
        exact hs

/-- A letter of a directive cannot be taken for anything that stands before it. -/
theorem letter_apart : ∀ c ∈ letters, c.isDigit = false ∧ "-+ #0".toList.contains c = false ∧
    c ∉ "(*.%hlL".toList :=
  List.all_iff_forall_prop.1 (by decide)

/-- Digits are read as the number they stand for, up to what cannot be counted with. -/
theorem readCount_digits {count : Count} {t rest : Text} (ht : ∀ c ∈ t, c.isDigit = true)
    (hr : ∀ c ∈ rest.head?, c.isDigit = false ∧ c ≠ '*')
    (hb : Decimal.digitsValue t < count.bound) (supply : Supply) :
    readCount count supply (t ++ rest) = .ok (Decimal.digitsValue t, supply, rest) := by
  have htake : (t ++ rest).takeWhile Char.isDigit = t :=
    takeWhile_append_stop ht fun c hc => (hr c hc).1
  unfold readCount
  split
  · rename_i s hs
    cases t with
    | nil => exact absurd rfl (hr '*' (by rw [← List.nil_append rest, hs]; rfl)).2
    | cons c t =>
      have hc := ht c List.mem_cons_self
      rw [(List.cons.inj hs).1] at hc
      cases hc
  · rw [htake, if_pos hb, List.drop_left]

/-- A precision is read back, or that there is none. -/
theorem readPrecision_text {precision? : Option Nat}
    (hp : ∀ p ∈ precision?, p < precisionCount.bound) {letter : Char} (hl : letter ∈ letters)
    (supply : Supply) (rest : Text) :
    readPrecision supply (precisionText precision? ++ letter :: rest) =
      .ok (precision?, supply, letter :: rest) := by
  obtain ⟨hd, -, hs⟩ := letter_apart letter hl
  cases precision? with
  | none =>
    rw [precisionText, List.nil_append, readPrecision]
    intro s hc
    rw [(List.cons.inj hc).1] at hs
    exact absurd (by decide) hs
  | some p =>
    have hv : Decimal.digitsValue (Nat.toDigits 10 p) = p := Nat.ofDigitChars_ten_toDigits
    have hr : ∀ c ∈ (letter :: rest).head?, c.isDigit = false ∧ c ≠ '*' := by
      rintro c ⟨⟩
      exact ⟨hd, fun hc => hs (hc ▸ by decide)⟩
    have hd : ∀ c ∈ Nat.toDigits 10 p, c.isDigit = true := fun _ =>
      Nat.isDigit_of_mem_toDigits (by decide) (by decide)
    have hb : Decimal.digitsValue (Nat.toDigits 10 p) < precisionCount.bound := hv.symm ▸ hp p rfl
    have hc := readCount_digits hd hr hb supply
    rw [precisionText, List.cons_append, readPrecision, hc, hv]
    rfl

/-- A key without parentheses ends at the first one that closes. -/
theorem splitKey?_append {key : Text} (hk : ∀ c ∈ key, c ≠ '(' ∧ c ≠ ')') (rest : Text) :
    splitKey? 0 (key ++ ')' :: rest) = some (key, rest) := by
  induction key with
  | nil => rw [List.nil_append, splitKey?]
  | cons c key ih =>
    obtain ⟨hc, hk⟩ := List.forall_mem_cons.1 hk
    rw [List.cons_append, splitKey?, ih hk, Option.map_some]
    all_goals simp [hc]

/-- A key leads to its supply, and is passed over. -/
theorem readKey_text {key? : Option Text} (hk : ∀ key ∈ key?, ∀ c ∈ key, c ≠ '(' ∧ c ≠ ')')
    {rest : Text} (hr : rest.head? ≠ some '(') (supply : Supply) :
    readKey supply (keyText key? ++ rest) = (supplied supply key?).map fun s => (s, rest) := by
  cases key? with
  | none =>
    rw [keyText, List.nil_append, readKey]
    · rfl
    · rintro s rfl
      exact hr rfl
  | some key =>
    have hs : keyText (some key) ++ rest = '(' :: (key ++ ')' :: rest) := by simp [keyText]
    rw [hs, readKey, splitKey?_append (hk key rfl), supplied]
    cases he : supply.entries? with
    | none => simp [Supply.keyed, he]; rfl
    | some entries =>
      rw [if_neg (by simp)]
      dsimp only
      cases supply.keyed key <;> rfl

/-- What stands behind the width begins with a point or with the letter. -/
theorem head_precisionText {precision? : Option Nat} {letter : Char} (hl : letter ∈ letters)
    (rest : Text) : ∀ c ∈ (precisionText precision? ++ letter :: rest).head?,
      c.isDigit = false ∧ "-+ #0".toList.contains c = false ∧ c ∉ "(*%hlL".toList := by
  cases precision? with
  | none =>
    rintro c ⟨⟩
    obtain ⟨hd, hf, hs⟩ := letter_apart letter hl
    have hsub : "(*%hlL".toList ⊆ "(*.%hlL".toList := by decide
    exact ⟨hd, hf, fun h => hs (hsub h)⟩
  | some p =>
    rintro c ⟨⟩
    decide

/-- Neither a flag nor the begin of a key or of another directive. -/
def EndsFlags (c : Char) : Prop := "-+ #0".toList.contains c = false ∧ c ≠ '(' ∧ c ≠ '%'

theorem endsFlags_widthText {width : Nat} {rest : Text} (hr : ∀ c ∈ rest.head?, EndsFlags c) :
    ∀ c ∈ (widthText width ++ rest).head?, EndsFlags c := by
  unfold widthText
  split
  · exact hr
  · rename_i hn
    have h0 := head_toDigits_ne hn
    intro c hc
    cases hq : Nat.toDigits 10 width with
    | nil => exact absurd hq Nat.toDigits_ne_nil
    | cons d t =>
      have hd : d.isDigit = true :=
        Nat.isDigit_of_mem_toDigits (b := 10) (n := width) (by decide) (by decide)
          (hq ▸ List.mem_cons_self)
      rw [hq] at hc h0
      obtain rfl : d = c := Option.some.inj hc
      have hne : d ≠ '(' ∧ d ≠ '%' := by
        constructor
        · rintro rfl
          cases hd
        · rintro rfl
          cases hd
      refine ⟨?_, hne⟩
      rw [Bool.eq_false_iff]
      intro hm
      have hm : d ∈ ['-', '+', ' ', '#', '0'] := List.contains_iff_mem.1 hm
      simp only [List.mem_cons, List.not_mem_nil, or_false] at hm
      rcases hm with rfl | rfl | rfl | rfl | rfl
      · cases hd
      · cases hd
      · cases hd
      · cases hd
      · exact h0 rfl

theorem endsFlags_precisionText {precision? : Option Nat} {letter : Char} (hl : letter ∈ letters)
    (rest : Text) : ∀ c ∈ (precisionText precision? ++ letter :: rest).head?, EndsFlags c := by
  intro c hc
  obtain ⟨-, hf, hs⟩ := head_precisionText hl rest c hc
  exact ⟨hf, fun e => hs (e ▸ by decide), fun e => hs (e ▸ by decide)⟩

theorem spelled_append (d : Directive) (rest : Text) :
    d.spelled ++ rest =
      d.flags ++ (widthText d.width ++ (precisionText d.precision? ++ d.letter :: rest)) := by
  simp [spelled]

/-- A directive begins neither like a key nor like a percent sign that is meant as such. -/
theorem head_spelled {d : Directive} (hd : d.WellFormed) (rest : Text) :
    ∀ c ∈ (d.spelled ++ rest).head?, c ≠ '(' ∧ c ≠ '%' := by
  have hw : ∀ c ∈ (widthText d.width ++
      (precisionText d.precision? ++ d.letter :: rest)).head?, EndsFlags c :=
    endsFlags_widthText (endsFlags_precisionText (letter_mem hd.letter) rest)
  rw [spelled_append]
  cases hf : d.flags with
  | nil => exact fun c hc => (hw c hc).2
  | cons c t =>
    have hm : ∀ c ∈ "-+ #0".toList, c ≠ '(' ∧ c ≠ '%' := by simp
    rintro _ ⟨⟩
    exact hm c (hd.flags c (hf ▸ List.mem_cons_self))

/-- **A directive is read back from its spelling**, with the supply that its key leads to. -/
theorem read_spelled {d : Directive} (hd : d.WellFormed) {key? : Option Text}
    (hk : ∀ key ∈ key?, ∀ c ∈ key, c ≠ '(' ∧ c ≠ ')') (supply : Supply) (rest : Text) :
    read supply (keyText key? ++ (d.spelled ++ rest)) =
      (supplied supply key?).map fun s => (d, s, rest) := by
  have hkey := readKey_text hk (fun e => (head_spelled hd rest '(' e).1 rfl) supply
  rw [spelled_append] at hkey ⊢
  obtain ⟨flags, width, precision?, letter⟩ := d
  have hl : letter ∈ letters := letter_mem hd.letter
  have h1 : ∀ c ∈ (precisionText precision? ++ letter :: rest).head?, _ :=
    head_precisionText hl rest
  have h2 : ∀ c ∈ (widthText width ++ (precisionText precision? ++ letter :: rest)).head?, _ :=
    endsFlags_widthText (endsFlags_precisionText hl rest)
  have hf : ∀ c ∈ flags, "-+ #0".toList.contains c = true := by simpa using hd.flags
  have ht := takeWhile_append_stop hf fun c hc => (h2 c hc).1
  have hb : Decimal.digitsValue (widthText width) < widthCount.bound :=
    (digitsValue_widthText width).symm ▸ hd.width
  have hw := readCount_digits (isDigit_widthText width)
    (fun c hc => ⟨(h1 c hc).1, fun e => (h1 c hc).2.2 (e ▸ by decide)⟩) hb
  have hs : skipSize (letter :: rest) = letter :: rest := by
    have hn := (letter_apart letter hl).2.2
    unfold skipSize
    split
    · rename_i h
      exact absurd ((List.cons.inj h).1 ▸ by decide) hn
    · rename_i h
      exact absurd ((List.cons.inj h).1 ▸ by decide) hn
    · rename_i h
      exact absurd ((List.cons.inj h).1 ▸ by decide) hn
    · rfl
  rw [read, hkey]
  cases supplied supply key? with
  | error fault => rfl
  | ok supply =>
    have hp := readPrecision_text hd.precision hl supply rest
    simp only [Except.map, bind, Except.bind, ht, List.drop_left, hw, digitsValue_widthText, hp, hs,
      pure, Except.pure]
    have hw0 : ¬((width : Int) < 0) := by omega
    rw [if_neg hw0, Int.natAbs_natCast]

end Directive

/-! ## Messages -/

inductive MessagePiece where
  | text (s : Text)
  | directive (key? : Option Text) (d : Directive)

namespace MessagePiece

/-- A piece as it stands in a message. -/
def spelled : MessagePiece → Text
  | text s => s.flatMap fun c => if c = '%' then ['%', '%'] else [c]
  | directive key? d => '%' :: (Directive.keyText key? ++ d.spelled)

/-- Keys hold no parentheses, and directives can be spelled. -/
def WellFormed : MessagePiece → Prop
  | text _ => True
  | directive key? d => (∀ key ∈ key?, ∀ c ∈ key, c ≠ '(' ∧ c ≠ ')') ∧ d.WellFormed

/-- What a piece becomes, and the supply that it leaves. -/
def shown (supply : Supply) : MessagePiece → Except MessageFault (Text × Supply)
  | text s => .ok (s, supply)
  | directive key? d => do
    let keyed ← Directive.supplied supply key?
    let (v, supply) ← keyed.next
    return (← d.fill 0 v, supply)

end MessagePiece

/-- The pieces filled one after another. In the end no argument in order may be left over. -/
def fillPieces : List MessagePiece → Supply → Except MessageFault Text
  | [], supply => if supply.left.isEmpty || supply.entries?.isSome then .ok [] else .error .tooMany
  | p :: rest, supply => do
    let (t, supply) ← p.shown supply
    return t ++ (← fillPieces rest supply)

/-- Where the letter of a directive stands only matters if it names no conversion. -/
theorem Directive.fill_place {d : Directive} (h : (Conversion.named? d.letter).isSome)
    (place place' : Nat) (v : Value) : d.fill place v = d.fill place' v := by
  unfold fill
  cases hn : Conversion.named? d.letter with
  | none => rw [hn] at h; cases h
  | some c => cases c <;> rfl

variable {fuel total : Nat} {supply : Supply}

theorem fillFrom_nil : fillFrom (fuel + 1) total supply [] = fillPieces [] supply := rfl

/-- Text in front of a directive stays. -/
theorem fillFrom_cons {c : Char} (hc : c ≠ '%') (s : Text) :
    fillFrom (fuel + 1) total supply (c :: s) =
      (fillFrom (fuel + 1) total supply s).map (c :: ·) := by
  have hp : (c != '%') = true := by simpa using hc
  have hdrop : (c :: s).dropWhile (· != '%') = s.dropWhile (· != '%') := by
    rw [List.dropWhile_cons, if_pos hp]
  have htake : (c :: s).takeWhile (· != '%') = c :: s.takeWhile (· != '%') := by
    rw [List.takeWhile_cons, if_pos hp]
  rw [fillFrom, fillFrom, hdrop, htake]
  split
  · split <;> rfl
  · cases fillFrom fuel total supply _ <;> rfl
  · rename_i directive _ _
    cases Directive.read supply directive with
    | error fault => rfl
    | ok found =>
      simp only [bind, Except.bind]
      cases found.2.1.next with
      | error fault => rfl
      | ok next =>
        dsimp only
        cases found.1.fill (total - found.2.2.length - 1) next.1 with
        | error fault => rfl
        | ok text => cases fillFrom fuel total next.2 found.2.2 <;> rfl

/-- Two percent signs are one. -/
theorem fillFrom_percent (s : Text) :
    fillFrom (fuel + 1) total supply ('%' :: '%' :: s) =
      (fillFrom fuel total supply s).map ('%' :: ·) := by
  rw [fillFrom]
  rfl

/-- A directive is filled with what it is supplied with. -/
theorem fillFrom_directive {key? : Option Text} {d : Directive}
    (h : (MessagePiece.directive key? d).WellFormed) (rest : Text) :
    fillFrom (fuel + 1) total supply ((MessagePiece.directive key? d).spelled ++ rest) = do
      let (t, supply) ← (MessagePiece.directive key? d).shown supply
      return t ++ (← fillFrom fuel total supply rest) := by
  obtain ⟨hk, hd⟩ := h
  have hr := Directive.read_spelled hd hk supply rest
  have hs : (MessagePiece.directive key? d).spelled ++ rest =
      '%' :: (Directive.keyText key? ++ (d.spelled ++ rest)) := by
    rw [MessagePiece.spelled, List.cons_append, List.append_assoc]
  have hn : ∀ c ∈ (Directive.keyText key? ++ (d.spelled ++ rest)).head?, c ≠ '%' := by
    cases key? with
    | none => exact fun c hc => (Directive.head_spelled hd rest c hc).2
    | some key =>
      rintro c ⟨⟩
      decide
  rw [hs, fillFrom]
  generalize Directive.keyText key? ++ (d.spelled ++ rest) = directive at hr hn ⊢
  have hdrop : ('%' :: directive).dropWhile (· != '%') = '%' :: directive := rfl
  have htake : ('%' :: directive).takeWhile (· != '%') = [] := rfl
  rw [hdrop, htake]
  split
  · rename_i h
    cases h
  · rename_i h
    obtain rfl := (List.cons.inj h).2
    exact absurd rfl (hn '%' rfl)
  · rename_i h
    obtain rfl := (List.cons.inj h).2
    rw [hr, MessagePiece.shown]
    cases Directive.supplied supply key? with
    | error fault => rfl
    | ok keyed =>
      simp only [Except.map, bind, Except.bind]
      cases keyed.next with
      | error fault => rfl
      | ok next =>
        dsimp only
        rw [Directive.fill_place hd.letter _ 0]
        cases d.fill 0 next.1 with
        | error fault => rfl
        | ok text => rfl

/-- A text with its percent signs doubled stays as it is, whatever follows. -/
theorem fillFrom_text {rest : Text} {made : Except MessageFault Text}
    (h : ∀ fuel, rest.length < fuel → fillFrom fuel total supply rest = made) (s : Text) :
    ∀ fuel, ((MessagePiece.text s).spelled ++ rest).length < fuel →
      fillFrom fuel total supply ((MessagePiece.text s).spelled ++ rest) = made.map (s ++ ·) := by
  induction s with
  | nil =>
    intro fuel hf
    have hm : made.map (([] : Text) ++ ·) = made := by cases made <;> rfl
    rw [hm]
    exact h fuel hf
  | cons c s ih =>
    intro fuel hf
    have hm : made.map ((c :: s) ++ ·) = (made.map (s ++ ·)).map (c :: ·) := by
      cases made <;> rfl
    obtain ⟨fuel, rfl⟩ : ∃ n, fuel = n + 1 := ⟨fuel - 1, by omega⟩
    rw [hm]
    by_cases hc : c = '%'
    · subst hc
      have hs : (MessagePiece.text ('%' :: s)).spelled ++ rest =
          '%' :: '%' :: ((MessagePiece.text s).spelled ++ rest) := rfl
      rw [hs] at hf ⊢
      rw [fillFrom_percent, ih fuel (by simp only [List.length_cons] at hf; omega)]
    · have hs : (MessagePiece.text (c :: s)).spelled ++ rest =
          c :: ((MessagePiece.text s).spelled ++ rest) := by
        simp [MessagePiece.spelled, hc]
      rw [hs] at hf ⊢
      rw [fillFrom_cons hc, ih (fuel + 1) (by simp only [List.length_cons] at hf; omega)]

/-- The pieces of a rest of a message are filled one after another. -/
theorem fillFrom_pieces {pieces : List MessagePiece} (hp : ∀ p ∈ pieces, p.WellFormed) :
    ∀ fuel supply, (pieces.flatMap MessagePiece.spelled).length < fuel →
      fillFrom fuel total supply (pieces.flatMap MessagePiece.spelled) =
        fillPieces pieces supply := by
  induction pieces with
  | nil =>
    intro fuel supply hf
    obtain ⟨fuel, rfl⟩ : ∃ n, fuel = n + 1 := ⟨fuel - 1, by omega⟩
    exact fillFrom_nil
  | cons p rest ih =>
    obtain ⟨hp, hr⟩ := List.forall_mem_cons.1 hp
    intro fuel supply hf
    rw [List.flatMap_cons] at hf ⊢
    cases p with
    | text s =>
      rw [fillFrom_text (fun fuel hf => ih hr fuel supply hf) s fuel hf, fillPieces,
        MessagePiece.shown]
      simp only [bind, Except.bind]
      cases fillPieces rest supply <;> rfl
    | directive key? d =>
      obtain ⟨fuel, rfl⟩ : ∃ n, fuel = n + 1 := ⟨fuel - 1, by omega⟩
      have hl : (rest.flatMap MessagePiece.spelled).length < fuel := by
        simp only [MessagePiece.spelled, List.length_append, List.length_cons] at hf
        omega
      rw [fillFrom_directive hp, fillPieces]
      cases (MessagePiece.directive key? d).shown supply with
      | error fault => rfl
      | ok shown =>
        simp only [bind, Except.bind]
        rw [ih hr fuel shown.2 hl]

/-- **A message with arguments is filled piece by piece.** -/
theorem fillMessage_pieces {pieces : List MessagePiece} (hp : ∀ p ∈ pieces, p.WellFormed)
    {arguments : List Value} (ha : arguments ≠ []) :
    fillMessage (pieces.flatMap MessagePiece.spelled) arguments =
      fillPieces pieces (.ofArguments arguments) := by
  rw [fillMessage, if_neg (by simpa using ha)]
  exact fillFrom_pieces hp _ _ (Nat.lt_succ_self _)

/-! ## Counting arguments -/

namespace MessagePiece

/-- The piece takes an argument. -/
def isDirective : MessagePiece → Bool
  | text _ => false
  | directive .. => true

/-- The piece takes any argument: it has no key, and shows values of all kinds. -/
def ShowsAny : MessagePiece → Prop
  | text _ => True
  | directive key? d => key? = none ∧ d.letter ∈ "sra".toList

end MessagePiece

/-- Directives that show values take any. -/
theorem Directive.exists_fill {d : Directive} (h : d.letter ∈ "sra".toList) (place : Nat)
    (v : Value) : ∃ t, d.fill place v = .ok t := by
  have hl : d.letter = 's' ∨ d.letter = 'r' ∨ d.letter = 'a' := by simpa using h
  unfold fill
  rcases hl with hl | hl | hl
  · rw [hl]
    exact ⟨_, rfl⟩
  · rw [hl]
    exact ⟨_, rfl⟩
  · rw [hl]
    exact ⟨_, rfl⟩

/-- What comes of a message that takes so many arguments when so many are given. -/
structure Counted (taken given : Nat) (made : Except MessageFault Text) : Prop where
  enough : taken = given → ∃ t, made = .ok t
  tooMany : taken < given → made = .error .tooMany
  tooFew : given < taken → made = .error .tooFew

/-- Text in front changes nothing about it, nor does an argument that is taken. -/
theorem Counted.map {taken given : Nat} {made : Except MessageFault Text}
    (h : Counted taken given made) (n : Nat) (f : Text → Text) :
    Counted (n + taken) (n + given) (made.map f) := by
  refine ⟨fun he => ?_, fun hl => ?_, fun hg => ?_⟩
  · obtain ⟨t, rfl⟩ := h.enough (by omega)
    exact ⟨f t, rfl⟩
  · rw [h.tooMany (by omega)]
    rfl
  · rw [h.tooFew (by omega)]
    rfl

/-- **Arguments have to be as many as directives.** A message that shows values of any kind can be
filled exactly then; with more arguments some are left over, with fewer some are missing. -/
theorem fillPieces_shown {pieces : List MessagePiece} (hp : ∀ p ∈ pieces, p.ShowsAny)
    (arguments : List Value) :
    Counted (pieces.countP MessagePiece.isDirective) arguments.length
      (fillPieces pieces ⟨arguments, none⟩) := by
  induction pieces generalizing arguments with
  | nil =>
    cases arguments with
    | nil =>
      exact ⟨fun _ => ⟨[], rfl⟩, fun h => absurd h (Nat.lt_irrefl 0),
        fun h => absurd h (Nat.lt_irrefl 0)⟩
    | cons v rest =>
      exact ⟨fun h => absurd h.symm (Nat.succ_ne_zero _), fun _ => rfl,
        fun h => absurd h (Nat.not_lt_zero _)⟩
  | cons p rest ih =>
    obtain ⟨hp, hr⟩ := List.forall_mem_cons.1 hp
    cases p with
    | text s =>
      have hf : fillPieces (.text s :: rest) ⟨arguments, none⟩ =
          (fillPieces rest ⟨arguments, none⟩).map (s ++ ·) := by
        rw [fillPieces, MessagePiece.shown]
        simp only [bind, Except.bind]
        cases fillPieces rest ⟨arguments, none⟩ <;> rfl
      have := (ih hr arguments).map 0 (s ++ ·)
      rw [← hf, Nat.zero_add, Nat.zero_add] at this
      rwa [List.countP_cons_of_neg Bool.false_ne_true]
    | directive key? d =>
      obtain ⟨rfl, hd⟩ := hp
      cases arguments with
      | nil =>
        rw [List.countP_cons_of_pos rfl]
        exact ⟨fun h => absurd h (Nat.succ_ne_zero _), fun h => absurd h (Nat.not_lt_zero _),
          fun _ => rfl⟩
      | cons v arguments =>
        obtain ⟨shown, hs⟩ := d.exists_fill hd 0 v
        have hf : fillPieces (.directive none d :: rest) ⟨v :: arguments, none⟩ =
            (fillPieces rest ⟨arguments, none⟩).map (shown ++ ·) := by
          rw [fillPieces, MessagePiece.shown, Directive.supplied]
          simp only [bind, Except.bind, Supply.next, hs, pure, Except.pure]
          cases fillPieces rest ⟨arguments, none⟩ <;> rfl
        have := (ih hr arguments).map 1 (shown ++ ·)
        rw [← hf, Nat.add_comm 1, Nat.add_comm 1] at this
        rwa [List.countP_cons_of_pos rfl]

end SqlTemplate
