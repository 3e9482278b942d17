import Mathlib.Data.List.Chain
import SqlTemplate.Proofs.Literal.Reader
import SqlTemplate.Proofs.Text.Escape

/-!
# Spellings of literals

`Literal.Spells l t` says that the text `t` spells the literal `l`: the grammar of literals, as a
relation and apart from any reader. Quoted texts are spelled character by character (`Quotes`),
tokens by themselves where they look like a number or a word (`IsToken`), and the others by the
spellings of their items. The reader gives back what a text spells, and what is left behind it
(`Spells.read`).
-/

namespace SqlTemplate

namespace Literal

/-! ## The grammar -/

/-- `Quotes q s b`: between two quotes `q`, the text `b` stands for the content `s`. -/
inductive Quotes (q : Char) : Text → Text → Prop
  | nil : Quotes q [] []
  | plain {c : Char} {s b : Text} : c ≠ q → c ≠ '\\' → Quotes q s b → Quotes q (c :: s) (c :: b)
  | escaped {c : Char} {s b : Text} : c ≠ 'x' → Quotes q s b → Quotes q (c :: s) ('\\' :: c :: b)
  | hex {a d : Char} {m n : Nat} {s b : Text} : hexValue? a = some m → hexValue? d = some n →
      Quotes q s b → Quotes q (Char.ofNat (16 * m + n) :: s) ('\\' :: 'x' :: a :: d :: b)

/-- No minus sign stands before another or at the end. -/
def Calm (t : Text) : Prop := (t ++ ['-']).IsChain fun a b => a = '-' → b ≠ '-'

/-- A text that can stand by itself for a number or a word other than the name of a map. -/
structure IsToken (t : Text) : Prop where
  ne_nil : t ≠ []
  bare : ∀ c ∈ t, isBare c = true
  head_ne : t.head? ≠ some 'm'
  calm : Calm t

/-- The text spells the literal. -/
inductive Spells : Literal → Text → Prop
  | token {t : Text} : IsToken t → Spells (.token t) t
  | string {s b : Text} : Quotes '\'' s b → Spells (.string s) ('\'' :: b ++ ['\''])
  | identifier {s b : Text} : Quotes '`' s b → Spells (.identifier s) ('`' :: b ++ ['`'])
  | array {items : List (Literal × Text)} : (∀ i ∈ items, Spells i.1 i.2) →
      Spells (.array (items.map (·.1))) ('[' :: Text.commaJoined (items.map (·.2)) ++ [']'])
  | tuple {items : List (Literal × Text)} : (∀ i ∈ items, Spells i.1 i.2) →
      Spells (.tuple (items.map (·.1))) ('(' :: Text.commaJoined (items.map (·.2)) ++ [')'])
  | map {items : List (Literal × Text)} {entries : List (Literal × Literal)} :
      (∀ i ∈ items, Spells i.1 i.2) → paired? (items.map (·.1)) = some entries →
      Spells (.map entries) ("map(".toList ++ Text.commaJoined (items.map (·.2)) ++ [')'])

/-! ## Reading quoted texts -/

/-- What stands for a content is read back as it. -/
theorem Quotes.read {q : Char} (hq : q ≠ '\\') {s b : Text} (h : Quotes q s b) (rest : Text) :
    readQuoted q (b ++ q :: rest) = some (s, rest) := by
  induction h with
  | nil => rw [List.nil_append, readQuoted, if_pos rfl]
           all_goals simp [hq]
  | plain hc hb _ ih =>
    rw [List.cons_append, readQuoted, if_neg hc, ih]
    · rfl
    all_goals simp [hb]
  | escaped hx _ ih =>
    rw [List.cons_append, List.cons_append, readQuoted, ih]
    · rfl
    all_goals simp [hx]
  | hex ha hd _ ih =>
    simp only [List.cons_append]
    rw [readQuoted, ha, hd]
    simp [ih]

/-- Escaping a content gives what stands for it. -/
theorem quotes_escape {q : Char} (hx : q ≠ 'x') (s : Text) :
    Quotes q s (s.flatMap (Text.escapeChar q)) := by
  induction s with
  | nil => exact .nil
  | cons c s ih =>
    rw [List.flatMap_cons, Text.escapeChar]
    split
    · rename_i hc
      subst hc
      exact .escaped (by decide) ih
    · rename_i hc
      split
      · rename_i hcq
        subst hcq
        exact .escaped hx ih
      · rename_i hcq
        exact .plain hcq hc ih

/-! ## Reading spellings -/

/-- A rest in front of which a token ends. -/
def EndsToken (rest : Text) : Prop := ∀ c ∈ rest.head?, isBare c = false

/-- What a spelling begins with. -/
theorem Spells.head {l : Literal} {t : Text} (h : Spells l t) :
    ∃ c t', t = c :: t' ∧ (isBare c = true ∨ c ∈ ['\'', '`', '[', '(']) := by
  cases h with
  | token h =>
    obtain ⟨c, t', rfl⟩ := List.exists_cons_of_ne_nil h.ne_nil
    exact ⟨c, t', rfl, .inl (h.bare c List.mem_cons_self)⟩
  | string _ => exact ⟨_, _, rfl, .inr (by simp)⟩
  | identifier _ => exact ⟨_, _, rfl, .inr (by simp)⟩
  | array _ => exact ⟨_, _, rfl, .inr (by simp)⟩
  | tuple _ => exact ⟨_, _, rfl, .inr (by simp)⟩
  | map _ _ => exact ⟨'m', _, rfl, .inl (by decide)⟩

/-- No spelling begins with a closing bracket. -/
theorem Spells.head_ne {l : Literal} {t : Text} (h : Spells l t) {close : Char}
    (hc : close = ']' ∨ close = ')') : ∃ c t', t = c :: t' ∧ c ≠ close := by
  obtain ⟨c, t', rfl, hb⟩ := h.head
  refine ⟨c, t', rfl, ?_⟩
  rintro rfl
  rcases hc with rfl | rfl <;> revert hb <;> decide

@[simp] theorem commaJoined_nil : Text.commaJoined [] = [] := rfl

@[simp] theorem commaJoined_singleton (a : Text) : Text.commaJoined [a] = a := by
  simp [Text.commaJoined, List.intercalate]

theorem commaJoined_cons_cons (a b : Text) (rest : List Text) :
    Text.commaJoined (a :: b :: rest) = a ++ ',' :: Text.commaJoined (b :: rest) := by
  simp [Text.commaJoined, List.intercalate]

/-- Whatever follows a spelling, if it does not continue a token, is left behind it. -/
def Reads (i : Literal × Text) : Prop :=
  ∀ rest, EndsToken rest → read? (i.2 ++ rest) = some (i.1, rest)

theorem readMore?_joined {close : Char} (hc : close = ']' ∨ close = ')') (rest : Text) :
    ∀ {items : List (Literal × Text)}, items ≠ [] → (∀ i ∈ items, Reads i) →
      readMore? close (Text.commaJoined (items.map (·.2)) ++ close :: rest) =
        some (items.map (·.1), rest)
  | [i], _, h => by
    have he : EndsToken (close :: rest) := by
      rintro c ⟨⟩
      rcases hc with rfl | rfl <;> decide
    rw [List.map_singleton, commaJoined_singleton]
    exact readMore?_last (h i List.mem_cons_self _ he)
  | i :: j :: more, _, h => by
    have ih := readMore?_joined hc rest (List.cons_ne_nil j more)
      fun k hk => h k (List.mem_cons_of_mem i hk)
    have he : EndsToken (',' :: (Text.commaJoined ((j :: more).map (·.2)) ++ close :: rest)) := by
      rintro c ⟨⟩
      decide
    have hi := h i List.mem_cons_self _ he
    rw [List.map_cons, List.map_cons, commaJoined_cons_cons, List.append_assoc]
    exact readMore?_cons (by rcases hc with rfl | rfl <;> decide) hi ih

/-- Items with commas between them are read one after another. -/
theorem readItems?_joined {close : Char} (hc : close = ']' ∨ close = ')') (rest : Text)
    {items : List (Literal × Text)} (hs : ∀ i ∈ items, Spells i.1 i.2)
    (h : ∀ i ∈ items, Reads i) :
    readItems? close (Text.commaJoined (items.map (·.2)) ++ close :: rest) =
      some (items.map (·.1), rest) := by
  cases items with
  | nil => exact readItems?_nil close rest
  | cons i more =>
    obtain ⟨c, t, ht, hne⟩ := (hs i List.mem_cons_self).head_ne hc
    obtain ⟨v, hv⟩ : ∃ v, Text.commaJoined ((i :: more).map (·.2)) ++ close :: rest = c :: v := by
      cases more with
      | nil => exact ⟨t ++ close :: rest, by simp [ht]⟩
      | cons j more =>
        rw [List.map_cons, List.map_cons, commaJoined_cons_cons, ht]
        exact ⟨_, rfl⟩
    have hm := readMore?_joined hc rest (List.cons_ne_nil i more) h
    rw [hv] at hm ⊢
    rw [readItems?_cons hne, hm]

/-- **Reading undoes spelling**: the reader gives the literal that a text spells and leaves what
follows. -/
theorem Spells.read {l : Literal} {t : Text} (h : Spells l t) : Reads (l, t) := by
  induction h with
  | token h =>
    intro rest hr
    refine read?_token h.ne_nil h.bare ?_ hr
    rintro rfl
    exact h.head_ne rfl
  | string h =>
    intro rest _
    have := h.read (by decide) rest
    simpa using read?_string this
  | identifier h =>
    intro rest _
    have := h.read (by decide) rest
    simpa using read?_identifier this
  | array hs ih =>
    intro rest _
    have := readItems?_joined (.inl rfl) rest hs ih
    simpa using read?_array this
  | tuple hs ih =>
    intro rest _
    have := readItems?_joined (.inr rfl) rest hs ih
    simpa using read?_tuple this
  | map hs hp ih =>
    intro rest _
    have := readItems?_joined (.inr rfl) rest hs ih
    simpa using read?_map this hp

end Literal

end SqlTemplate
