import SqlTemplate.Json.Encode
import SqlTemplate.Proofs.Literal.Spelling

/-!
# Reading JSON

A reader for compact JSON: words, texts between double quotes, arrays and objects. `Json.read?`
reads one tree off the front of a text and gives it with what is left of the text. Numbers are words
like the three that have a name. The reader takes no control character and knows nothing of values.

`Json.Spells l t` says that `t` is the compact text of the tree `l`. What is spelled is read back
(`Json.Spells.read`), and it holds no control character (`Json.Spells.visible`), so that a spelling
never takes more than one line.
-/

namespace SqlTemplate.Json

open Literal (Rest isBare hexValue? EndsToken span_bare)

inductive Tree where
  /-- A number, or one of the words for truth, falsehood and nothing. -/
  | word (text : Text)
  | text (content : Text)
  | array (items : List Tree)
  | object (entries : List (Text × Tree))

/-! ## Texts -/

/-- The character that a letter behind a backslash stands for. -/
def unescaped? : Char → Option Char
  | '"' => some '"'
  | '\\' => some '\\'
  | 'n' => some '\n'
  | 'r' => some '\r'
  | 't' => some '\t'
  | 'b' => some '\x08'
  | 'f' => some '\x0c'
  | _ => none

/-- Reads up to the double quote that ends a text: the content and the rest. -/
def readText : Text → Option (Text × Text)
  | [] => none
  | '"' :: s => some ([], s)
  | '\\' :: 'u' :: a :: b :: c :: d :: s => do
    let n := 4096 * (← hexValue? a) + 256 * (← hexValue? b) + 16 * (← hexValue? c) + (← hexValue? d)
    (readText s).map fun r => (Char.ofNat n :: r.1, r.2)
  | '\\' :: letter :: s => do
    let c ← unescaped? letter
    (readText s).map fun r => (c :: r.1, r.2)
  | c :: s => if c.toNat < 0x20 then none else (readText s).map fun r => (c :: r.1, r.2)

/-- Reading a text takes something off. -/
theorem readText_length {s t rest : Text} (h : readText s = some (t, rest)) :
    rest.length < s.length := by
  fun_induction readText s generalizing t rest with
  | case1 => cases h
  | case2 s => cases h; simp
  | case3 a b c d s ih =>
    simp only [Option.bind_eq_bind, Option.bind_eq_some_iff] at h
    obtain ⟨_, -, _, -, _, -, _, -, h⟩ := h
    obtain ⟨r, hr, e⟩ := Option.map_eq_some_iff.1 h
    have := ih hr
    grind
  | case4 letter s _ ih =>
    obtain ⟨c, -, h⟩ := Option.bind_eq_some_iff.1 h
    obtain ⟨r, hr, e⟩ := Option.map_eq_some_iff.1 h
    have := ih hr
    grind
  | case5 => cases h
  | case6 c s _ _ _ _ ih =>
    obtain ⟨r, hr, e⟩ := Option.map_eq_some_iff.1 h
    have := ih hr
    grind

/-- The forms of a character inside a text: a letter behind a backslash, its number in hexadecimal
digits, or the character itself. -/
theorem escapedChar_cases (c : Char) :
    (∃ letter, unescaped? letter = some c ∧ escapedChar c = ['\\', letter]) ∨
      (c.toNat < 0x20 ∧ escapedChar c = "\\u".toList ++ Text.padded 16 4 c.toNat) ∨
      (0x20 ≤ c.toNat ∧ c ≠ '"' ∧ c ≠ '\\' ∧ escapedChar c = [c]) := by
  have hn : ∀ d : Char, c.toNat = d.toNat → d = c := fun d h => (Char.toNat_inj.1 h).symm
  unfold escapedChar
  split
  · rename_i h
    rcases h with rfl | rfl
    · exact .inl ⟨'"', rfl, rfl⟩
    · exact .inl ⟨'\\', rfl, rfl⟩
  rename_i hq
  split
  · rename_i h
    exact .inl ⟨'n', h ▸ rfl, rfl⟩
  split
  · rename_i h
    exact .inl ⟨'r', h ▸ rfl, rfl⟩
  split
  · rename_i h
    exact .inl ⟨'t', h ▸ rfl, rfl⟩
  split
  · rename_i h
    exact .inl ⟨'b', hn '\x08' h ▸ rfl, rfl⟩
  split
  · rename_i h
    exact .inl ⟨'f', hn '\x0c' h ▸ rfl, rfl⟩
  split
  · rename_i h
    exact .inr (.inl ⟨h, rfl⟩)
  · rename_i h
    exact .inr (.inr ⟨Nat.le_of_not_lt h, fun e => hq (.inl e), fun e => hq (.inr e), rfl⟩)

/-- The numbers of controls begin with two zeros. -/
theorem padded_control : ∀ n < 32, Text.padded 16 4 n =
    ['0', '0', Nat.digitChar (n / 16), Nat.digitChar (n % 16)] := by decide +kernel

theorem hexValue?_digitChar : ∀ n < 16, hexValue? (Nat.digitChar n) = some n := by decide

/-- A character of a text is read back from its form. -/
theorem readText_escapedChar (c : Char) (s : Text) :
    readText (escapedChar c ++ s) = (readText s).map fun r => (c :: r.1, r.2) := by
  rcases escapedChar_cases c with ⟨letter, hl, h⟩ | ⟨hc, h⟩ | ⟨hc, hq, hb, h⟩
  · have hu : letter ≠ 'u' := by
      rintro rfl
      cases hl
    rw [h, List.cons_append, List.cons_append, List.nil_append, readText]
    · rw [hl]
      rfl
    · intro a b c d t e
      exact absurd e hu
  · have hz : hexValue? '0' = some 0 := rfl
    have hn : 4096 * 0 + 256 * 0 + 16 * (c.toNat / 16) + c.toNat % 16 = c.toNat := by omega
    rw [h, padded_control c.toNat hc]
    change readText ('\\' :: 'u' :: '0' :: '0' :: Nat.digitChar (c.toNat / 16) ::
      Nat.digitChar (c.toNat % 16) :: s) = _
    rw [readText, hz, hexValue?_digitChar _ (by omega), hexValue?_digitChar _ (by omega)]
    simp only [Option.bind_eq_bind, Option.bind_some, hn, Char.ofNat_toNat]
  · rw [h, List.cons_append, List.nil_append, readText, if_neg (Nat.not_lt.2 hc)]
    · exact hq
    · intro a b c d t e
      exact absurd e hb
    · intro l t e
      exact absurd e hb

/-- A text is read back from between its quotes. -/
theorem readText_flatMap (s rest : Text) :
    readText (s.flatMap escapedChar ++ '"' :: rest) = some (s, rest) := by
  induction s with
  | nil => rfl
  | cons c s ih =>
    rw [List.flatMap_cons, List.append_assoc, readText_escapedChar, ih, Option.map_some]

/-! ## Trees -/

/-- The two sorts of containers: only the items of objects have keys. -/
inductive Bracket where
  | square | curly
  deriving DecidableEq

namespace Bracket

def close : Bracket → Char
  | square => ']'
  | curly => '\x7d'

/-- The container of items; keys in front of them count in objects only. -/
def tree (b : Bracket) (items : List (Text × Tree)) : Tree :=
  match b with
  | square => .array (items.map (·.2))
  | curly => .object items

end Bracket

mutual

def readTree : (s : Text) → Option (Tree × Rest s)
  | '"' :: s =>
    match h : readText s with
    | some (t, rest) => some (.text t, ⟨rest, by have := readText_length h; grind⟩)
    | none => none
  | '[' :: s =>
    (readItems .square s).map fun (items, rest) =>
      (Bracket.tree .square items, ⟨rest.1, Nat.lt_succ_of_lt rest.2⟩)
  | '\x7b' :: s =>
    (readItems .curly s).map fun (items, rest) =>
      (Bracket.tree .curly items, ⟨rest.1, Nat.lt_succ_of_lt rest.2⟩)
  | c :: s =>
    if isBare c then
      some (.word (c :: s.takeWhile isBare), ⟨s.dropWhile isBare,
        Nat.lt_succ_of_le (List.dropWhile_sublist isBare).length_le⟩)
    else none
  | [] => none
termination_by s => (s.length, 0)

/-- Reads an item, in objects behind its key and a colon. -/
def readItem : (b : Bracket) → (s : Text) → Option ((Text × Tree) × Rest s)
  | .square, s => (readTree s).map fun (item, rest) => (([], item), rest)
  | .curly, '"' :: s =>
    match h : readText s with
    | some (key, ':' :: t) =>
      have shorter : t.length < s.length := by have := readText_length h; grind
      (readTree t).map fun (item, rest) =>
        ((key, item), ⟨rest.1, Nat.lt_succ_of_lt (rest.2.trans shorter)⟩)
    | _ => none
  | .curly, _ => none
termination_by _ s => (s.length, 1)

/-- Reads at least one item, and all up to the closing bracket. -/
def readMore (b : Bracket) (s : Text) : Option (List (Text × Tree) × Rest s) :=
  match readItem b s with
  | some (item, ⟨c :: rest, h⟩) =>
    have shorter : rest.length < s.length := Nat.lt_of_succ_lt h
    if c = b.close then some ([item], ⟨rest, shorter⟩)
    else if c = ',' then
      (readMore b rest).map fun (items, rest') => (item :: items, ⟨rest'.1, rest'.2.trans shorter⟩)
    else none
  | _ => none
termination_by (s.length, 2)

/-- Reads the items up to the closing bracket. -/
def readItems (b : Bracket) : (s : Text) → Option (List (Text × Tree) × Rest s)
  | [] => none
  | c :: s => if c = b.close then some ([], ⟨s, by simp⟩) else readMore b (c :: s)
termination_by s => (s.length, 3)

end

/-- Reads one tree off the front of a text, and gives what is left. -/
def read? (s : Text) : Option (Tree × Text) := (readTree s).map fun r => (r.1, r.2.1)

def readItem? (b : Bracket) (s : Text) : Option ((Text × Tree) × Text) :=
  (readItem b s).map fun r => (r.1, r.2.1)

def readMore? (b : Bracket) (s : Text) : Option (List (Text × Tree) × Text) :=
  (readMore b s).map fun r => (r.1, r.2.1)

def readItems? (b : Bracket) (s : Text) : Option (List (Text × Tree) × Text) :=
  (readItems b s).map fun r => (r.1, r.2.1)

/-! ## The rules of reading -/

theorem read?_text {s t rest : Text} (h : readText s = some (t, rest)) :
    read? ('"' :: s) = some (.text t, rest) := by
  rw [read?, readTree]
  split
  · simp_all
  · simp_all

theorem read?_array {s rest : Text} {items : List (Text × Tree)}
    (h : readItems? .square s = some (items, rest)) :
    read? ('[' :: s) = some (Bracket.square.tree items, rest) := by
  obtain ⟨r, hr, e⟩ := Option.map_eq_some_iff.1 h
  rw [read?, readTree, hr]
  simp_all

theorem read?_object {s rest : Text} {items : List (Text × Tree)}
    (h : readItems? .curly s = some (items, rest)) :
    read? ('\x7b' :: s) = some (Bracket.curly.tree items, rest) := by
  obtain ⟨r, hr, e⟩ := Option.map_eq_some_iff.1 h
  rw [read?, readTree, hr]
  simp_all

theorem readItem?_square {s rest : Text} {l : Tree} (h : read? s = some (l, rest)) :
    readItem? .square s = some (([], l), rest) := by
  obtain ⟨r, hr, e⟩ := Option.map_eq_some_iff.1 h
  rw [readItem?, readItem, hr]
  simp_all

theorem readItem?_curly {s t rest key : Text} {l : Tree} (hk : readText s = some (key, ':' :: t))
    (h : read? t = some (l, rest)) : readItem? .curly ('"' :: s) = some ((key, l), rest) := by
  obtain ⟨r, hr, e⟩ := Option.map_eq_some_iff.1 h
  rw [readItem?, readItem]
  split
  · rename_i hk'
    rw [hk] at hk'
    cases hk'
    simp_all
  · simp_all

theorem readMore?_last {b : Bracket} {s rest : Text} {item : Text × Tree}
    (h : readItem? b s = some (item, b.close :: rest)) : readMore? b s = some ([item], rest) := by
  obtain ⟨⟨l, r, hr⟩, hl, e⟩ := Option.map_eq_some_iff.1 h
  simp only [Prod.mk.injEq] at e
  obtain ⟨rfl, rfl⟩ := e
  rw [readMore?, readMore, hl]
  simp

theorem readMore?_cons {b : Bracket} {s rest rest' : Text} {item : Text × Tree}
    {items : List (Text × Tree)} (h : readItem? b s = some (item, ',' :: rest))
    (h' : readMore? b rest = some (items, rest')) :
    readMore? b s = some (item :: items, rest') := by
  have hc : ',' ≠ b.close := by cases b <;> decide
  obtain ⟨⟨l, r, hr⟩, hl, e⟩ := Option.map_eq_some_iff.1 h
  simp only [Prod.mk.injEq] at e
  obtain ⟨rfl, rfl⟩ := e
  obtain ⟨more, hm, e⟩ := Option.map_eq_some_iff.1 h'
  simp only [Prod.mk.injEq] at e
  obtain ⟨rfl, rfl⟩ := e
  rw [readMore?, readMore, hl]
  simp [hc, hm]

theorem readItems?_nil (b : Bracket) (s : Text) : readItems? b (b.close :: s) = some ([], s) := by
  simp [readItems?, readItems]

theorem readItems?_cons {b : Bracket} {c : Char} (hc : c ≠ b.close) (s : Text) :
    readItems? b (c :: s) = readMore? b (c :: s) := by
  simp [readItems?, readItems, hc, readMore?]

/-- A word ends where no character of words follows. -/
theorem read?_word {t rest : Text} (hn : t ≠ []) (hb : ∀ c ∈ t, isBare c = true)
    (hr : EndsToken rest) : read? (t ++ rest) = some (.word t, rest) := by
  obtain ⟨c, t, rfl⟩ := List.exists_cons_of_ne_nil hn
  have hc : isBare c = true := hb c List.mem_cons_self
  obtain ⟨htake, hdrop⟩ := span_bare (fun d hd => hb d (List.mem_cons_of_mem c hd)) hr
  rw [List.cons_append, read?, readTree]
  · simp [hc, htake, hdrop]
  · rintro rfl; exact absurd hc (by decide)
  · rintro rfl; exact absurd hc (by decide)
  · rintro rfl; exact absurd hc (by decide)

/-! ## Spellings -/

/-- The text is the compact text of the tree. -/
inductive Spells : Tree → Text → Prop
  | word {t : Text} : t ≠ [] → (∀ c ∈ t, isBare c = true) → Spells (.word t) t
  | text (s : Text) : Spells (.text s) (quoted s)
  | array {items : List (Tree × Text)} : (∀ i ∈ items, Spells i.1 i.2) →
      Spells (.array (items.map (·.1))) (Json.array (items.map (·.2)))
  | object {entries : List (Text × Tree × Text)} : (∀ e ∈ entries, Spells e.2.1 e.2.2) →
      Spells (.object (entries.map fun e => (e.1, e.2.1)))
        (Json.object (entries.map fun e => (quoted e.1, e.2.2)))

/-- What follows an item is left behind it, if it does not continue a word. -/
def Reads (b : Bracket) (i : (Text × Tree) × Text) : Prop :=
  ∀ rest, EndsToken rest → readItem? b (i.2 ++ rest) = some (i.1, rest)

theorem readMore?_joined (b : Bracket) (rest : Text) :
    ∀ {items : List ((Text × Tree) × Text)}, items ≠ [] → (∀ i ∈ items, Reads b i) →
      readMore? b (Text.commaJoined (items.map (·.2)) ++ b.close :: rest) =
        some (items.map (·.1), rest)
  | [i], _, h => by
    have he : EndsToken (b.close :: rest) := by
      rintro c ⟨⟩
      cases b <;> decide
    rw [List.map_singleton, Literal.commaJoined_singleton]
    exact readMore?_last (h i List.mem_cons_self _ he)
  | i :: j :: more, _, h => by
    have ih := readMore?_joined b rest (List.cons_ne_nil j more)
      fun k hk => h k (List.mem_cons_of_mem i hk)
    have he : EndsToken (',' :: (Text.commaJoined ((j :: more).map (·.2)) ++ b.close :: rest)) := by
      rintro c ⟨⟩
      decide
    have hi := h i List.mem_cons_self _ he
    rw [List.map_cons, List.map_cons, Literal.commaJoined_cons_cons, List.append_assoc]
    exact readMore?_cons hi ih

/-- Items with commas between them are read one after another. -/
theorem readItems?_joined (b : Bracket) (rest : Text) {items : List ((Text × Tree) × Text)}
    (hn : ∀ i ∈ items, ∃ c t, i.2 = c :: t ∧ c ≠ b.close) (h : ∀ i ∈ items, Reads b i) :
    readItems? b (Text.commaJoined (items.map (·.2)) ++ b.close :: rest) =
      some (items.map (·.1), rest) := by
  cases items with
  | nil => exact readItems?_nil b rest
  | cons i more =>
    obtain ⟨c, t, ht, hne⟩ := hn i List.mem_cons_self
    obtain ⟨v, hv⟩ :
        ∃ v, Text.commaJoined ((i :: more).map (·.2)) ++ b.close :: rest = c :: v := by
      cases more with
      | nil => exact ⟨t ++ b.close :: rest, by simp [ht]⟩
      | cons j more =>
        rw [List.map_cons, List.map_cons, Literal.commaJoined_cons_cons, ht]
        exact ⟨_, rfl⟩
    have hm := readMore?_joined b rest (List.cons_ne_nil i more) h
    rw [hv] at hm ⊢
    rw [readItems?_cons hne, hm]

theorem quoted_append (s rest : Text) :
    quoted s ++ rest = '"' :: (s.flatMap escapedChar ++ '"' :: rest) := by
  simp [quoted]

/-- No spelling begins like the end of a container. -/
theorem Spells.head {l : Tree} {t : Text} (h : Spells l t) (b : Bracket) :
    ∃ c t', t = c :: t' ∧ c ≠ b.close := by
  cases h with
  | word hn hb =>
    obtain ⟨c, t', rfl⟩ := List.exists_cons_of_ne_nil hn
    refine ⟨c, t', rfl, ?_⟩
    rintro rfl
    have := hb _ List.mem_cons_self
    cases b <;> exact absurd this (by decide)
  | text s => exact ⟨_, _, rfl, by cases b <;> decide⟩
  | array _ => exact ⟨_, _, rfl, by cases b <;> decide⟩
  | object _ => exact ⟨_, _, rfl, by cases b <;> decide⟩

/-- **Reading undoes spelling**: the tree is read back, and what follows is left. -/
theorem Spells.read {l : Tree} {t : Text} (h : Spells l t) {rest : Text} (hr : EndsToken rest) :
    read? (t ++ rest) = some (l, rest) := by
  induction h generalizing rest with
  | word hn hb => exact read?_word hn hb hr
  | text s =>
    rw [quoted_append]
    exact read?_text (readText_flatMap s rest)
  | @array items hs ih =>
    have hi : ∀ i ∈ items.map fun i => ((([] : Text), i.1), i.2), Reads .square i := by
      intro i hi
      obtain ⟨i, hm, rfl⟩ := List.mem_map.1 hi
      intro rest hr
      exact readItem?_square (ih i hm hr)
    have hn : ∀ i ∈ items.map fun i => ((([] : Text), i.1), i.2),
        ∃ c t, i.2 = c :: t ∧ c ≠ Bracket.close .square := by
      intro i hi
      obtain ⟨i, hm, rfl⟩ := List.mem_map.1 hi
      exact (hs i hm).head .square
    have := read?_array (readItems?_joined .square rest hn hi)
    simpa [Bracket.tree, Bracket.close, Json.array, Function.comp_def] using this
  | @object entries hs ih =>
    have hi : ∀ i ∈ entries.map fun e => ((e.1, e.2.1), quoted e.1 ++ ':' :: e.2.2),
        Reads .curly i := by
      intro i hi
      obtain ⟨e, hm, rfl⟩ := List.mem_map.1 hi
      intro rest hr
      have hk := readText_flatMap e.1 (':' :: (e.2.2 ++ rest))
      rw [List.append_assoc, quoted_append]
      exact readItem?_curly hk (ih e hm hr)
    have hn : ∀ i ∈ entries.map fun e => ((e.1, e.2.1), quoted e.1 ++ ':' :: e.2.2),
        ∃ c t, i.2 = c :: t ∧ c ≠ Bracket.close .curly := by
      intro i hi
      obtain ⟨e, hm, rfl⟩ := List.mem_map.1 hi
      exact ⟨_, _, quoted_append _ _, by decide⟩
    have := read?_object (readItems?_joined .curly rest hn hi)
    simpa [Bracket.tree, Bracket.close, Json.object, Function.comp_def] using this

/-! ## Control characters -/

/-- The text holds no control character. -/
def Visible (t : Text) : Prop := ∀ c ∈ t, 0x20 ≤ c.toNat

theorem Visible.append {a b : Text} (ha : Visible a) (hb : Visible b) : Visible (a ++ b) :=
  List.forall_mem_append.2 ⟨ha, hb⟩

theorem Visible.cons {c : Char} {t : Text} (hc : 0x20 ≤ c.toNat) (ht : Visible t) :
    Visible (c :: t) :=
  List.forall_mem_cons.2 ⟨hc, ht⟩

theorem visible_of_bare {c : Char} (h : isBare c = true) : 0x20 ≤ c.toNat := by
  by_contra hc
  have hn : ∀ n < 32, isBare (Char.ofNat n) = false := by decide
  have := hn c.toNat (Nat.lt_of_not_le hc)
  rw [Char.ofNat_toNat, h] at this
  cases this

theorem visible_letter {letter c : Char} (h : unescaped? letter = some c) :
    0x20 ≤ letter.toNat := by
  by_contra hc
  have hn : ∀ n < 32, unescaped? (Char.ofNat n) = none := by decide
  have := hn letter.toNat (Nat.lt_of_not_le hc)
  rw [Char.ofNat_toNat, h] at this
  cases this

theorem visible_escapedChar (c : Char) : Visible (escapedChar c) := by
  rcases escapedChar_cases c with ⟨letter, hl, h⟩ | ⟨hc, h⟩ | ⟨hc, -, -, h⟩
  · rw [h]
    exact .cons (by decide) (.cons (visible_letter hl) (by simp [Visible]))
  · have hd : ∀ n < 16, 0x20 ≤ (Nat.digitChar n).toNat := by decide
    rw [h, padded_control c.toNat hc]
    refine .append (by simp [Visible]) (.cons (by decide) (.cons (by decide) ?_))
    exact .cons (hd _ (by omega)) (.cons (hd _ (by omega)) (by simp [Visible]))
  · rw [h]
    exact .cons hc (by simp [Visible])

/-- Control characters of a text are escaped. -/
theorem visible_quoted (s : Text) : Visible (quoted s) := by
  refine .append (.cons (by decide) fun c hc => ?_) (by simp [Visible])
  obtain ⟨d, -, hd⟩ := List.mem_flatMap.1 hc
  exact visible_escapedChar d c hd

theorem visible_commaJoined : ∀ {parts : List Text}, (∀ t ∈ parts, Visible t) →
    Visible (Text.commaJoined parts)
  | [], _ => by simp [Visible]
  | [t], h => by
    rw [Literal.commaJoined_singleton]
    exact h t List.mem_cons_self
  | t :: u :: rest, h => by
    obtain ⟨ht, hr⟩ := List.forall_mem_cons.1 h
    rw [Literal.commaJoined_cons_cons]
    exact ht.append (.cons (by decide) (visible_commaJoined hr))

/-- **A spelling holds no control character**, so neither does it hold a line feed. -/
theorem Spells.visible {l : Tree} {t : Text} (h : Spells l t) : Visible t := by
  have hs : Visible [']'] ∧ Visible ['\x7d'] := by simp [Visible]
  induction h with
  | word _ hb => exact fun c hc => visible_of_bare (hb c hc)
  | text s => exact visible_quoted s
  | array _ ih =>
    refine .append (.cons (by decide) (visible_commaJoined ?_)) hs.1
    exact List.forall_mem_map.2 ih
  | object _ ih =>
    refine .append (.cons (by decide) (visible_commaJoined fun t ht => ?_)) hs.2
    rw [List.map_map] at ht
    obtain ⟨e, he, rfl⟩ := List.mem_map.1 ht
    exact (visible_quoted e.1).append (.cons (by decide) (ih e he))

end SqlTemplate.Json
