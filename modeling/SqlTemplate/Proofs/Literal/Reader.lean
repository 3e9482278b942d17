import SqlTemplate.Text.Replace

/-!
# Reading literals

A reader for the language of literals: quoted strings and identifiers with escapes behind
backslashes, bare tokens, arrays, tuples and maps. `Literal.read?` reads one literal off the front
of a text and gives its tree and what is left of the text. The reader knows nothing of values and of
how they are written.
-/

namespace SqlTemplate

inductive Literal where
  /-- A number or a word. -/
  | token (text : Text)
  | string (content : Text)
  | identifier (name : Text)
  | array (items : List Literal)
  | tuple (items : List Literal)
  | map (entries : List (Literal × Literal))

namespace Literal

/-- What is left of a text behind something that was read off its front. -/
abbrev Rest (s : Text) := { rest : Text // rest.length < s.length }

/-! ## Quoted texts and tokens -/

def hexValue? (c : Char) : Option Nat :=
  if c.isDigit then some (c.toNat - 48)
  else if 'a' ≤ c ∧ c ≤ 'f' then some (c.toNat - 87)
  else if 'A' ≤ c ∧ c ≤ 'F' then some (c.toNat - 55)
  else none

/-- Reads up to the quote `q` that ends a quoted text: the content and the rest. A backslash with
`x` and two hexadecimal digits stands for a code point, with any other character for that character.
-/
def readQuoted (q : Char) : Text → Option (Text × Text)
  | [] => none
  | '\\' :: 'x' :: a :: b :: s =>
    match hexValue? a, hexValue? b with
    | some m, some n => (readQuoted q s).map fun r => (Char.ofNat (16 * m + n) :: r.1, r.2)
    | _, _ => (readQuoted q (a :: b :: s)).map fun r => ('x' :: r.1, r.2)
  | '\\' :: c :: s => (readQuoted q s).map fun r => (c :: r.1, r.2)
  | c :: s => if c = q then some ([], s) else (readQuoted q s).map fun r => (c :: r.1, r.2)

/-- Reading a quoted text takes something off. -/
theorem readQuoted_length {q : Char} {s t rest : Text} (h : readQuoted q s = some (t, rest)) :
    rest.length < s.length := by
  fun_induction readQuoted q s generalizing t rest with
  | case1 => cases h
  | case2 a b s m n _ _ ih =>
    obtain ⟨r, hr, e⟩ := Option.map_eq_some_iff.1 h
    have := ih hr
    grind
  | case3 a b s _ ih =>
    obtain ⟨r, hr, e⟩ := Option.map_eq_some_iff.1 h
    have := ih hr
    grind
  | case4 c s _ ih =>
    obtain ⟨r, hr, e⟩ := Option.map_eq_some_iff.1 h
    have := ih hr
    grind
  | case5 => grind
  | case6 c s _ _ _ ih =>
    obtain ⟨r, hr, e⟩ := Option.map_eq_some_iff.1 h
    have := ih hr
    grind

def isBare (c : Char) : Bool := c.isAlphanum || c = '+' || c = '-' || c = '.'

/-- The entries of a map whose keys and items alternate. -/
def paired? : List Literal → Option (List (Literal × Literal))
  | [] => some []
  | [_] => none
  | k :: v :: rest => (paired? rest).map ((k, v) :: ·)

/-! ## Literals -/

mutual

def readLiteral : (s : Text) → Option (Literal × Rest s)
  | '\'' :: s =>
    match h : readQuoted '\'' s with
    | some (t, rest) => some (string t, ⟨rest, by have := readQuoted_length h; grind⟩)
    | none => none
  | '`' :: s =>
    match h : readQuoted '`' s with
    | some (t, rest) => some (identifier t, ⟨rest, by have := readQuoted_length h; grind⟩)
    | none => none
  | '[' :: s => (readItems ']' s).map fun (items, rest) => (array items, ⟨rest.1, by grind⟩)
  | '(' :: s => (readItems ')' s).map fun (items, rest) => (tuple items, ⟨rest.1, by grind⟩)
  | 'm' :: 'a' :: 'p' :: '(' :: s =>
    (readItems ')' s).bind fun (items, rest) =>
      (paired? items).map fun entries => (map entries, ⟨rest.1, by grind⟩)
  | c :: s =>
    if isBare c then
      some (token (c :: s.takeWhile isBare), ⟨s.dropWhile isBare,
        Nat.lt_succ_of_le (List.dropWhile_sublist isBare).length_le⟩)
    else none
  | [] => none
termination_by s => (s.length, 0)

/-- Reads the items up to `close`. -/
def readItems (close : Char) : (s : Text) → Option (List Literal × Rest s)
  | [] => none
  | c :: s => if c = close then some ([], ⟨s, by simp⟩) else readMore close (c :: s)
termination_by s => (s.length, 2)

/-- Reads at least one item, and all up to `close`. -/
def readMore (close : Char) (s : Text) : Option (List Literal × Rest s) :=
  match readLiteral s with
  | some (item, ⟨c :: rest, h⟩) =>
    have shorter : rest.length < s.length := Nat.lt_of_succ_lt h
    if c = close then some ([item], ⟨rest, shorter⟩)
    else if c = ',' then
      (readMore close rest).map fun (items, rest') => (item :: items, ⟨rest'.1, by grind⟩)
    else none
  | _ => none
termination_by (s.length, 1)

end

/-- Reads one literal off the front of a text: its tree, and what is left. -/
def read? (s : Text) : Option (Literal × Text) := (readLiteral s).map fun r => (r.1, r.2.1)

/-- Reads items up to `close` off the front of a text. -/
def readItems? (close : Char) (s : Text) : Option (List Literal × Text) :=
  (readItems close s).map fun r => (r.1, r.2.1)

/-- Reads one item and further ones up to `close` off the front of a text. -/
def readMore? (close : Char) (s : Text) : Option (List Literal × Text) :=
  (readMore close s).map fun r => (r.1, r.2.1)

/-! ## The rules of reading -/

theorem read?_string {s t rest : Text} (h : readQuoted '\'' s = some (t, rest)) :
    read? ('\'' :: s) = some (string t, rest) := by
  rw [read?, readLiteral]
  split
  · simp_all
  · simp_all

theorem read?_identifier {s t rest : Text} (h : readQuoted '`' s = some (t, rest)) :
    read? ('`' :: s) = some (identifier t, rest) := by
  rw [read?, readLiteral]
  split
  · simp_all
  · simp_all

theorem read?_array {s rest : Text} {items : List Literal}
    (h : readItems? ']' s = some (items, rest)) : read? ('[' :: s) = some (array items, rest) := by
  obtain ⟨r, hr, e⟩ := Option.map_eq_some_iff.1 h
  rw [read?, readLiteral, hr]
  simp_all

theorem read?_tuple {s rest : Text} {items : List Literal}
    (h : readItems? ')' s = some (items, rest)) : read? ('(' :: s) = some (tuple items, rest) := by
  obtain ⟨r, hr, e⟩ := Option.map_eq_some_iff.1 h
  rw [read?, readLiteral, hr]
  simp_all

theorem read?_map {s rest : Text} {items : List Literal} {entries : List (Literal × Literal)}
    (h : readItems? ')' s = some (items, rest)) (hp : paired? items = some entries) :
    read? ("map(".toList ++ s) = some (map entries, rest) := by
  obtain ⟨r, hr, e⟩ := Option.map_eq_some_iff.1 h
  simp only [Prod.mk.injEq] at e
  obtain ⟨rfl, rfl⟩ := e
  have : readLiteral ("map(".toList ++ s) = _ := readLiteral.eq_5 s
  rw [read?, this, hr]
  simp [hp]

theorem readItems?_nil (close : Char) (s : Text) :
    readItems? close (close :: s) = some ([], s) := by
  simp [readItems?, readItems]

theorem readItems?_cons {close c : Char} (hc : c ≠ close) (s : Text) :
    readItems? close (c :: s) = readMore? close (c :: s) := by
  simp [readItems?, readItems, hc, readMore?]

theorem readMore?_last {close : Char} {s rest : Text} {item : Literal}
    (h : read? s = some (item, close :: rest)) : readMore? close s = some ([item], rest) := by
  obtain ⟨⟨l, r, hr⟩, hl, e⟩ := Option.map_eq_some_iff.1 h
  simp only [Prod.mk.injEq] at e
  obtain ⟨rfl, rfl⟩ := e
  rw [readMore?, readMore, hl]
  simp

theorem readMore?_cons {close : Char} (hc : close ≠ ',') {s rest rest' : Text} {item : Literal}
    {items : List Literal} (h : read? s = some (item, ',' :: rest))
    (h' : readMore? close rest = some (items, rest')) :
    readMore? close s = some (item :: items, rest') := by
  obtain ⟨⟨l, r, hr⟩, hl, e⟩ := Option.map_eq_some_iff.1 h
  simp only [Prod.mk.injEq] at e
  obtain ⟨rfl, rfl⟩ := e
  obtain ⟨more, hm, e⟩ := Option.map_eq_some_iff.1 h'
  simp only [Prod.mk.injEq] at e
  obtain ⟨rfl, rfl⟩ := e
  rw [readMore?, readMore, hl]
  simp [hc.symm, hm]

/-! ## Tokens -/

/-- A token ends where its bare characters do. -/
theorem span_bare {t rest : Text} (hb : ∀ c ∈ t, isBare c = true)
    (hr : ∀ c ∈ rest.head?, isBare c = false) :
    (t ++ rest).takeWhile isBare = t ∧ (t ++ rest).dropWhile isBare = rest := by
  rw [List.takeWhile_append_of_pos hb, List.dropWhile_append_of_pos hb]
  cases rest with
  | nil => simp
  | cons c rest => simp [hr c rfl]

/-- A text of bare characters that is followed by none and begins like a map is the word `map`. -/
theorem eq_map_of_begins {t rest : Text} (hb : ∀ c ∈ t, isBare c = true)
    (hr : ∀ c ∈ rest.head?, isBare c = false) (h : "map(".toList <+: t ++ rest) :
    t = "map".toList := by
  obtain ⟨v, hv⟩ := h
  rw [← (span_bare hb hr).1, ← hv]
  rfl

/-- A token other than the name of a map is read back. -/
theorem read?_token {t rest : Text} (hn : t ≠ []) (hb : ∀ c ∈ t, isBare c = true)
    (hm : t ≠ "map".toList) (hr : ∀ c ∈ rest.head?, isBare c = false) :
    read? (t ++ rest) = some (token t, rest) := by
  obtain ⟨c, t, rfl⟩ := List.exists_cons_of_ne_nil hn
  have hc : isBare c = true := hb c List.mem_cons_self
  obtain ⟨htake, hdrop⟩ := span_bare (fun d hd => hb d (List.mem_cons_of_mem c hd)) hr
  rw [List.cons_append, read?, readLiteral]
  · simp [hc, htake, hdrop]
  · rintro rfl; exact absurd hc (by decide)
  · rintro rfl; exact absurd hc (by decide)
  · rintro rfl; exact absurd hc (by decide)
  · rintro rfl; exact absurd hc (by decide)
  · rintro s rfl e
    refine hm (eq_map_of_begins hb hr ⟨s, ?_⟩)
    rw [List.cons_append, e]
    rfl

end Literal

end SqlTemplate
