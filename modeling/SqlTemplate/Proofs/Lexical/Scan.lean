import SqlTemplate.Proofs.Literal.Spelling

/-!
# The lexer of SQL text

A lexer tells code from quoted texts and from comments: two dashes open a comment up to the end of
the line, slash and star one up to star and slash, and inside quotes a backslash escapes. It reads
one character after another and looks one ahead, so that `scan` and `modes` take the character that
follows the text. Literals are neutral (`neutral_of_spells`): whatever follows them, the lexer is
back in code behind them.
-/

namespace SqlTemplate.Lexical

/-- What a character of SQL text belongs to. -/
inductive Mode where
  | code | string | identifier | line | block
  deriving DecidableEq

/-- Where the lexer is between two characters. -/
inductive State where
  | inside (m : Mode)
  /-- Behind a backslash in a quoted text. -/
  | escaped (m : Mode)
  /-- Between the two characters that open a comment. -/
  | opening (m : Mode)
  /-- Between the two characters that close a comment. -/
  | closing
  deriving DecidableEq

namespace State

def mode : State → Mode
  | inside m | escaped m | opening m => m
  | closing => .block

/-- Reads a character of a text between quotes. -/
def quotedStep (m : Mode) (quote c : Char) : State :=
  if c = '\\' then escaped m else if c = quote then inside .code else inside m

/-- Reads a character with `next?` behind it. -/
def step : State → Char → Option Char → State
  | inside .code, c, next? =>
    if c = '\'' then inside .string
    else if c = '`' then inside .identifier
    else if c = '-' ∧ next? = some '-' then opening .line
    else if c = '/' ∧ next? = some '*' then opening .block
    else inside .code
  | inside .string, c, _ => quotedStep .string '\'' c
  | inside .identifier, c, _ => quotedStep .identifier '`' c
  | inside .line, c, _ => if c = '\n' then inside .code else inside .line
  | inside .block, c, next? =>
    if c = '*' ∧ next? = some '/' then closing else inside .block
  | escaped m, _, _ => inside m
  | opening m, _, _ => inside m
  | closing, _, _ => inside .code

/-- What a character belongs to that is read between two states. What opens or closes a quoted text
or a comment belongs to it. -/
def charMode (before after : State) : Mode :=
  if before = inside .code then after.mode else before.mode

end State

open State

/-- The state behind a text with `next?` behind it. -/
def scan (s : State) : Text → Option Char → State
  | [], _ => s
  | c :: rest, next? => scan (s.step c (rest.head?.or next?)) rest next?

/-- What the characters of a text with `next?` behind it belong to. -/
def modes (s : State) : Text → Option Char → List Mode
  | [], _ => []
  | c :: rest, next? =>
    let after := s.step c (rest.head?.or next?)
    charMode s after :: modes after rest next?

@[simp] theorem scan_nil (s : State) (next? : Option Char) : scan s [] next? = s := rfl

theorem head?_append_or (a b : Text) (next? : Option Char) :
    (a ++ b).head?.or next? = a.head?.or (b.head?.or next?) := by
  rw [List.head?_append, Option.or_assoc]

/-- A text is scanned part by part, each part in view of the next one's first character. -/
theorem scan_append (s : State) (a b : Text) (next? : Option Char) :
    scan s (a ++ b) next? = scan (scan s a (b.head?.or next?)) b next? := by
  induction a generalizing s with
  | nil => rfl
  | cons c a ih =>
    rw [List.cons_append, scan, scan, head?_append_or]
    exact ih _

/-- So are its modes found. -/
theorem modes_append (s : State) (a b : Text) (next? : Option Char) :
    modes s (a ++ b) next? =
      modes s a (b.head?.or next?) ++ modes (scan s a (b.head?.or next?)) b next? := by
  induction a generalizing s with
  | nil => rfl
  | cons c a ih =>
    rw [List.cons_append, modes, modes, head?_append_or, scan, ih]
    rfl

@[simp] theorem length_modes (s : State) (t : Text) (next? : Option Char) :
    (modes s t next?).length = t.length := by
  induction t generalizing s with
  | nil => rfl
  | cons c t ih => rw [modes, List.length_cons, ih, List.length_cons]

/-! ## Neutral texts -/

/-- In code the text leads back to code, whatever follows it. -/
def Neutral (t : Text) : Prop := ∀ next?, scan (inside .code) t next? = inside .code

theorem Neutral.nil : Neutral [] := fun _ => rfl

/-- Neutral texts in a row are neutral. -/
theorem Neutral.append {a b : Text} (ha : Neutral a) (hb : Neutral b) : Neutral (a ++ b) := by
  intro next?
  rw [scan_append, ha, hb]

theorem Neutral.char {c : Char} (h : c ∉ ['\'', '`', '-', '/']) : Neutral [c] := by
  intro next?
  simp only [List.mem_cons, List.not_mem_nil, or_false, not_or] at h
  obtain ⟨h1, h2, h3, h4⟩ := h
  rw [scan, scan_nil, step, if_neg h1, if_neg h2, if_neg fun e => h3 e.1, if_neg fun e => h4 e.1]

theorem Neutral.cons {c : Char} (h : c ∉ ['\'', '`', '-', '/']) {t : Text} (ht : Neutral t) :
    Neutral (c :: t) :=
  (Neutral.char h).append ht

theorem Neutral.commaJoined : ∀ {ts : List Text}, (∀ t ∈ ts, Neutral t) →
    Neutral (Text.commaJoined ts)
  | [], _ => .nil
  | [t], h => by
    rw [Literal.commaJoined_singleton]
    exact h t List.mem_cons_self
  | t :: u :: rest, h => by
    rw [Literal.commaJoined_cons_cons]
    have ih := Neutral.commaJoined fun v hv => h v (List.mem_cons_of_mem t hv)
    exact (h t List.mem_cons_self).append (ih.cons (by decide))

theorem not_mem_of_isBare {c : Char} (h : Literal.isBare c = true) : c ∉ ['\'', '`', '/'] := by
  rintro hc
  simp only [List.mem_cons, List.not_mem_nil, or_false] at hc
  rcases hc with rfl | rfl | rfl <;> exact absurd h (by decide)

/-- No dash of a calm text opens a comment, not even with what follows. -/
theorem neutral_of_calm : ∀ {t : Text}, (∀ c ∈ t, Literal.isBare c = true) → Literal.Calm t →
    Neutral t
  | [], _, _ => .nil
  | c :: t, hb, hc => by
    intro next?
    obtain ⟨hc1, hc2⟩ := List.isChain_cons.1 hc
    have hn := not_mem_of_isBare (hb c List.mem_cons_self)
    simp only [List.mem_cons, List.not_mem_nil, or_false, not_or] at hn
    obtain ⟨h1, h2, h3⟩ := hn
    -- what is calm does not end in a dash, so the text behind never supplies the second one
    have hd : ¬ (c = '-' ∧ t.head?.or next? = some '-') := by
      rintro ⟨hm, hd⟩
      cases t with
      | nil => exact hc1 '-' rfl hm rfl
      | cons d t => exact hc1 d rfl hm (Option.some.inj hd)
    rw [scan, step, if_neg h1, if_neg h2, if_neg hd, if_neg fun e => h3 e.1]
    exact neutral_of_calm (fun d hd => hb d (List.mem_cons_of_mem c hd)) hc2 next?

/-! ## Literals are neutral -/

theorem hexValue?_ne {c : Char} {n : Nat} (h : Literal.hexValue? c = some n) :
    c ∉ ['\\', '\'', '`'] := by
  have hn : ['\\', '\'', '`'].all (fun d => (Literal.hexValue? d).isNone) = true := rfl
  intro hc
  have := List.all_eq_true.1 hn c hc
  rw [h] at this
  cases this

/-- The body of a quoted text, with the quote behind it, leads out of the quotes. -/
theorem scan_quotes {m : Mode} {q : Char} (hq : q ∈ ['\'', '`'])
    (hm : ∀ c next?, (inside m).step c next? = quotedStep m q c) {s b : Text}
    (h : Literal.Quotes q s b) (next? : Option Char) :
    scan (inside m) (b ++ [q]) next? = inside .code := by
  have hqb : q ≠ '\\' := by
    rintro rfl
    exact absurd hq (by decide)
  induction h with
  | nil => rw [List.nil_append, scan, hm, scan_nil, quotedStep, if_neg hqb, if_pos rfl]
  | plain hc hb _ ih =>
    rw [List.cons_append, scan, hm, quotedStep, if_neg hb, if_neg hc]
    exact ih
  | escaped _ _ ih =>
    rw [List.cons_append, List.cons_append, scan, hm, quotedStep, if_pos rfl, scan, step]
    exact ih
  | @hex a d _ _ _ _ ha hd _ ih =>
    have ha := hexValue?_ne ha
    have hd := hexValue?_ne hd
    have hne : ∀ c, c ∉ ['\\', '\'', '`'] → quotedStep m q c = inside m := by
      intro c hc
      rw [quotedStep, if_neg fun e => hc (by simp [e]), if_neg]
      rintro rfl
      exact hc (List.mem_cons_of_mem _ hq)
    simp only [List.cons_append]
    rw [scan, hm, quotedStep, if_pos rfl, scan, step, scan, hm, hne a ha, scan, hm, hne d hd]
    exact ih

/-- A string literal is neutral: its quotes are closed, and nothing inside opens anything. -/
theorem neutral_string {s b : Text} (h : Literal.Quotes '\'' s b) :
    Neutral ('\'' :: b ++ ['\'']) := by
  intro next?
  rw [List.cons_append, scan, step, if_pos rfl]
  exact scan_quotes (by decide) (fun _ _ => rfl) h next?

/-- So is a quoted identifier. -/
theorem neutral_identifier {s b : Text} (h : Literal.Quotes '`' s b) :
    Neutral ('`' :: b ++ ['`']) := by
  intro next?
  rw [List.cons_append, scan, step, if_neg (by decide), if_pos rfl]
  exact scan_quotes (by decide) (fun _ _ => rfl) h next?

/-- So are neutral texts with commas between them. -/
theorem neutral_joined {items : List (Literal × Text)} (h : ∀ i ∈ items, Neutral i.2)
    {opening closing : Text} (ho : Neutral opening) (hc : Neutral closing) :
    Neutral (opening ++ Text.commaJoined (items.map (·.2)) ++ closing) := by
  refine (ho.append (.commaJoined fun t ht => ?_)).append hc
  obtain ⟨i, hi, rfl⟩ := List.mem_map.1 ht
  exact h i hi

/-- **Behind a literal the lexer is back in code**, whatever follows the literal. -/
theorem neutral_of_spells {l : Literal} {t : Text} (h : Literal.Spells l t) : Neutral t := by
  have hopen : Neutral ['['] := .char (by decide)
  have hclose : Neutral [']'] := .char (by decide)
  have hparen : Neutral ['('] := .char (by decide)
  have hthesis : Neutral [')'] := .char (by decide)
  have hmap : Neutral ['m', 'a', 'p', '('] :=
    .cons (by decide) (.cons (by decide) (.cons (by decide) hparen))
  induction h with
  | token h => exact neutral_of_calm h.bare h.calm
  | string h => exact neutral_string h
  | identifier h => exact neutral_identifier h
  | array _ ih => exact neutral_joined ih hopen hclose
  | tuple _ ih => exact neutral_joined ih hparen hthesis
  | map _ _ ih => exact neutral_joined ih hmap hthesis

end SqlTemplate.Lexical
