import Mathlib.Data.List.Chain
import SqlTemplate.Template

/-!
# Canonical segments

A template and its segments determine each other. `Template.unparse` writes the template of a list
of segments: literal text with its question marks doubled, slots as their placeholders. Not every
list is read back from what it writes: empty and adjacent literals are merged, and what follows the
slot of an argument may turn it into an escaped question mark or into a slot for columns. The lists
that have neither (`Canonical`) are exactly those that parsing gives (`parse_unparse_canonical`).
-/

namespace SqlTemplate

/-- Literal text as it stands in a template, each question mark doubled. -/
def Text.doubled (text : Text) : Text := text.flatMap fun c => if c = '?' then ['?', '?'] else [c]

namespace Segment

def source : Segment → Text
  | literal text => Text.doubled text
  | argument => "?".toList
  | fields => "?fields".toList

/-- Whether the second segment can stand directly behind the first. -/
def MayPrecede : Segment → Segment → Prop
  | literal _, literal _ => False
  | argument, argument => False
  | argument, fields => False
  | argument, literal text => ¬ "?".toList <+: text ∧ ¬ "fields".toList <+: text
  | _, _ => True

instance decidableMayPrecede : (s r : Segment) → Decidable (s.MayPrecede r)
  | literal _, literal _ => isFalse id
  | literal _, argument => isTrue trivial
  | literal _, fields => isTrue trivial
  | argument, argument => isFalse id
  | argument, fields => isFalse id
  | argument, literal text =>
    inferInstanceAs (Decidable (¬ "?".toList <+: text ∧ ¬ "fields".toList <+: text))
  | fields, literal _ => isTrue trivial
  | fields, argument => isTrue trivial
  | fields, fields => isTrue trivial

end Segment

namespace Template

def unparse (segments : List Segment) : Text := segments.flatMap Segment.source

/-- No literal is empty, and any two neighbours can stand side by side. -/
structure Canonical (segments : List Segment) : Prop where
  nonempty : ∀ s ∈ segments, s ≠ .literal []
  chain : segments.IsChain Segment.MayPrecede

instance (segments : List Segment) : Decidable (Canonical segments) :=
  decidable_of_iff
    ((∀ s ∈ segments, s ≠ .literal []) ∧ segments.IsChain Segment.MayPrecede)
    ⟨fun h => ⟨h.1, h.2⟩, fun h => ⟨h.nonempty, h.chain⟩⟩

end Template

/-! ## Doubled text -/

namespace Text

@[simp] theorem doubled_nil : doubled [] = [] := rfl

@[simp] theorem doubled_mark (t : Text) : doubled ('?' :: t) = '?' :: '?' :: doubled t := rfl

theorem doubled_cons {c : Char} (hc : c ≠ '?') (t : Text) : doubled (c :: t) = c :: doubled t := by
  simp [doubled, hc]

theorem prefix_doubled {w : Text} (hw : '?' ∉ w) {t v : Text} (h : w <+: t) :
    w <+: doubled t ++ v := by
  induction w generalizing t with
  | nil => exact List.nil_prefix
  | cons c w ih =>
    obtain ⟨hc, hw⟩ := List.ne_and_not_mem_of_not_mem_cons hw
    obtain ⟨t', rfl⟩ := h
    rw [List.cons_append, doubled_cons hc.symm, List.cons_append, List.cons_prefix_cons]
    exact ⟨rfl, ih hw (List.prefix_append w t')⟩

/-- A word without question marks that doubled text and what follows begin with is all in the
text. -/
theorem prefix_of_prefix_doubled {v : Text} (hv : ∀ c ∈ v.head?, c = '?') :
    ∀ {w t : Text}, '?' ∉ w → w <+: doubled t ++ v → w <+: t
  | [], _, _, _ => List.nil_prefix
  | d :: w, [], hw, h => by
    obtain ⟨rest, rfl⟩ := h
    exact absurd (hv d rfl) fun e => hw (e ▸ List.mem_cons_self)
  | d :: w, c :: t, hw, h => by
    obtain ⟨hd, hw'⟩ := List.ne_and_not_mem_of_not_mem_cons hw
    by_cases hc : c = '?'
    · subst hc
      rw [doubled_mark, List.cons_append, List.cons_prefix_cons] at h
      exact absurd h.1.symm hd
    · rw [doubled_cons hc, List.cons_append, List.cons_prefix_cons] at h
      exact List.cons_prefix_cons.2 ⟨h.1, prefix_of_prefix_doubled hv hw' h.2⟩

end Text

namespace Template

open Segment

/-! ## The rules of parsing -/

@[simp] theorem parse_nil : parse [] = [] := rfl

@[simp] theorem parse_mark (rest : Text) :
    parse ('?' :: '?' :: rest) = prepend '?' (parse rest) := by
  rw [parse]

/-- The longer placeholder is the one for columns. -/
theorem parse_fields (rest : Text) :
    parse ("?fields".toList ++ rest) = .fields :: parse rest :=
  parse.eq_3 rest

theorem parse_argument {rest : Text} (hm : ¬ "?".toList <+: rest)
    (hf : ¬ "fields".toList <+: rest) : parse ('?' :: rest) = .argument :: parse rest := by
  rw [parse]
  · rintro r rfl
    exact hm (List.prefix_append ['?'] r)
  · rintro r rfl
    exact hf (List.prefix_append "fields".toList r)

theorem parse_cons {c : Char} (hc : c ≠ '?') (rest : Text) :
    parse (c :: rest) = prepend c (parse rest) := by
  rw [parse]
  all_goals simp [hc]

/-! ## Writing what was parsed -/

@[simp] theorem source_literal (t : Text) : (literal t).source = Text.doubled t := rfl

@[simp] theorem unparse_nil : unparse [] = [] := rfl

@[simp] theorem unparse_cons (s : Segment) (rest : List Segment) :
    unparse (s :: rest) = s.source ++ unparse rest := rfl

/-- A character in front of segments is one in front of their source. -/
theorem unparse_prepend (c : Char) (segments : List Segment) :
    unparse (prepend c segments) = Text.doubled [c] ++ unparse segments := by
  unfold prepend
  split
  · simp [Text.doubled]
  · rfl

/-- Parsing loses nothing: the segments of a template write it again. -/
theorem unparse_parse (t : Text) : unparse (parse t) = t := by
  fun_induction parse t with
  | case1 => rfl
  | case2 rest ih => rw [unparse_prepend, ih]; rfl
  | case3 rest ih => rw [unparse_cons, ih]; rfl
  | case4 rest _ _ ih => rw [unparse_cons, ih]; rfl
  | case5 c rest _ _ hc ih =>
    rw [unparse_prepend, ih, Text.doubled_cons hc]
    rfl

/-! ## What parsing gives is canonical -/

theorem Canonical.nil : Canonical [] := ⟨by simp, .nil⟩

/-- Segments are canonical one by one, each in view of the next. -/
theorem canonical_cons {s : Segment} {rest : List Segment} :
    Canonical (s :: rest) ↔
      s ≠ .literal [] ∧ (∀ r ∈ rest.head?, s.MayPrecede r) ∧ Canonical rest := by
  constructor
  · rintro ⟨hn, hc⟩
    obtain ⟨hr, hc⟩ := List.isChain_cons.1 hc
    exact ⟨hn s List.mem_cons_self, hr, fun r hm => hn r (List.mem_cons_of_mem s hm), hc⟩
  · rintro ⟨hs, hr, hn, hc⟩
    exact ⟨List.forall_mem_cons.2 ⟨hs, hn⟩, List.isChain_cons.2 ⟨hr, hc⟩⟩

/-- Putting a character in front keeps segments canonical. -/
theorem Canonical.prepend {segments : List Segment} (h : Canonical segments) (c : Char) :
    Canonical (prepend c segments) := by
  unfold Template.prepend
  split
  · obtain ⟨-, hr, h⟩ := canonical_cons.1 h
    refine canonical_cons.2 ⟨by simp, fun r hm => ?_, h⟩
    cases r with
    | literal text => exact hr _ hm
    | argument => trivial
    | fields => trivial
  · rename_i hl
    refine canonical_cons.2 ⟨by simp, fun r hm => ?_, h⟩
    obtain ⟨rest, rfl⟩ := List.head?_eq_some_iff.1 hm
    cases r with
    | literal text => exact hl text rest rfl
    | argument => trivial
    | fields => trivial

/-- Behind the slot of an argument stands nothing that would have been read with it. -/
theorem argument_mayPrecede {rest : Text} (hm : ¬ "?".toList <+: rest)
    (hf : ¬ "fields".toList <+: rest) :
    ∀ r ∈ (parse rest).head?, Segment.argument.MayPrecede r := by
  intro r hr
  obtain ⟨more, e⟩ := List.head?_eq_some_iff.1 hr
  have hu : unparse (r :: more) = rest := by rw [← e, unparse_parse]
  cases r with
  | argument => exact hm ⟨unparse more, hu⟩
  | fields => exact hm ⟨"fields".toList ++ unparse more, hu⟩
  | literal text =>
    rw [unparse_cons] at hu
    refine ⟨fun h => ?_, fun h => hf ?_⟩
    · obtain ⟨t, rfl⟩ := h
      exact hm ⟨'?' :: Text.doubled t ++ unparse more, hu⟩
    · rw [← hu]
      exact Text.prefix_doubled (by decide) h

/-- Every template is split into canonical segments. -/
theorem parse_canonical (t : Text) : Canonical (parse t) := by
  fun_induction parse t with
  | case1 => exact .nil
  | case2 rest ih => exact ih.prepend '?'
  | case3 rest ih => exact canonical_cons.2 ⟨by simp, fun r _ => by cases r <;> trivial, ih⟩
  | case4 rest hm hf ih =>
    refine canonical_cons.2 ⟨by simp, argument_mayPrecede ?_ ?_, ih⟩
    · rintro ⟨r, rfl⟩
      exact hm r rfl
    · rintro ⟨r, rfl⟩
      exact hf r rfl
  | case5 c rest _ _ _ ih => exact ih.prepend c

/-! ## Parsing what was written -/

/-- What is written for canonical segments begins with a question mark, unless they begin with a
literal. -/
theorem head_unparse {segments : List Segment} (h : ∀ text, segments.head? ≠ some (.literal text)) :
    ∀ c ∈ (unparse segments).head?, c = '?' := by
  intro c hc
  cases segments with
  | nil => cases hc
  | cons s rest =>
    cases s with
    | literal text => exact absurd rfl (h text)
    | argument => exact (Option.some.inj hc).symm
    | fields => exact (Option.some.inj hc).symm

/-- A text with its marks doubled is read as itself. -/
theorem parse_doubled (t v : Text) :
    parse (Text.doubled t ++ v) = t.foldr prepend (parse v) := by
  induction t with
  | nil => rfl
  | cons c t ih =>
    by_cases hc : c = '?'
    · subst hc
      rw [Text.doubled_mark, List.cons_append, List.cons_append, parse_mark, ih]
      rfl
    · rw [Text.doubled_cons hc, List.cons_append, parse_cons hc, ih]
      rfl

theorem prepend_of_no_literal {segments : List Segment}
    (h : ∀ text, segments.head? ≠ some (.literal text)) (c : Char) :
    prepend c segments = .literal [c] :: segments := by
  unfold prepend
  split
  · exact absurd rfl (h _)
  · rfl

/-- Characters put before segments that do not begin with a literal make one literal. -/
theorem foldr_prepend {segments : List Segment}
    (h : ∀ text, segments.head? ≠ some (.literal text)) :
    ∀ {t : Text}, t ≠ [] → t.foldr prepend segments = .literal t :: segments
  | [c], _ => prepend_of_no_literal h c
  | c :: d :: t, _ => by
    rw [List.foldr_cons, foldr_prepend h (List.cons_ne_nil d t)]
    rfl

theorem literal_head {text : Text} {rest : List Segment} (h : Canonical (.literal text :: rest)) :
    ∀ t, rest.head? ≠ some (.literal t) := fun t e =>
  (canonical_cons.1 h).2.1 (.literal t) e

/-- A word without question marks that written canonical segments begin with is the beginning of a
literal. -/
theorem prefix_unparse {w : Text} (hw : '?' ∉ w) (hn : w ≠ []) {segments : List Segment}
    (h : Canonical segments) (hp : w <+: unparse segments) :
    ∃ text, segments.head? = some (.literal text) ∧ w <+: text := by
  by_cases hl : ∃ text, segments.head? = some (.literal text)
  · obtain ⟨text, hl⟩ := hl
    obtain ⟨rest, rfl⟩ := List.head?_eq_some_iff.1 hl
    exact ⟨text, hl, Text.prefix_of_prefix_doubled (head_unparse (literal_head h)) hw hp⟩
  · obtain ⟨c, w, rfl⟩ := List.exists_cons_of_ne_nil hn
    obtain ⟨rest, hr⟩ := hp
    have hc := head_unparse (fun text e => hl ⟨text, e⟩) c (by rw [← hr]; rfl)
    exact absurd (hc ▸ List.mem_cons_self) hw

/-- What is written behind the slot of an argument does not begin with a question mark. -/
theorem not_mark_prefix_unparse {rest : List Segment} (h : Canonical rest)
    (hp : ∀ r ∈ rest.head?, Segment.argument.MayPrecede r) : ¬ "?".toList <+: unparse rest := by
  rintro ⟨v, hv⟩
  cases rest with
  | nil => cases hv
  | cons s rest =>
    cases s with
    | argument => exact hp .argument rfl
    | fields => exact hp .fields rfl
    | literal text =>
      obtain ⟨c, t, rfl⟩ : ∃ c t, text = c :: t :=
        List.exists_cons_of_ne_nil fun e => (canonical_cons.1 h).1 (e ▸ rfl)
      by_cases hc : c = '?'
      · exact (hp _ rfl).1 (hc ▸ List.prefix_append ['?'] t)
      · rw [unparse_cons, source_literal, Text.doubled_cons hc] at hv
        exact hc (List.cons.inj hv).1.symm

/-- Canonical segments are read back from their source. -/
theorem parse_unparse : ∀ {segments : List Segment}, Canonical segments →
    parse (unparse segments) = segments
  | [], _ => rfl
  | .literal text :: rest, h => by
    obtain ⟨hn, -, hr⟩ := canonical_cons.1 h
    have ht : text ≠ [] := fun e => hn (e ▸ rfl)
    rw [unparse_cons, source_literal, parse_doubled, parse_unparse hr,
      foldr_prepend (literal_head h) ht]
  | .fields :: rest, h => by
    obtain ⟨-, -, hr⟩ := canonical_cons.1 h
    have e : parse ("?fields".toList ++ unparse rest) = .fields :: parse (unparse rest) :=
      parse_fields (unparse rest)
    exact e.trans (by rw [parse_unparse hr])
  | .argument :: rest, h => by
    obtain ⟨-, hp, hr⟩ := canonical_cons.1 h
    -- neither a question mark nor the word for columns can follow, so the slot is read as it is
    have hf : ¬ "fields".toList <+: unparse rest := fun hf => by
      obtain ⟨text, hl, hw⟩ := prefix_unparse (by decide) (by decide) hr hf
      exact (hp _ hl).2 hw
    have e : parse ('?' :: unparse rest) = .argument :: parse (unparse rest) :=
      parse_argument (not_mark_prefix_unparse hr hp) hf
    exact e.trans (by rw [parse_unparse hr])

/-- **Templates and canonical segments are the same thing**: parsing is a bijection from all
templates onto the canonical lists of segments, and `unparse` is its inverse. -/
theorem parse_unparse_canonical :
    (∀ template, unparse (parse template) = template) ∧
      (∀ segments, (∃ template, parse template = segments) ↔ Canonical segments) ∧
      ∀ segments, Canonical segments → parse (unparse segments) = segments := by
  refine ⟨unparse_parse, fun segments => ⟨?_, fun h => ⟨_, parse_unparse h⟩⟩,
    fun _ => parse_unparse⟩
  rintro ⟨template, rfl⟩
  exact parse_canonical template

/-- Question marks in literals on both sides of slots. -/
theorem parse_unparse_mixed :
    parse "?field??fields?fields???".toList =
      [.argument, .literal "field?fields".toList, .fields, .literal "?".toList, .argument] :=
  parse_unparse_canonical.2.2
    [.argument, .literal "field?fields".toList, .fields, .literal "?".toList, .argument] (by decide)

end Template

end SqlTemplate
