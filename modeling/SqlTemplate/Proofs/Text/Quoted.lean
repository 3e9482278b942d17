import SqlTemplate.Proofs.Text.Escape
import SqlTemplate.Proofs.Text.Replace

/-!
# What a quoted text tells

Whatever the quote is, two texts that are quoted the same are the same (`quoted_inj`). To put a
backslash before each occurrence of the quote would not be enough, since the backslash may be taken
for one of the text where the quote itself holds backslashes. But the backslashes of the text are
doubled first, so that all runs of them are even (`Paired`): if the quote stood in one text only,
the backslash before it would have to be the other one's own, and would make one of its runs odd
(`Replaced.not_missed`). A quote that is itself a run of backslashes needs no such care.

A text between two quotes of a single character other than the backslash can be read off the front
of whatever it stands before (`takeQuoted?_quoted`).
-/

namespace SqlTemplate.Text

/-! ## Runs of backslashes -/

/-- Every run of backslashes is even, where an odd number of them stands before the text if `odd` is
true. -/
inductive Paired : Bool → Text → Prop
  | nil : Paired false []
  | plain {c : Char} {s : Text} : c ≠ '\\' → Paired false s → Paired false (c :: s)
  | backslash {odd : Bool} {s : Text} : Paired (!odd) s → Paired odd ('\\' :: s)

theorem paired_doubled (s : Text) : Paired false (replace ['\\'] ['\\', '\\'] s) := by
  rw [replace_single]
  induction s with
  | nil => exact .nil
  | cons c s ih =>
    rw [List.flatMap_cons]
    split
    · exact .backslash (.backslash ih)
    · rename_i hc
      exact .plain hc ih

/-- Behind what two texts with even runs have in common, both go on from the same count. -/
theorem Paired.drop {odd : Bool} {s u v : Text} (hu : Paired odd (s ++ u))
    (hv : Paired odd (s ++ v)) : ∃ odd', Paired odd' u ∧ Paired odd' v := by
  induction s generalizing odd with
  | nil => exact ⟨odd, hu, hv⟩
  | cons c s ih =>
    cases hu with
    | plain hc hu =>
      cases hv with
      | plain _ hv => exact ih hu hv
      | backslash _ => exact absurd rfl hc
    | backslash hu =>
      cases hv with
      | plain hc _ => exact absurd rfl hc
      | backslash hv => exact ih hu hv

/-- A run of backslashes and a run with one more are not both even. -/
theorem Paired.not_longer {odd : Bool} {x : Char} (hx : x ≠ '\\') {n : Nat} {s t : Text}
    (hs : Paired odd (List.replicate n '\\' ++ x :: s))
    (ht : Paired odd (List.replicate (n + 1) '\\' ++ x :: t)) : False := by
  induction n generalizing odd with
  | zero =>
    cases hs with
    | backslash _ => exact hx rfl
    | plain _ _ =>
      cases ht with
      | plain hc _ => exact hc rfl
      | backslash ht =>
        cases ht with
        | backslash _ => exact hx rfl
  | succ n ih =>
    cases hs with
    | plain hc _ => exact hc rfl
    | backslash hs =>
      cases ht with
      | plain hc _ => exact hc rfl
      | backslash ht => exact ih hs ht

/-- A run that ends is not at the front of a longer one. -/
theorem not_prefix_of_lt {x : Char} (hx : x ≠ '\\') {k n : Nat} (h : k < n) (s : Text) :
    ¬ List.replicate k '\\' ++ [x] <+: List.replicate n '\\' ++ s := by
  intro hp
  have hk : (List.replicate n '\\' ++ s)[k]? = some '\\' := by
    rw [List.getElem?_append_left (by simpa using h), List.getElem?_replicate, if_pos h]
  have he := List.prefix_iff_getElem?.1 hp k (by simp)
  simp only [hk, List.length_replicate, Nat.le_refl, List.getElem_append_right, Nat.sub_self,
    List.getElem_cons_zero, Option.some.injEq] at he
  exact hx he.symm

/-- A text is a run of backslashes, or begins with one that another character ends. -/
theorem run_cases (s : Text) : (∃ n, s = List.replicate n '\\') ∨
    ∃ n x rest, x ≠ '\\' ∧ s = List.replicate n '\\' ++ x :: rest := by
  induction s with
  | nil => exact .inl ⟨0, rfl⟩
  | cons c s ih =>
    by_cases hc : c = '\\'
    · subst hc
      rcases ih with ⟨n, rfl⟩ | ⟨n, x, rest, hx, rfl⟩
      · exact .inl ⟨n + 1, rfl⟩
      · exact .inr ⟨n + 1, x, rest, hx, rfl⟩
    · exact .inr ⟨0, c, s, hc, rfl⟩

/-! ## Backslashes before quotes -/

/-- A run of backslashes at the front, no longer than a quote that is such a run itself, stood there
before. -/
theorem Replaced.run_prefix {n k : Nat} (hk : k ≤ n) {sub s t : Text}
    (h : Replaced (List.replicate n '\\') sub s t) (hp : List.replicate k '\\' <+: t) :
    List.replicate k '\\' <+: s := by
  induction h generalizing k with
  | nil => exact hp
  | @found s t _ _ =>
    have hn : List.replicate k '\\' <+: List.replicate n '\\' :=
      ⟨List.replicate (n - k) '\\', by simp [hk]⟩
    exact hn.trans (List.prefix_append _ s)
  | kept _ _ ih =>
    cases k with
    | zero => exact List.nil_prefix
    | succ k =>
      rw [List.replicate_succ, List.cons_prefix_cons] at hp ⊢
      exact ⟨hp.1, ih (by omega) hp.2⟩

/-- The same for a quote that goes on behind its run of backslashes: the run with the character that
ends it, or the last part of both, stood there before. -/
theorem Replaced.front_prefix {quote rest s t : Text} {n k : Nat} {x : Char} (hx : x ≠ '\\')
    (hq : quote = List.replicate n '\\' ++ x :: rest) (hk : k ≤ n)
    (h : Replaced quote ('\\' :: quote) s t) (hp : List.replicate k '\\' ++ [x] <+: t) :
    List.replicate k '\\' ++ [x] <+: s := by
  induction h generalizing k with
  | nil => exact hp
  | @found s t _ _ =>
    have hr : '\\' :: quote ++ t = List.replicate (n + 1) '\\' ++ (x :: rest ++ t) := by
      simp [hq, List.replicate_succ]
    rw [hr] at hp
    exact absurd hp (not_prefix_of_lt hx (Nat.lt_succ_of_le hk) _)
  | kept _ _ ih =>
    cases k with
    | zero => simpa using hp
    | succ k =>
      rw [List.replicate_succ, List.cons_append, List.cons_prefix_cons] at hp ⊢
      exact ⟨hp.1, ih (by omega) hp.2⟩

/-- The quote is a run of backslashes, or both texts have even runs of them. -/
def Tellable (quote : Text) (odd : Bool) (u v : Text) : Prop :=
  (∃ n, quote = List.replicate n '\\') ∨ Paired odd u ∧ Paired odd v

theorem Tellable.symm {quote u v : Text} {odd : Bool} (h : Tellable quote odd u v) :
    Tellable quote odd v u := h.imp_right And.symm

theorem Tellable.drop {quote s u v : Text} {odd : Bool}
    (h : Tellable quote odd (s ++ u) (s ++ v)) : ∃ odd', Tellable quote odd' u v := by
  rcases h with hr | ⟨hu, hv⟩
  · exact ⟨odd, .inl hr⟩
  · obtain ⟨odd', hp⟩ := hu.drop hv
    exact ⟨odd', .inr hp⟩

/-- No backslash of a text can be taken for the one before a quote of another text. -/
theorem Replaced.not_missed {quote u v t : Text} {odd : Bool}
    (ht : Tellable quote odd (quote ++ u) ('\\' :: v)) (hm : ¬ quote <+: '\\' :: v)
    (h : Replaced quote ('\\' :: quote) v (quote ++ t)) : False := by
  rcases run_cases quote with ⟨n, hq⟩ | ⟨n, x, rest, hx, hq⟩
  · rw [hq] at h hm
    have hp : List.replicate n '\\' <+: v := h.run_prefix (Nat.le_refl n) (List.prefix_append _ t)
    have hn : List.replicate n '\\' <+: '\\' :: List.replicate n '\\' :=
      ⟨['\\'], by rw [← List.replicate_succ', List.replicate_succ]⟩
    exact hm (hn.trans (List.cons_prefix_cons.2 ⟨rfl, hp⟩))
  · have hp : List.replicate n '\\' ++ [x] <+: quote ++ t := ⟨rest ++ t, by simp [hq]⟩
    obtain ⟨w, rfl⟩ := h.front_prefix hx hq (Nat.le_refl n) hp
    rcases ht with ⟨m, hr⟩ | ⟨hu, hv⟩
    · have hmem : x ∈ List.replicate m '\\' := by simp [← hr, hq]
      exact hx (List.eq_of_mem_replicate hmem)
    · rw [hq, List.append_assoc] at hu
      rw [List.append_assoc] at hv
      exact hu.not_longer hx hv

/-- **Backslashes before quotes keep texts apart** in which runs of backslashes are even and, with a
quote that is a run of backslashes, all texts. -/
theorem Replaced.eq_of_eq {quote u v t t' : Text} {odd : Bool}
    (hu : Replaced quote ('\\' :: quote) u t) (hv : Replaced quote ('\\' :: quote) v t')
    (ht : Tellable quote odd u v) (he : t = t') : u = v := by
  induction hu generalizing v t' odd with
  | nil =>
    cases hv with
    | nil => rfl
    | found _ => cases he
    | kept _ _ => cases he
  | found _ ih =>
    cases hv with
    | nil => cases he
    | found hv =>
      obtain ⟨odd', ht⟩ := ht.drop
      rw [ih hv ht (List.append_cancel_left he)]
    | kept hm hv =>
      obtain ⟨rfl, rfl⟩ := List.cons.inj he
      exact (hv.not_missed ht hm).elim
  | @kept c _ _ hm hu ih =>
    cases hv with
    | nil => cases he
    | found _ =>
      obtain ⟨rfl, rfl⟩ := List.cons.inj he
      exact (hu.not_missed ht.symm hm).elim
    | kept _ hv =>
      obtain ⟨rfl, hs⟩ := List.cons.inj he
      obtain ⟨odd', ht⟩ := Tellable.drop (s := [c]) ht
      rw [ih hv ht hs]

/-! ## Telling texts apart -/

/-- Doubling backslashes loses nothing. -/
theorem doubled_inj {s t : Text} :
    replace ['\\'] ['\\', '\\'] s = replace ['\\'] ['\\', '\\'] t ↔ s = t := by
  refine ⟨fun h => ?_, congrArg _⟩
  have hq : ['\\'] ≠ [] := List.cons_ne_nil _ _
  have ht : Tellable ['\\'] false s t := .inl ⟨1, rfl⟩
  exact (replaced_replace hq _ s).eq_of_eq (replaced_replace hq _ t) ht h

/-- Nor does escaping, whatever the quote is. -/
theorem escape_inj {quote s t : Text} : escape quote s = escape quote t ↔ s = t := by
  refine ⟨fun h => ?_, congrArg _⟩
  apply doubled_inj.1
  by_cases hq : quote = []
  · subst hq
    exact interleave_inj.1 h
  · have ht : Tellable quote false _ _ := .inr ⟨paired_doubled s, paired_doubled t⟩
    exact (replaced_replace hq _ _).eq_of_eq (replaced_replace hq _ _) ht h

/-- **A quoted text tells what has been quoted**: under any quote, also one of several characters,
with backslashes, or none, different texts are quoted differently. -/
theorem quoted_inj {quote s t : Text} : quoted quote s = quoted quote t ↔ s = t := by
  refine ⟨fun h => ?_, congrArg _⟩
  exact escape_inj.1 (List.append_cancel_left (List.append_cancel_right h))

/-- Without the doubling, a backslash of one text stands for that before a quote of the other. -/
example : let quote := "a\\a".toList
    replace quote ('\\' :: quote) "a\\a\\a".toList =
      replace quote ('\\' :: quote) "\\aa\\a".toList := by
  decide

/-! ## Reading back -/

/-- Reads up to the first `q` that does not stand behind a backslash: the content and the rest. A
backslash and the character behind it stand for that character. -/
def takeContent? (q : Char) : Text → Option (Text × Text)
  | [] => none
  | '\\' :: c :: s => (takeContent? q s).map fun r => (c :: r.1, r.2)
  | c :: s => if c = q then some ([], s) else (takeContent? q s).map fun r => (c :: r.1, r.2)

/-- Reads a text between two `q`s off the front: the content and the rest. -/
def takeQuoted? (q : Char) : Text → Option (Text × Text)
  | [] => none
  | c :: s => if c = q then takeContent? q s else none

section

variable {q : Char} (hq : q ≠ '\\')

include hq

theorem takeContent?_close (rest : Text) : takeContent? q (q :: rest) = some ([], rest) := by
  rw [takeContent?, if_pos rfl]
  simp [hq]

theorem takeContent?_escapeChar (c : Char) (s : Text) : takeContent? q (escapeChar q c ++ s) =
    (takeContent? q s).map fun r => (c :: r.1, r.2) := by
  unfold escapeChar
  split
  · rename_i hc
    subst hc
    rfl
  · rename_i hc
    split
    · rename_i hcq
      subst hcq
      rfl
    · rename_i hcq
      rw [List.singleton_append, takeContent?, if_neg hcq]
      simp [hc]

/-- A content is taken back from its escaped form. -/
theorem takeContent?_escape (s rest : Text) :
    takeContent? q (escape [q] s ++ q :: rest) = some (s, rest) := by
  rw [escape_single hq]
  induction s with
  | nil => exact takeContent?_close hq rest
  | cons c s ih =>
    rw [List.flatMap_cons, List.append_assoc, takeContent?_escapeChar hq, ih]
    rfl

end

/-- **A quoted text is read back** and what follows it is left, whatever both are; so are string
literals and quoted identifiers. -/
theorem takeQuoted?_quoted (s rest : Text) :
    (∀ q ≠ '\\', takeQuoted? q (quoted [q] s ++ rest) = some (s, rest)) ∧
    takeQuoted? '\'' (quotedString s ++ rest) = some (s, rest) ∧
    takeQuoted? '`' (quotedIdentifier s ++ rest) = some (s, rest) := by
  have h : ∀ q ≠ '\\', takeQuoted? q (quoted [q] s ++ rest) = some (s, rest) := by
    intro q hq
    have he : quoted [q] s ++ rest = q :: (escape [q] s ++ q :: rest) := by simp [quoted]
    rw [he, takeQuoted?, if_pos rfl, takeContent?_escape hq]
  exact ⟨h, h '\'' (by decide), h '`' (by decide)⟩

/-- Backslashes at the end, behind quotes, and a rest that begins with both. -/
theorem takeQuoted?_quoted_backslashes :
    quoted ['|'] "a|\\|\\\\".toList = "|a\\|\\\\\\|\\\\\\\\|".toList ∧
    takeQuoted? '|' (quoted ['|'] "a|\\|\\\\".toList ++ "|\\".toList) =
      some ("a|\\|\\\\".toList, "|\\".toList) :=
  ⟨rfl, (takeQuoted?_quoted _ _).1 '|' (by decide)⟩

end SqlTemplate.Text
