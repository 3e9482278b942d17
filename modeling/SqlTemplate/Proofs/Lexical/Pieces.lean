import Mathlib.Data.List.Chain
import SqlTemplate.Proofs.Lexical.Scan

/-!
# What fills a slot and how the rest is read

A statement is made of pieces: text of its template, and what is filled into the slots between. What
is filled in is neutral, so that the template can be read differently only where a piece of it ends
in the first character of an opener of a comment and the text behind goes on with the second one
(`Piece.Fuses`). `ownModes_eq_iff` says that this is exactly when the characters of the template do
not belong to what they belong to with opaque words in all slots.
-/

namespace SqlTemplate.Lexical

open State

/-- The character opens a comment with the next one. -/
def Opens (c : Char) (next? : Option Char) : Prop :=
  c = '-' ∧ next? = some '-' ∨ c = '/' ∧ next? = some '*'

instance (c : Char) (next? : Option Char) : Decidable (Opens c next?) :=
  inferInstanceAs (Decidable (_ ∨ _))

/-- A piece of a statement. -/
inductive Piece where
  /-- Text of the template. -/
  | own (text : Text)
  /-- What is filled into a slot. -/
  | filled (text : Text)

namespace Piece

def text : Piece → Text
  | own t | filled t => t

/-- The piece with `w` in its place if it fills a slot. -/
def blank (w : Text) : Piece → Piece
  | own t => own t
  | filled _ => filled w

def isFilled : Piece → Bool
  | own _ => false
  | filled _ => true

/-- Whether each character of the piece is one of the template. -/
def marks : Piece → List Bool
  | own t => List.replicate t.length true
  | filled t => List.replicate t.length false

/-- Text of the template that is met in the state `s` ends in a character that is read in code and
opens a comment with the one behind. -/
def Fuses (s : State) (p : Piece) (next? : Option Char) : Prop :=
  match p with
  | own t => ∃ c ∈ t.getLast?, scan s t.dropLast (some c) = inside .code ∧ Opens c next?
  | filled _ => False

instance (s : State) : (p : Piece) → (next? : Option Char) → Decidable (p.Fuses s next?)
  | own t, _ => Option.decidableExistsMem t.getLast?
  | filled _, _ => isFalse id

end Piece

/-- The statement that the pieces make. -/
def statement (pieces : List Piece) : Text := pieces.flatMap Piece.text

/-- The items of a list that goes along the statement which stand at characters of the template. -/
def ownItems {α : Type} (pieces : List Piece) (items : List α) : List α :=
  (((pieces.flatMap Piece.marks).zip items).filter (·.1)).map (·.2)

/-- Each piece with the state in which it is met and the character behind it. -/
def walk (s : State) : List Piece → List (State × Piece × Option Char)
  | [] => []
  | p :: rest => (s, p, (statement rest).head?) :: walk (scan s p.text (statement rest).head?) rest

/-- All slots are met in code. -/
def SlotsInCode (s : State) (pieces : List Piece) : Prop :=
  ∀ m ∈ walk s pieces, m.2.1.isFilled = true → m.1 = inside .code

instance (s : State) (pieces : List Piece) : Decidable (SlotsInCode s pieces) :=
  List.decidableBAll _ (walk s pieces)

/-- What the characters of the template belong to. -/
def ownModes (s : State) : List Piece → List Mode
  | [] => []
  | .own t :: rest =>
    modes s t (statement rest).head? ++ ownModes (scan s t (statement rest).head?) rest
  | .filled t :: rest => ownModes (scan s t (statement rest).head?) rest

@[simp] theorem statement_nil : statement [] = [] := rfl

@[simp] theorem statement_cons (p : Piece) (rest : List Piece) :
    statement (p :: rest) = p.text ++ statement rest := rfl

/-! ## What stands behind a text -/

/-- A character that is the second one of no opener and of no closer, or none. -/
def Silent (next? : Option Char) : Prop := ∀ c ∈ next?, c ∉ ['-', '*', '/']

theorem Silent.none : Silent none := by simp [Silent]

/-- Between characters that open nothing it does not matter which one follows. -/
theorem step_silent {n m : Option Char} (hn : Silent n) (hm : Silent m) (s : State) (c : Char) :
    s.step c n = s.step c m := by
  have hne : ∀ {k : Option Char}, Silent k → k ≠ some '-' ∧ k ≠ some '*' ∧ k ≠ some '/' := by
    intro k hk
    refine ⟨?_, ?_, ?_⟩ <;> rintro rfl <;> exact absurd (hk _ rfl) (by decide)
  obtain ⟨n1, n2, n3⟩ := hne hn
  obtain ⟨m1, m2, m3⟩ := hne hm
  cases s with
  | inside k => cases k <;> simp [step, n1, n2, n3, m1, m2, m3]
  | _ => rfl

theorem scan_silent {n m : Option Char} (hn : Silent n) (hm : Silent m) (s : State) (t : Text) :
    scan s t n = scan s t m := by
  induction t generalizing s with
  | nil => rfl
  | cons c t ih =>
    cases t with
    | nil => exact step_silent hn hm s c
    | cons d t => exact ih _

theorem modes_silent {n m : Option Char} (hn : Silent n) (hm : Silent m) (s : State) (t : Text) :
    modes s t n = modes s t m := by
  induction t generalizing s with
  | nil => rfl
  | cons c t ih =>
    cases t with
    | nil =>
      have h : s.step c ([].head?.or n) = s.step c ([].head?.or m) := step_silent hn hm s c
      rw [modes, modes, h]
      rfl
    | cons d t => exact congrArg (List.cons _) (ih _)

/-! ## The characters of the template -/

theorem ownItems_own {α : Type} (t : Text) (rest : List Piece) {a : List α} (b : List α)
    (h : a.length = t.length) : ownItems (.own t :: rest) (a ++ b) = a ++ ownItems rest b := by
  have hz : (List.replicate t.length true).zip a = a.map fun x => (true, x) := by
    rw [← h]
    clear h
    induction a with
    | nil => rfl
    | cons x a ih => rw [List.length_cons, List.replicate_succ, List.zip_cons_cons, ih]; rfl
  rw [ownItems, List.flatMap_cons, Piece.marks, List.zip_append (by simp [h]), hz]
  simp [ownItems, List.filter_map, Function.comp_def]

theorem ownItems_filled {α : Type} (t : Text) (rest : List Piece) {a : List α} (b : List α)
    (h : a.length = t.length) : ownItems (.filled t :: rest) (a ++ b) = ownItems rest b := by
  have hz : ((List.replicate t.length false).zip a).filter (·.1) = [] := by
    rw [List.filter_eq_nil_iff]
    intro x hx
    have := (List.of_mem_zip (a := x.1) (b := x.2) hx).1
    simp [(List.mem_replicate.1 this).2]
  rw [ownItems, List.flatMap_cons, Piece.marks, List.zip_append (by simp [h]), List.filter_append,
    hz]
  rfl

/-- Reading the statement up to a silent end is reading its pieces. -/
theorem ownItems_modes {tail : Text} (ht : Silent tail.head?) (s : State) (pieces : List Piece) :
    ownItems pieces (modes s (statement pieces ++ tail) none) = ownModes s pieces := by
  induction pieces generalizing s with
  | nil => rfl
  | cons p rest ih =>
    have hn : ∀ t, scan s t ((statement rest ++ tail).head?.or none) =
        scan s t (statement rest).head? ∧
        modes s t ((statement rest ++ tail).head?.or none) = modes s t (statement rest).head? := by
      intro t
      rw [Option.or_none]
      cases statement rest with
      | nil => exact ⟨scan_silent ht .none s t, modes_silent ht .none s t⟩
      | cons c u => exact ⟨rfl, rfl⟩
    rw [statement_cons, List.append_assoc, modes_append]
    cases p with
    | own t =>
      rw [Piece.text, ownItems_own _ _ _ (length_modes _ _ _), (hn t).1, (hn t).2, ih]
      rfl
    | filled t =>
      rw [Piece.text, ownItems_filled _ _ _ (length_modes _ _ _), (hn t).1, ih]
      rfl

/-! ## Meeting a slot -/

/-- A character that leads to code in front of one thing leads there in front of another, unless it
opens a comment with that. -/
theorem step_eq_code {s : State} {c : Char} {n m : Option Char} (h : s.step c n = inside .code)
    (hf : ¬ (s = inside .code ∧ Opens c m)) : s.step c m = inside .code := by
  cases s with
  | inside k =>
    cases k with
    | code =>
      simp only [true_and, Opens, not_or] at hf
      simp only [step] at h ⊢
      split at h
      · cases h
      · split at h
        · cases h
        · rw [if_neg ‹_›, if_neg ‹_›, if_neg hf.1, if_neg hf.2]
    | block =>
      -- a star looks ahead as well, but does not lead to code by itself
      simp only [step] at h
      split at h <;> cases h
    | _ => exact h
  | _ => exact h

/-- A character that opens a comment belongs to it. -/
theorem charMode_opens {c : Char} {m : Option Char} (h : Opens c m) :
    charMode (inside .code) ((inside .code).step c m) ≠ .code := by
  obtain ⟨rfl, rfl⟩ | ⟨rfl, rfl⟩ := h <;> decide

/-- A text that leads to code in front of one thing is read alike in front of another and leads to
code again, unless it fuses with that; then it is read differently. -/
theorem modes_eq_iff {s : State} {t : Text} (ht : t ≠ []) {n : Option Char}
    (h : scan s t n = inside .code) (m : Option Char) :
    (modes s t m = modes s t n ↔ ¬ (Piece.own t).Fuses s m) ∧
      (¬ (Piece.own t).Fuses s m → scan s t m = inside .code) := by
  obtain ⟨u, c, rfl⟩ : ∃ u c, t = u ++ [c] :=
    ⟨t.dropLast, t.getLast ht, (List.dropLast_append_getLast ht).symm⟩
  have hs : ∀ k, scan s (u ++ [c]) k = (scan s u (some c)).step c k := fun k => by
    rw [scan_append]; rfl
  have hm : ∀ k, modes s (u ++ [c]) k = modes s u (some c) ++
      [charMode (scan s u (some c)) ((scan s u (some c)).step c k)] := fun k => by
    rw [modes_append]; rfl
  have hf : (Piece.own (u ++ [c])).Fuses s m ↔ scan s u (some c) = inside .code ∧ Opens c m := by
    simp [Piece.Fuses]
  rw [hs] at h
  rw [hm, hm, hs, hf, List.append_cancel_left_eq, List.cons.injEq, h]
  by_cases hc : scan s u (some c) = inside .code ∧ Opens c m
  · have hne := charMode_opens hc.2
    rw [← hc.1] at hne
    refine ⟨⟨fun e => absurd (e.1.trans ?_) hne, absurd hc⟩, absurd hc⟩
    rw [hc.1]
    rfl
  · rw [step_eq_code h hc]
    exact ⟨⟨fun _ => hc, fun _ => ⟨rfl, rfl⟩⟩, fun _ => rfl⟩

/-! ## Opaque words in the slots -/

/-- A word without quotes, backslashes and characters of openers and closers. -/
def Opaque (w : Text) : Prop := ∀ c ∈ w, c ∉ ['\'', '`', '\\', '-', '/', '*']

instance (w : Text) : Decidable (Opaque w) := List.decidableBAll _ w

/-- Opaque words are neutral. -/
theorem Opaque.neutral {w : Text} (h : Opaque w) : Neutral w := by
  induction w with
  | nil => exact .nil
  | cons c w ih =>
    refine .cons (fun hc => h c List.mem_cons_self ?_)
      (ih fun d hd => h d (List.mem_cons_of_mem c hd))
    simp only [List.mem_cons, List.not_mem_nil, or_false] at hc ⊢
    tauto

def blanked (w : Text) (pieces : List Piece) : List Piece := pieces.map (Piece.blank w)

/-- No text of the template is empty or stands beside another, and what fills the slots is
neutral. -/
structure Proper (pieces : List Piece) : Prop where
  ne_nil : ∀ t, .own t ∈ pieces → t ≠ []
  chain : pieces.IsChain fun p q => p.isFilled = true ∨ q.isFilled = true
  neutral : ∀ t, .filled t ∈ pieces → Neutral t

theorem Proper.tail {p : Piece} {rest : List Piece} (h : Proper (p :: rest)) : Proper rest :=
  ⟨fun t ht => h.ne_nil t (List.mem_cons_of_mem p ht), h.chain.tail,
    fun t ht => h.neutral t (List.mem_cons_of_mem p ht)⟩

/-- **The template is read as with opaque words in its slots** exactly if none of its texts fuses
with what stands behind it. -/
theorem ownModes_eq_iff {w : Text} (hw : Opaque w) : ∀ {pieces : List Piece}, Proper pieces →
    ∀ {s : State}, SlotsInCode s (blanked w pieces) →
      (ownModes s pieces = ownModes s (blanked w pieces) ↔
        ∀ m ∈ walk s pieces, ¬ m.2.1.Fuses m.1 m.2.2)
  | [], _, s, _ => by simp [blanked, ownModes, walk]
  | .filled f :: rest, hp, s, hs => by
    obtain ⟨hc, hs⟩ := List.forall_mem_cons.1 hs
    obtain rfl : s = inside .code := hc rfl
    have hf : ∀ n, scan (inside .code) f n = inside .code := hp.neutral f List.mem_cons_self
    have hv : ∀ n, scan (inside .code) w n = inside .code := hw.neutral
    dsimp only [Piece.blank, Piece.text] at hs
    rw [hv] at hs
    have ih := ownModes_eq_iff hw hp.tail hs
    rw [blanked, List.map_cons, Piece.blank, ownModes, ownModes, hf, hv, walk, List.forall_mem_cons,
      Piece.text, hf]
    exact ih.trans (and_iff_right id).symm
  | [.own t], _, s, _ => by
    have hn : ¬ (Piece.own t).Fuses s none := by
      rintro ⟨c, -, -, h⟩
      simp [Opens] at h
    simpa [blanked, Piece.blank, walk] using hn
  | .own t :: .own u :: rest, hp, s, _ => by
    have h := (List.isChain_cons_cons.1 hp.chain).1
    simp [Piece.isFilled] at h
  | .own t :: .filled f :: rest, hp, s, hs => by
    -- `m` stands behind the text, `n` where opaque words fill the slots
    obtain ⟨m, em⟩ : ∃ m, m = (statement (.filled f :: rest)).head? := ⟨_, rfl⟩
    obtain ⟨n, en⟩ : ∃ n, n = (statement (blanked w (.filled f :: rest))).head? := ⟨_, rfl⟩
    have e1 : ownModes s (.own t :: .filled f :: rest) =
        modes s t m ++ ownModes (scan s t m) (.filled f :: rest) := by rw [em]; rfl
    have e2 : ownModes s (blanked w (.own t :: .filled f :: rest)) =
        modes s t n ++ ownModes (scan s t n) (blanked w (.filled f :: rest)) := by rw [en]; rfl
    have e3 : walk s (.own t :: .filled f :: rest) =
        (s, .own t, m) :: walk (scan s t m) (.filled f :: rest) := by rw [em]; rfl
    have hs' : SlotsInCode (scan s t n) (blanked w (.filled f :: rest)) := by
      rw [en]
      exact (List.forall_mem_cons.1 hs).2
    have hc : scan s t n = inside .code := (List.forall_mem_cons.1 hs').1 rfl
    obtain ⟨hm, hcode⟩ := modes_eq_iff (hp.ne_nil t List.mem_cons_self) hc m
    rw [e1, e2, e3, List.forall_mem_cons, ← hm, hc]
    rw [hc] at hs'
    have ih := ownModes_eq_iff hw hp.tail hs'
    constructor
    · intro e
      obtain ⟨h1, h2⟩ := List.append_inj e (by rw [length_modes, length_modes])
      rw [hcode (hm.1 h1)] at h2 ⊢
      exact ⟨h1, ih.1 h2⟩
    · rintro ⟨h1, h2⟩
      rw [hcode (hm.1 h1)] at h2 ⊢
      rw [h1, ih.2 h2]

end SqlTemplate.Lexical
