import Mathlib.Data.Prod.Lex
import Mathlib.Data.Set.List
import SqlTemplate.Proofs.Sorting.Agreement
import SqlTemplate.Proofs.Sorting.Ascending
import SqlTemplate.Proofs.Value.Comparison

/-!
# Values of one shape

Whole numbers, texts, and tuples of one fixed shape over these can be put in order. `Shape.Key` is
the linear order that they are put in: whole numbers by size, texts by code points, tuples by the
first place where they differ. Values of one shape are compared as their keys are
(`Shape.compares`), so that sorting them succeeds and, where they are distinct, puts them into
strictly ascending order (`Shape.sorted_ascending`). Sets are built from distinct items, and the
keys of mappings are distinct (`Value.distinct_distinct`, `Value.distinct_keyed`).

Whole numbers and texts together have no order. Sorting comes upon that wherever both occur
(`Shape.sorted_incomparable`), whichever of the items it compares.
-/

namespace SqlTemplate

/-! ## Shapes -/

/-- A shape that values may have: whole number, text, or tuple of parts of given shapes. -/
inductive Shape where
  | whole
  | text
  | tuple (parts : List Shape)

namespace Shape

mutual

/-- What the values of a shape are put in order by. -/
def Key : Shape → Type
  | whole => Int
  | text => Text
  | tuple parts => Keys parts

/-- What tuples are put in order by: their parts, those further in front first. -/
def Keys : List Shape → Type
  | [] => Unit
  | σ :: rest => σ.Key ×ₗ Keys rest

end

mutual

/-- The order of whole numbers by size, of texts by code points and of tuples by their parts. -/
@[reducible] def keyOrder : (σ : Shape) → LinearOrder σ.Key
  | whole => Int.instLinearOrder
  | text => (inferInstance : LinearOrder (List Char))
  | tuple parts => keysOrder parts

@[reducible] def keysOrder : (parts : List Shape) → LinearOrder (Keys parts)
  | [] => PUnit.instLinearOrder
  | σ :: rest => @Prod.Lex.instLinearOrder σ.Key (Keys rest) σ.keyOrder (keysOrder rest)

end

instance (σ : Shape) : LinearOrder σ.Key := σ.keyOrder

instance (parts : List Shape) : LinearOrder (Keys parts) := keysOrder parts

/-- The key of a tuple from those of its first part and of the others. -/
def consKey {σ : Shape} {rest : List Shape} (k : σ.Key) (ks : Keys rest) : Keys (σ :: rest) :=
  toLex (k, ks)

section

variable {σ : Shape} {rest : List Shape} {k l : σ.Key} {ks ls : Keys rest}

theorem consKey_lt : consKey k ks < consKey l ls ↔ k < l ∨ k = l ∧ ks < ls :=
  Prod.Lex.toLex_lt_toLex

theorem consKey_inj : consKey k ks = consKey l ls ↔ k = l ∧ ks = ls := Prod.mk_inj

end

mutual

/-- The key of a value, if the value is of the shape. -/
def key? : (σ : Shape) → Value → Option σ.Key
  | whole, v => v.whole?
  | text, v => v.text?
  | tuple parts, v => v.parts?.bind (keys? parts)

def keys? : (parts : List Shape) → List Value → Option (Keys parts)
  | [], [] => some ()
  | σ :: rest, v :: items => (σ.key? v).bind fun k => (keys? rest items).map (consKey k)
  | _, _ => none

end

mutual

/-- **Values of one shape are compared as their keys are**, and equal as these are. -/
theorem compares {v w : Value} : ∀ {σ : Shape} {k l : σ.Key}, σ.key? v = some k →
    σ.key? w = some l → v.less w = .ok (decide (k < l)) ∧ v.equal w = decide (k = l)
  | whole, _, _, hv, hw => ⟨Value.less_whole hv hw, Value.equal_whole hv hw⟩
  | text, _, _, hv, hw =>
    ⟨(Value.less_text hv hw).trans (congrArg _ (decide_eq_decide.2 Iff.rfl)),
      (Value.equal_text hv hw).trans (decide_eq_decide.2 Iff.rfl)⟩
  | tuple parts, k, l, hv, hw => by
    obtain ⟨xs, hxs, hks⟩ := Option.bind_eq_some_iff.1 hv
    obtain ⟨ys, hys, hls⟩ := Option.bind_eq_some_iff.1 hw
    rw [Value.less_tuple hxs hys, Value.equal_tuple hxs hys]
    exact compares_items hks hls

/-- Items of one shape compare as their keys do. -/
theorem compares_items : ∀ {parts : List Shape} {xs ys : List Value} {ks ls : Keys parts},
    keys? parts xs = some ks → keys? parts ys = some ls →
    Value.lessItems xs ys = .ok (decide (ks < ls)) ∧ Value.equalItems xs ys = decide (ks = ls)
  | [], [], [], ks, ls, _, _ => by
    obtain rfl : ks = ls := rfl
    simp [Value.lessItems, Value.equalItems]
  | σ :: rest, v :: xs, w :: ys, _, _, hx, hy => by
    obtain ⟨k, hk, hx⟩ := Option.bind_eq_some_iff.1 hx
    obtain ⟨ks, hks, rfl⟩ := Option.map_eq_some_iff.1 hx
    obtain ⟨l, hl, hy⟩ := Option.bind_eq_some_iff.1 hy
    obtain ⟨ls, hls, rfl⟩ := Option.map_eq_some_iff.1 hy
    obtain ⟨hless, hequal⟩ := compares hk hl
    obtain ⟨hlessItems, hequalItems⟩ := compares_items hks hls
    rw [Value.lessItems_cons, Value.equalItems_cons, hless, hequal, hlessItems, hequalItems]
    simp only [consKey_lt, consKey_inj, Bool.decide_and, and_true]
    by_cases he : k = l
    · simp [he]
    · simp [he]

end

/-- The value has the shape. -/
def Fits (σ : Shape) (v : Value) : Prop := (σ.key? v).isSome

/-- The first value stands strictly before the second in the order of the shape. -/
def Before (σ : Shape) (v w : Value) : Prop :=
  ∃ k l, σ.key? v = some k ∧ σ.key? w = some l ∧ k < l

/-- Of two values at most one comes before the other. -/
theorem Before.asymm {σ : Shape} {v w : Value} (h : σ.Before v w) : ¬ σ.Before w v := by
  rintro ⟨k', l', hk', hl', hlt'⟩
  obtain ⟨k, l, hk, hl, hlt⟩ := h
  obtain rfl : k = l' := Option.some.inj (hk.symm.trans hl')
  obtain rfl : l = k' := Option.some.inj (hl.symm.trans hk')
  exact lt_asymm hlt hlt'

theorem Before.equal_eq_false {σ : Shape} {v w : Value} (h : σ.Before v w) :
    w.equal v = false := by
  obtain ⟨k, l, hk, hl, hlt⟩ := h
  rw [(compares hl hk).2, decide_eq_false_iff_not]
  exact hlt.ne'

end Shape

/-! ## Distinct values -/

namespace Value

/-- No item equals an earlier one. -/
def Distinct (items : List Value) : Prop := items.Pairwise fun v w => w.equal v = false

/-- What sets are built from are distinct items: each is compared with all that have been kept. -/
theorem distinct_distinct (items : List Value) : Distinct (distinct items) := by
  suffices h : ∀ (rest kept : List Value), kept.Pairwise (fun v w => v.equal w = false) →
      Distinct (distinctFrom kept rest) from h items [] List.Pairwise.nil
  intro rest
  induction rest with
  | nil => exact fun kept h => List.pairwise_reverse.2 h
  | cons v rest ih =>
    intro kept h
    rw [distinctFrom]
    split
    · exact ih kept h
    · rename_i hv
      exact ih _ (List.pairwise_cons.2 ⟨by simpa using hv, h⟩)

theorem mem_of_mem_distinct {items : List Value} {x : Value} (h : x ∈ distinct items) :
    x ∈ items := by
  suffices hk : ∀ (rest kept : List Value), x ∈ distinctFrom kept rest → x ∈ kept ∨ x ∈ rest by
    rcases hk items [] h with h | h
    · cases h
    · exact h
  intro rest
  induction rest with
  | nil => exact fun kept h => .inl (List.mem_reverse.1 h)
  | cons v rest ih =>
    intro kept h
    rw [distinctFrom] at h
    rcases ih _ h with h | h
    · split at h
      · exact .inl h
      · rcases List.mem_cons.1 h with rfl | h
        · exact .inr List.mem_cons_self
        · exact .inl h
    · exact .inr (List.mem_cons_of_mem v h)

theorem mem_keys_put {key item x : Value} {entries : List (Value × Value)}
    (h : x ∈ (put key item entries).map Prod.fst) : x = key ∨ x ∈ entries.map Prod.fst := by
  induction entries with
  | nil => exact .inl (List.mem_singleton.1 h)
  | cons entry rest ih =>
    rw [put] at h
    split at h
    · exact .inr h
    · rcases List.mem_cons.1 h with rfl | h
      · exact .inr List.mem_cons_self
      · exact (ih h).imp_right (List.mem_cons_of_mem _)

/-- Putting an entry keeps the keys distinct. -/
theorem Distinct.put {key item : Value} {entries : List (Value × Value)}
    (h : Distinct (entries.map Prod.fst)) : Distinct ((put key item entries).map Prod.fst) := by
  induction entries with
  | nil => exact List.pairwise_singleton _ key
  | cons entry rest ih =>
    obtain ⟨hfirst, hrest⟩ := List.pairwise_cons.1 h
    rw [Value.put]
    split
    · exact h
    · rename_i hne
      refine List.pairwise_cons.2 ⟨fun x hx => ?_, ih hrest⟩
      rcases mem_keys_put hx with rfl | hx
      · simpa using hne
      · exact hfirst x hx

/-- The keys of a mapping are distinct. -/
theorem distinct_keyed (entries : List (Value × Value)) :
    Distinct ((keyed entries).map Prod.fst) := by
  suffices h : ∀ (rest kept : List (Value × Value)), Distinct (kept.map Prod.fst) →
      Distinct ((rest.foldl (fun kept entry => Value.put entry.1 entry.2 kept) kept).map Prod.fst)
    from h entries [] List.Pairwise.nil
  intro rest
  induction rest with
  | nil => exact fun kept h => h
  | cons entry rest ih => exact fun kept h => ih _ h.put

theorem mem_keys_of_mem_keyed {entries : List (Value × Value)} {x : Value}
    (h : x ∈ (keyed entries).map Prod.fst) : x ∈ entries.map Prod.fst := by
  suffices hk : ∀ (rest kept : List (Value × Value)),
      x ∈ (rest.foldl (fun kept entry => Value.put entry.1 entry.2 kept) kept).map Prod.fst →
        x ∈ kept.map Prod.fst ∨ x ∈ rest.map Prod.fst by
    rcases hk entries [] h with h | h
    · cases h
    · exact h
  intro rest
  induction rest with
  | nil => exact fun kept h => .inl h
  | cons entry rest ih =>
    intro kept h
    rcases ih _ h with h | h
    · rcases mem_keys_put h with rfl | h
      · exact .inr List.mem_cons_self
      · exact .inl h
    · exact .inr (List.mem_cons_of_mem _ h)

end Value

/-! ## Sorting -/

namespace Shape

variable {σ : Shape} {items : List Value}

theorem equal_comm {v w : Value} (hv : σ.Fits v) (hw : σ.Fits w) : v.equal w = w.equal v := by
  obtain ⟨k, hk⟩ := Option.isSome_iff_exists.1 hv
  obtain ⟨l, hl⟩ := Option.isSome_iff_exists.1 hw
  rw [(compares hk hl).2, (compares hl hk).2]
  exact decide_eq_decide.2 eq_comm

/-- Values of one shape that are distinct in one order are so in any other. -/
theorem distinct_perm {items' : List Value} (h : ∀ v ∈ items, σ.Fits v)
    (hd : Value.Distinct items) (hp : items'.Perm items) : Value.Distinct items' := by
  have hne : items.Pairwise fun v w => σ.Fits v → σ.Fits w → w.equal v = false :=
    hd.imp fun he _ _ => he
  have hne' := (hp.pairwise_iff fun {v w} he hw hv => equal_comm hv hw ▸ he hv hw).2 hne
  exact hne'.imp_of_mem fun hv hw he => he (h _ (hp.mem_iff.1 hv)) (h _ (hp.mem_iff.1 hw))

/-- **Distinct values of one shape are sorted** into strictly ascending order. -/
theorem sorted_ascending (h : ∀ v ∈ items, σ.Fits v) (hd : Value.Distinct items) :
    ∃ ordered, sorted Value.less items = .ok ordered ∧ ordered.Pairwise σ.Before := by
  -- With the values that have the shape as a type of their own, the keys are a function.
  have hσ := h
  lift items to List {v // σ.Fits v} using h with fits
  let key : {v // σ.Fits v} → σ.Key := fun v => (σ.key? v.1).get v.2
  have hkey : ∀ v, σ.key? v.1 = some (key v) := fun v => (Option.some_get v.2).symm
  have hless : ∀ v w : {v // σ.Fits v}, v.1.less w.1 = .ok (decide (key v < key w)) :=
    fun v w => (compares (hkey v) (hkey w)).1
  obtain ⟨ordered, hs, ha⟩ := sorted_of_key hless fits
  have hd' := distinct_perm hσ hd ((sorted_perm _ fits hs).map Subtype.val)
  refine ⟨ordered.map Subtype.val, ?_, ?_⟩
  · rw [sorted_map, hs]
    rfl
  · refine List.pairwise_map.2 ((ha.and (List.pairwise_map.1 hd')).imp fun {v w} hvw => ?_)
    obtain ⟨hle, he⟩ := hvw
    rw [(compares (hkey w) (hkey v)).2, decide_eq_false_iff_not] at he
    exact ⟨key v, key w, hkey v, hkey w, lt_of_le_of_ne hle (Ne.symm he)⟩

/-- Strictly ascending order leaves nothing open. -/
theorem ascending_unique {ordered ordered' : List Value} (h : ordered.Pairwise σ.Before)
    (h' : ordered'.Pairwise σ.Before) (hp : ordered.Perm ordered') : ordered = ordered' :=
  hp.eq_of_pairwise (fun _ _ _ _ hb hb' => absurd hb' hb.asymm) h h'

theorem not_whole_of_text {v : Value} (h : text.Fits v) : ¬ whole.Fits v := by
  obtain ⟨s, hs⟩ := Option.isSome_iff_exists.1 h
  have hw : v.whole? = none := by
    rw [Value.whole?, Value.text?_eq_some hs]
  intro hn
  rw [Fits, key?, hw] at hn
  cases hn

/-- Of whole numbers and texts, two of one shape have an order, and two of different shapes have
none. -/
theorem less_whole_or_text {v w : Value} (hv : whole.Fits v ∨ text.Fits v)
    (hw : whole.Fits w ∨ text.Fits w) :
    (∃ b, v.less w = .ok b) ∧ (whole.Fits v ↔ whole.Fits w) ∨
      v.less w = .error .incomparable := by
  rcases hv with hv | hv
  · obtain ⟨m, hm⟩ := Option.isSome_iff_exists.1 hv
    rcases hw with hw | hw
    · obtain ⟨n, hn⟩ := Option.isSome_iff_exists.1 hw
      exact .inl ⟨⟨_, Value.less_whole hm hn⟩, iff_of_true hv hw⟩
    · obtain ⟨t, ht⟩ := Option.isSome_iff_exists.1 hw
      exact .inr (Value.less_whole_text hm ht)
  · obtain ⟨s, hs⟩ := Option.isSome_iff_exists.1 hv
    rcases hw with hw | hw
    · obtain ⟨n, hn⟩ := Option.isSome_iff_exists.1 hw
      exact .inr (Value.less_text_whole hs hn)
    · obtain ⟨t, ht⟩ := Option.isSome_iff_exists.1 hw
      exact .inl ⟨⟨_, Value.less_text hs ht⟩,
        iff_of_false (not_whole_of_text hv) (not_whole_of_text hw)⟩

/-- **Whole numbers and texts together cannot be sorted**, whichever of them are compared. -/
theorem sorted_incomparable (h : ∀ v ∈ items, whole.Fits v ∨ text.Fits v)
    (hn : ∃ v ∈ items, whole.Fits v) (ht : ∃ v ∈ items, text.Fits v) :
    sorted Value.less items = .error .incomparable := by
  obtain ⟨v, hv, hn⟩ := hn
  obtain ⟨w, hw, ht⟩ := ht
  cases hs : sorted Value.less items with
  | ok ordered =>
    -- Sorting has succeeded, so that all items are whole numbers or all are not.
    lift items to List {v // whole.Fits v ∨ text.Fits v} using h
    obtain ⟨v, hv', rfl⟩ := List.mem_map.1 hv
    obtain ⟨w, hw', rfl⟩ := List.mem_map.1 hw
    rw [sorted_map] at hs
    have hcls : ∀ a b : {v // whole.Fits v ∨ text.Fits v}, ∀ r, a.1.less b.1 = .ok r →
        whole.Fits a.1 = whole.Fits b.1 := by
      intro a b r hr
      rcases less_whole_or_text a.2 b.2 with ⟨-, hab⟩ | he
      · exact propext hab
      · rw [he] at hr
        cases hr
    cases hs' : sorted (fun a b : {v // whole.Fits v ∨ text.Fits v} => a.1.less b.1) items with
    | ok ordered' =>
      have hu := Uniform.of_sorted hcls hs' v hv' w hw'
      exact absurd (hu.mp hn) (not_whole_of_text ht)
    | error e =>
      rw [hs'] at hs
      cases hs
  | error e =>
    -- Sorting has failed where two of the items have no order, and no other failure is possible.
    obtain ⟨a, ha, b, hb, he⟩ := sorted_error _ items hs
    rcases less_whole_or_text (h a ha) (h b hb) with ⟨⟨r, hr⟩, -⟩ | hi
    · rw [hr] at he
      cases he
    · rw [hi] at he
      rw [Except.error.inj he]

end Shape

end SqlTemplate
