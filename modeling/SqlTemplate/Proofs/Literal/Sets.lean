import SqlTemplate.Proofs.Literal.RoundTrip
import SqlTemplate.Proofs.Value.Shape

/-!
# Containers of distinct items

A container of distinct items is written as the array of its items, in the order in which sorting
puts them or, where some of them cannot be compared, as they are iterated (`setLiteral_write`).
Either way each item is written once. Distinct items of one shape (`Shape`) are written in ascending
order, in whatever order they are iterated; whole numbers and texts together are written as they are
iterated.
-/

namespace SqlTemplate

namespace Value

/-- The value is a container of the given distinct items, of a predefined kind or of a class that is
written as one of these is. -/
inductive IsSetOf (items : List Value) : Value → Prop
  | predefined (kind : SetKind) : IsSetOf items (set kind items)
  | derived (kind : SetKind) {cls : Class} {payload : Value} :
      cls.isWrittenBy .set = true → IsSetOf items (object cls (set kind items) payload)
  | member (kind : SetKind) {cls : Class} {value : Value} :
      cls.isWrittenBy .set = true → IsSetOf items (mixed cls (set kind items) value)

end Value

section

variable {setting : Setting}

/-- What is written for a container of distinct items, from its items. -/
theorem setLiteral_write (items : List Value) :
    setLiteral (items.zip (writeItems setting items)) =
      match sorted Value.less items with
      | .ok ordered => arrayLiteral (ordered.map (write setting))
      | .error .incomparable => arrayLiteral (items.map (write setting))
      | .error .noOrder => .fault .noOrder := by
  have hs := sorted_map (fun a b : Value × Written => a.1.less b.1) (fun v => (v, write setting v))
    items
  rw [Value.writeItems_eq_map, ← List.map_prod_left_eq_zip, setLiteral, hs]
  cases sorted Value.less items with
  | ok ordered => simp [Except.map, List.map_map, Function.comp_def]
  | error e => cases e <;> simp [Except.map, List.map_map, Function.comp_def]

theorem dispatcher_find_set (kind : SetKind) :
    Writer.dispatcher.find kind.cls = some (.standard .set) ∨
      Writer.dispatcher.find kind.cls = none := by
  cases kind with
  | set => exact .inl rfl
  | frozenSet => exact .inl rfl
  | keys => exact .inr rfl
  | items => exact .inr rfl

/-- Whatever is a set of items is written as one. -/
theorem write_isSetOf (hs : setting.find = Writer.dispatcher.find) {v : Value} {items : List Value}
    (hv : v.IsSetOf items) :
    write setting v = setLiteral (items.zip (writeItems setting items)) := by
  cases hv with
  | predefined kind =>
    rw [write, Setting.deliver, hs]
    rcases dispatcher_find_set kind with hf | hf
    · rw [hf]
      rfl
    · rw [hf]
      rfl
  | derived kind hc =>
    rw [write, Setting.deliver, hs, Class.isWrittenBy_iff.1 hc]
    rfl
  | member kind hc =>
    rw [write, Setting.deliver, hs, Class.isWrittenBy_iff.1 hc]
    rfl

end

namespace Value

section

variable {v : Value} {items : List Value}

/-- A set is written in order, or as it is iterated where its items have none. -/
theorem writeLiteral_eq_setLiteral (hv : v.IsSetOf items) :
    writeLiteral Writer.dispatcher v =
      match sorted Value.less items with
      | .ok ordered => arrayLiteral (ordered.map (writeLiteral Writer.dispatcher))
      | .error .incomparable => arrayLiteral (items.map (writeLiteral Writer.dispatcher))
      | .error .noOrder => .fault .noOrder := by
  have hs : (Setting.nested Writer.dispatcher depthLimit).find = Writer.dispatcher.find := rfl
  exact (write_isSetOf hs hv).trans (setLiteral_write items)

/-- Sorted or not, each item is written once. -/
theorem writeLiteral_eq_array (hv : v.IsSetOf items) {t : Text}
    (ht : writeLiteral Writer.dispatcher v = .ok t) :
    ∃ ordered : List Value, ordered.Perm items ∧
      arrayLiteral (ordered.map (writeLiteral Writer.dispatcher)) = .ok t := by
  rw [writeLiteral_eq_setLiteral hv] at ht
  cases hs : sorted Value.less items with
  | ok ordered =>
    rw [hs] at ht
    exact ⟨ordered, sorted_perm _ items hs, ht⟩
  | error e =>
    rw [hs] at ht
    cases e with
    | incomparable => exact ⟨items, .refl items, ht⟩
    | noOrder => exact absurd ht (Written.fault_ne_ok _ t)

/-- Distinct items of one shape are written in ascending order. -/
theorem writeLiteral_ascending {σ : Shape} (hσ : ∀ x ∈ items, σ.Fits x) (hd : Distinct items) :
    ∃ ordered : List Value, ordered.Perm items ∧ ordered.Pairwise σ.Before ∧
      ∀ w : Value, w.IsSetOf items → writeLiteral Writer.dispatcher w =
        arrayLiteral (ordered.map (writeLiteral Writer.dispatcher)) := by
  obtain ⟨ordered, hs, ha⟩ := Shape.sorted_ascending hσ hd
  refine ⟨ordered, sorted_perm _ items hs, ha, fun w hw => ?_⟩
  rw [writeLiteral_eq_setLiteral hw, hs]

end

/-- A set that is built from values of one shape, in whatever order and however often they are put
in, is written in strictly ascending order. -/
theorem writeLiteral_distinct {σ : Shape} {items : List Value} (hσ : ∀ x ∈ items, σ.Fits x)
    (kind : SetKind) : ∃ ordered : List Value, ordered.Perm (distinct items) ∧
      ordered.Pairwise σ.Before ∧ writeLiteral Writer.dispatcher (set kind (distinct items)) =
        arrayLiteral (ordered.map (writeLiteral Writer.dispatcher)) := by
  have hd : ∀ x ∈ distinct items, σ.Fits x := fun x hx => hσ x (mem_of_mem_distinct hx)
  obtain ⟨ordered, hp, ha, hw⟩ := writeLiteral_ascending hd (distinct_distinct items)
  exact ⟨ordered, hp, ha, hw _ (.predefined kind)⟩

/-- The keys of a mapping, if they are of one shape, are written in strictly ascending order, which
need not be that of the mapping. -/
theorem writeLiteral_keys {σ : Shape} {entries : List (Value × Value)}
    (hσ : ∀ x ∈ entries.map Prod.fst, σ.Fits x) :
    ∃ ordered : List Value, ordered.Perm ((keyed entries).map Prod.fst) ∧
      ordered.Pairwise σ.Before ∧
      writeLiteral Writer.dispatcher (set .keys ((keyed entries).map Prod.fst)) =
        arrayLiteral (ordered.map (writeLiteral Writer.dispatcher)) := by
  have hd : ∀ x ∈ (keyed entries).map Prod.fst, σ.Fits x :=
    fun x hx => hσ x (mem_keys_of_mem_keyed hx)
  obtain ⟨ordered, hp, ha, hw⟩ := writeLiteral_ascending hd (distinct_keyed entries)
  exact ⟨ordered, hp, ha, hw _ (.predefined .keys)⟩

/-- **The array written for a container of distinct items.** Each item is written once. Distinct
items of one shape are in strictly ascending order, in whatever order the container is iterated; and
whole numbers and texts together are as they are iterated. -/
theorem writeLiteral_isSetOf {v : Value} {items : List Value} (hv : v.IsSetOf items) :
    (∀ t, writeLiteral Writer.dispatcher v = .ok t → ∃ (ordered : List Value) (ts : List Text),
      ordered.Perm items ∧ ordered.map (writeLiteral Writer.dispatcher) = ts.map .ok ∧
      t = ['['] ++ Text.commaJoined ts ++ [']']) ∧
    (∀ σ : Shape, (∀ x ∈ items, σ.Fits x) → Distinct items →
      ∃ ordered : List Value, ordered.Perm items ∧ ordered.Pairwise σ.Before ∧
        ∀ (w : Value) (items' : List Value), w.IsSetOf items' → items'.Perm items →
          writeLiteral Writer.dispatcher w =
            arrayLiteral (ordered.map (writeLiteral Writer.dispatcher))) ∧
    ((∀ x ∈ items, Shape.whole.Fits x ∨ Shape.text.Fits x) → (∃ x ∈ items, Shape.whole.Fits x) →
      (∃ x ∈ items, Shape.text.Fits x) →
      writeLiteral Writer.dispatcher v =
        arrayLiteral (items.map (writeLiteral Writer.dispatcher))) := by
  refine ⟨fun t ht => ?_, fun σ hσ hd => ?_, fun h hn hs => ?_⟩
  · obtain ⟨ordered, hp, hw⟩ := writeLiteral_eq_array hv ht
    obtain ⟨ts, hts, rfl⟩ := Written.bracketed_eq_ok hw
    exact ⟨ordered, ts, hp, hts, rfl⟩
  · obtain ⟨ordered, hp, ha, -⟩ := writeLiteral_ascending hσ hd
    refine ⟨ordered, hp, ha, fun w items' hw hp' => ?_⟩
    have hσ' : ∀ x ∈ items', σ.Fits x := fun x hx => hσ x (hp'.mem_iff.1 hx)
    obtain ⟨ordered', hq, ha', hw'⟩ := writeLiteral_ascending hσ' (Shape.distinct_perm hσ hd hp')
    rw [hw' w hw, Shape.ascending_unique ha' ha (hq.trans (hp'.trans hp.symm))]
  · rw [writeLiteral_eq_setLiteral hv, Shape.sorted_incomparable h hn hs]

/-- Pairs of a number and a text, iterated in two orders, and numbers around a text. -/
theorem writeLiteral_isSetOf_pairs :
    let pair (n : Int) (c : Char) : Value := tuple [int n, text [c]]
    let written := Written.ok "[(1,'a'),(1,'b'),(2,'a')]".toList
    writeLiteral Writer.dispatcher (set .frozenSet [pair 2 'a', pair 1 'b', pair 1 'a']) = written ∧
    writeLiteral Writer.dispatcher (set .keys [pair 1 'b', pair 1 'a', pair 2 'a']) = written ∧
    writeLiteral Writer.dispatcher (set .set [int 2, text ['a'], int 1]) =
      .ok "[2,'a',1]".toList := by
  intro pair written
  let σ := Shape.tuple [.whole, .text]
  let ascending := [pair 1 'a', pair 1 'b', pair 2 'a']
  have hbefore : ∀ (m n : Int) (c d : Char), m < n ∨ m = n ∧ [c] < [d] →
      σ.Before (pair m c) (pair n d) := by
    intro m n c d h
    refine ⟨_, _, rfl, rfl, Shape.consKey_lt.2 (h.imp id fun h => ⟨h.1, ?_⟩)⟩
    exact Shape.consKey_lt.2 (.inl h.2)
  have ha : ascending.Pairwise σ.Before := by
    refine List.pairwise_cons.2 ⟨fun x hx => ?_, List.pairwise_pair.2 ?_⟩
    · rcases List.mem_pair.1 hx with rfl | rfl
      · exact hbefore _ _ _ _ (.inr ⟨rfl, by decide⟩)
      · exact hbefore _ _ _ _ (.inl (by decide))
    · exact hbefore _ _ _ _ (.inl (by decide))
  have hfits : ∀ m c, σ.Fits (pair m c) := fun _ _ => rfl
  have hσ : ∀ x ∈ ascending, σ.Fits x := by simp [ascending, hfits]
  have hd : Distinct ascending := ha.imp Shape.Before.equal_eq_false
  have hset : (set .set ascending).IsSetOf ascending := .predefined .set
  obtain ⟨ordered, ho, ha', hw⟩ := (writeLiteral_isSetOf hset).2.1 σ hσ hd
  obtain rfl := Shape.ascending_unique ha' ha ho
  have hp : [pair 1 'b', pair 1 'a', pair 2 'a'].Perm ascending := .swap _ _ _
  refine ⟨hw _ _ (.predefined _) (List.reverse_perm ascending),
    hw _ _ (.predefined _) hp, ?_⟩
  have hmixed : (set .set [int 2, text ['a'], int 1]).IsSetOf [int 2, text ['a'], int 1] :=
    .predefined .set
  refine (writeLiteral_isSetOf hmixed).2.2 (fun x hx => ?_) ⟨int 2, by simp, rfl⟩
    ⟨text ['a'], by simp, rfl⟩
  simp only [List.mem_cons, List.not_mem_nil, or_false] at hx
  rcases hx with rfl | rfl | rfl
  · exact .inl rfl
  · exact .inr rfl
  · exact .inl rfl

end Value

end SqlTemplate
