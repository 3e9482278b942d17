import SqlTemplate.Entity

/-!
# Changing and comparing configurations

A configuration is determined by what its fields hold (`QueryConfig.ext_get?`), and every change of
one is a change of these. A copy holds the new values in the changed fields and the old ones in the
others, or the first name that is no field is refused (`QueryConfig.update_eq_ok_iff`,
`QueryConfig.update_eq_error_iff`); changes can be made one after another as well as at once
(`QueryConfig.update_append`).

Configurations are equal when what their fields hold is (`QueryConfig.equal_iff`), so a copy whose
changes are to equal values equals the original (`QueryConfig.equal_replace`).
-/

namespace SqlTemplate

namespace QueryConfig

/-! ## Fields -/

/-- The names of the fields. -/
def fieldNames : List Text := [outputFormatName, logFailuresName]

theorem logFailuresName_ne : logFailuresName ≠ outputFormatName := by decide

variable {c d : QueryConfig} {name : Text} {v : Value}

/-- Exactly the fields can be set. -/
theorem set?_isSome_iff : (c.set? name v).isSome ↔ name ∈ fieldNames := by
  unfold set? fieldNames
  split
  · simp [*]
  split
  · simp [*]
  · simp [*]

/-- A change changes one field and leaves the other. -/
theorem get?_of_set? (h : c.set? name v = some d) (other : Text) :
    d.get? other = if other = name then some v else c.get? other := by
  unfold set? at h
  split at h
  · rename_i hn
    cases h
    subst hn
    unfold get?
    split <;> rfl
  split at h
  · rename_i hn
    cases h
    subst hn
    unfold get?
    split
    · rename_i ho
      rw [if_neg (ho ▸ logFailuresName_ne.symm)]
    · split <;> rfl
  · cases h

/-- An assignment that succeeds is seen by the next access, and by none to the other field. -/
theorem get_of_set (h : c.set name v = .ok d) (other : Text) :
    d.get other = if other = name then .ok v else c.get other := by
  unfold set at h
  cases hs : c.set? name v with
  | none =>
    rw [hs] at h
    cases h
  | some e =>
    rw [hs] at h
    cases h
    rw [get, get?_of_set? hs]
    by_cases ho : other = name
    · rw [if_pos ho, if_pos ho]
    · rw [if_neg ho, if_neg ho, get]

/-- What the fields hold determines a configuration. -/
theorem ext_get? (h : ∀ name, c.get? name = d.get? name) : c = d := by
  have hf := h outputFormatName
  have hl := h logFailuresName
  simp only [get?, if_pos, if_neg logFailuresName_ne, Option.some.injEq] at hf hl
  cases c
  cases d
  simp_all

theorem mem_fieldNames_of_get? (h : c.get? name = some v) : name ∈ fieldNames := by
  unfold get? at h
  unfold fieldNames
  split at h
  · simp [*]
  split at h
  · simp [*]
  · cases h

/-! ## Changes one after another -/

variable {refuse : Text → ConfigFault} {changes : List (Text × Value)} {fault : ConfigFault}

theorem update_cons (name : Text) (v : Value) (rest : List (Text × Value)) :
    c.update refuse ((name, v) :: rest) =
      match c.set? name v with
      | some d => d.update refuse rest
      | none => .error (refuse name) := rfl

/-- **Changes at once are changes one after another.** -/
theorem update_append (c : QueryConfig) (first second : List (Text × Value)) :
    c.update refuse (first ++ second) =
      (c.update refuse first).bind fun d => d.update refuse second := by
  induction first generalizing c with
  | nil => rfl
  | cons change rest ih =>
    obtain ⟨name, v⟩ := change
    rw [List.cons_append, update_cons, update_cons]
    cases c.set? name v with
    | none => rfl
    | some d => exact ih d

/-- Changes of fields succeed. -/
theorem exists_update (h : ∀ change ∈ changes, change.1 ∈ fieldNames) :
    ∃ d, c.update refuse changes = .ok d := by
  induction changes generalizing c with
  | nil => exact ⟨c, rfl⟩
  | cons change rest ih =>
    obtain ⟨hn, hr⟩ := List.forall_mem_cons.1 h
    obtain ⟨d, hd⟩ := Option.isSome_iff_exists.1 (set?_isSome_iff (c := c) (v := change.2) |>.2 hn)
    rw [update_cons change.1 change.2, hd]
    exact ih hr

/-- The last change of a field counts, and an unchanged field keeps what it holds. -/
theorem get?_of_update (h : c.update refuse changes = .ok d) (name : Text) :
    d.get? name = (changes.reverse.lookup name).or (c.get? name) := by
  induction changes generalizing c with
  | nil =>
    cases h
    rfl
  | cons change rest ih =>
    obtain ⟨changed, v⟩ := change
    rw [update_cons] at h
    cases hs : c.set? changed v with
    | none =>
      rw [hs] at h
      cases h
    | some e =>
      rw [hs] at h
      rw [ih h, get?_of_set? hs, List.reverse_cons, List.lookup_append, Option.or_assoc]
      congr 1
      by_cases hn : name = changed
      · simp [hn]
      · have hb : (name == changed) = false := beq_eq_false_iff_ne.2 hn
        simp [List.lookup_cons, hb, hn]

/-- Changes that succeed are of fields. -/
theorem names_of_update (h : c.update refuse changes = .ok d) :
    ∀ change ∈ changes, change.1 ∈ fieldNames := by
  induction changes generalizing c with
  | nil => simp
  | cons change rest ih =>
    rw [update_cons change.1 change.2] at h
    cases hs : c.set? change.1 change.2 with
    | none =>
      rw [hs] at h
      cases h
    | some e =>
      rw [hs] at h
      exact List.forall_mem_cons.2 ⟨set?_isSome_iff.1 (Option.isSome_of_eq_some hs), ih h⟩

/-- **What a changed copy holds**: there is one exactly if all names are fields, and it differs from
the original in the changes. -/
theorem update_eq_ok_iff :
    c.update refuse changes = .ok d ↔
      (∀ change ∈ changes, change.1 ∈ fieldNames) ∧
        ∀ name, d.get? name = (changes.reverse.lookup name).or (c.get? name) := by
  constructor
  · exact fun h => ⟨names_of_update h, get?_of_update h⟩
  · rintro ⟨hn, hd⟩
    obtain ⟨e, he⟩ : ∃ e, c.update refuse changes = .ok e := exists_update hn
    rw [he, ext_get? fun name => (get?_of_update he name).trans (hd name).symm]

/-- **The first name that is no field is refused**, whatever is changed before it. -/
theorem update_eq_error_iff :
    c.update refuse changes = .error fault ↔
      ∃ before name v after, changes = before ++ (name, v) :: after ∧
        (∀ change ∈ before, change.1 ∈ fieldNames) ∧ name ∉ fieldNames ∧ fault = refuse name := by
  constructor
  · intro h
    induction changes generalizing c with
    | nil => cases h
    | cons change rest ih =>
      obtain ⟨name, v⟩ := change
      rw [update_cons] at h
      cases hs : c.set? name v with
      | none =>
        rw [hs] at h
        cases h
        have hn : name ∉ fieldNames := by
          rw [← set?_isSome_iff (c := c) (v := v), hs]
          exact Bool.false_ne_true
        exact ⟨[], name, v, rest, rfl, by simp, hn, rfl⟩
      | some d =>
        rw [hs] at h
        obtain ⟨before, refused, w, after, rfl, hb, hn, rfl⟩ := ih h
        have hf : name ∈ fieldNames := set?_isSome_iff.1 (Option.isSome_of_eq_some hs)
        exact ⟨(name, v) :: before, refused, w, after, rfl,
          List.forall_mem_cons.2 ⟨hf, hb⟩, hn, rfl⟩
  · rintro ⟨before, name, v, after, rfl, hb, hn, rfl⟩
    obtain ⟨d, hd⟩ : ∃ d, c.update refuse before = .ok d := exists_update hb
    have hs : d.set? name v = none := by
      rw [← Option.not_isSome_iff_eq_none, set?_isSome_iff]
      exact hn
    rw [update_append, hd]
    change d.update refuse ((name, v) :: after) = _
    rw [update_cons, hs]

/-! ## Copies -/

/-- **A copy** is made exactly if all names are fields. The name of the configuration itself is
none, so naming it leads to no copy either. -/
theorem replace_eq_ok_iff :
    c.replace changes = .ok d ↔
      (∀ change ∈ changes, change.1 ∈ fieldNames) ∧
        ∀ name, d.get? name = (changes.reverse.lookup name).or (c.get? name) := by
  refine Iff.trans ?_ (update_eq_ok_iff : c.update .notAField changes = .ok d ↔ _)
  unfold replace
  split
  · rename_i h
    obtain ⟨change, hc, hn⟩ := List.any_eq_true.1 h
    have hs : selfName ∉ fieldNames := by decide
    constructor
    · intro h
      cases h
    · intro h
      exact absurd (beq_iff_eq.1 hn ▸ names_of_update h change hc) hs
  · exact Iff.rfl

/-- A configuration that is made of fields is a copy of the default one with these changed. -/
theorem ofFields_eq_ok_iff : ofFields changes = .ok d ↔ default.replace changes = .ok d := by
  rw [replace_eq_ok_iff, ofFields, update_eq_ok_iff]

/-! ## Equal configurations -/

/-- **Configurations are equal when what their fields hold is.** -/
theorem equal_iff :
    c.equal d = true ↔
      ∀ name v w, c.get? name = some v → d.get? name = some w → v.equal w = true := by
  unfold equal
  rw [Bool.and_eq_true]
  constructor
  · rintro ⟨hf, hl⟩ name v w hv hw
    have hn := mem_fieldNames_of_get? hv
    simp only [fieldNames, List.mem_cons, List.not_mem_nil, or_false] at hn
    rcases hn with rfl | rfl
    · cases hv
      cases hw
      exact hf
    · cases hv
      cases hw
      exact hl
  · intro h
    exact ⟨h outputFormatName _ _ rfl rfl, h logFailuresName _ _ rfl rfl⟩

/-- A copy is equal to an original that equals itself if every change is to an equal value. -/
theorem equal_replace (hc : c.equal c = true) (h : c.replace changes = .ok d)
    (he : ∀ change ∈ changes, ∀ v, c.get? change.1 = some v → v.equal change.2 = true) :
    c.equal d = true := by
  rw [equal_iff] at hc ⊢
  intro name v w hv hw
  rw [(replace_eq_ok_iff.1 h).2 name] at hw
  cases hl : changes.reverse.lookup name with
  | none =>
    rw [hl] at hw
    exact hc name v w hv hw
  | some changed =>
    rw [hl] at hw
    obtain rfl : changed = w := Option.some.inj hw
    obtain ⟨before, after, hr, -⟩ := List.lookup_eq_some_iff.1 hl
    have hm : (name, changed) ∈ changes := by
      rw [← List.mem_reverse, hr]
      exact List.mem_append_right _ List.mem_cons_self
    exact he (name, changed) hm v hv

end QueryConfig

namespace Entity

/-- **Only entities of one sort are equal**: segments that are the same, and configurations and
values that are equal as such. -/
theorem equal_cases {a b : Entity} (h : a.equal b = true) :
    (∃ s, a = segment s ∧ b = segment s) ∨
      (∃ c d, a = config c ∧ b = config d ∧ c.equal d = true) ∨
      ∃ v w, a = value v ∧ b = value w ∧ v.equal w = true := by
  cases a with
  | segment s =>
    cases b with
    | segment t =>
      obtain rfl : s = t := beq_iff_eq.1 h
      exact .inl ⟨s, rfl, rfl⟩
    | _ => cases h
  | config c =>
    cases b with
    | config d => exact .inr (.inl ⟨c, d, rfl, rfl, h⟩)
    | _ => cases h
  | value v =>
    cases b with
    | value w => exact .inr (.inr ⟨v, w, rfl, rfl, h⟩)
    | _ => cases h

end Entity

end SqlTemplate
