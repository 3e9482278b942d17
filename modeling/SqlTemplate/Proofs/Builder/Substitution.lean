import SqlTemplate.Builder

/-!
# Substitution at once

What a builder comes to, told without a builder. Each call on a builder offers something
(`Offer`): an argument as far as it could be written, what a look-up of columns gave, or an output
format. From the segments of a template and all that is offered, `Template.statement` makes the
statement at once: the first offer that cannot be taken is reported, else the first slot that is
left, and else the slots are replaced by what was offered for them.

`Template.filled` is what stands between: the segments with some of their slots filled. Filling one
more slot of them is filling the segments with one more offer.
-/

namespace SqlTemplate

/-- What a call on a builder offers. -/
inductive Offer where
  | argument (written : Except Fault Text)
  | columns (found : Except RowFault (Option Text))
  | format (format? : Option Text)

namespace Offer

def argument? : Offer → Option Text
  | argument (.ok text) => some text
  | _ => none

def columns? : Offer → Option Text
  | columns (.ok columns?) => columns?
  | _ => none

/-- The output format that is asked for, or that there be none. -/
def format? : Offer → Option (Option Text)
  | format format? => some format?
  | _ => none

def arguments (offers : List Offer) : List Text := offers.filterMap argument?

def firstColumns? (offers : List Offer) : Option Text := offers.findSome? columns?

def lastFormat? (offers : List Offer) : Option Text :=
  (offers.filterMap format?).getLast?.join

end Offer

namespace Template

open Segment (literal argument fields)
open Builder (surplusReason argumentReason columnsReason unboundArgumentReason
  unboundFieldsReason invalid failureMessage)

/-- Why something cannot be offered for the slots of the segments after what was offered before. An
argument whose fault has no message to tell is no failure: it is as if it had not been offered. -/
def failure? (segments : List Segment) (before : List Offer) : Offer → Option Text
  | .argument written =>
    if segments.count argument ≤ (Offer.arguments before).length then some surplusReason
    else match written with
      | .error fault => fault.message.toOption.map (argumentReason fault)
      | .ok _ => none
  | .columns (.ok none) =>
    if segments.contains fields && (Offer.firstColumns? before).isNone then some columnsReason
    else none
  | _ => none

/-- Why the first of the offers that cannot be taken cannot. -/
def firstFailure? (segments : List Segment) (before : List Offer) : List Offer → Option Text
  | [] => none
  | offer :: rest =>
    (failure? segments before offer).or (firstFailure? segments (before ++ [offer]) rest)

/-- The segments put together, each slot replaced by the next argument or by the columns, or why the
first slot left is no statement. -/
def substituted : List Segment → List Text → Option Text → Except Text Text
  | [], _, _ => .ok []
  | literal text :: rest, arguments, columns? =>
    (substituted rest arguments columns?).map (text ++ ·)
  | argument :: _, [], _ => .error unboundArgumentReason
  | argument :: rest, text :: arguments, columns? =>
    (substituted rest arguments columns?).map (text ++ ·)
  | fields :: _, _, none => .error unboundFieldsReason
  | fields :: rest, arguments, some text =>
    (substituted rest arguments (some text)).map (text ++ ·)

/-- The statement made of the segments and all that is offered, or the failure. -/
def statement (segments : List Segment) (offers : List Offer) : Except Failure Text :=
  match firstFailure? segments [] offers with
  | some reason => .error (invalid (failureMessage reason))
  | none =>
    match substituted segments (Offer.arguments offers) (Offer.firstColumns? offers) with
    | .error reason => .error (invalid (failureMessage reason))
    | .ok text => .ok (text ++ BuilderState.formatClause (Offer.lastFormat? offers))

/-- A statement is the substituted text with the clause of the last format. -/
theorem statement_eq_ok {segments : List Segment} {offers : List Offer} {sql : Text}
    (h : statement segments offers = .ok sql) :
    ∃ text, substituted segments (Offer.arguments offers) (Offer.firstColumns? offers) = .ok text ∧
      sql = text ++ BuilderState.formatClause (Offer.lastFormat? offers) := by
  unfold statement at h
  split at h
  · cases h
  · split at h
    · cases h
    · rename_i text ht
      exact ⟨text, ht, (Except.ok.inj h).symm⟩

/-! ## Filled segments -/

/-- The segments with their first slots for arguments filled, and the slots for columns too, if
there are columns. -/
def filled : List Segment → List Text → Option Text → List Segment
  | [], _, _ => []
  | literal text :: rest, arguments, columns? => literal text :: filled rest arguments columns?
  | argument :: rest, [], columns? => argument :: filled rest [] columns?
  | argument :: rest, text :: arguments, columns? => literal text :: filled rest arguments columns?
  | fields :: rest, arguments, columns? =>
    columns?.elim fields literal :: filled rest arguments columns?

/-- With nothing bound the segments stay as they are. -/
theorem filled_none (segments : List Segment) : filled segments [] none = segments := by
  induction segments with
  | nil => rfl
  | cons s rest ih => cases s <;> simp [filled, ih]

/-- A slot for an argument is left exactly if there are fewer arguments than slots. -/
theorem contains_argument_filled (segments : List Segment) (arguments : List Text)
    (columns? : Option Text) : (filled segments arguments columns?).contains argument =
      decide (arguments.length < segments.count argument) := by
  fun_induction filled segments arguments columns? with
  | case1 => simp
  | case2 text rest arguments columns? ih =>
    rw [List.contains_cons, ih, List.count_cons_of_ne (by simp)]
    simp
  | case3 => simp
  | case4 rest text arguments columns? ih =>
    rw [List.contains_cons, ih, List.count_cons_self, List.length_cons]
    simp
  | case5 rest arguments columns? ih =>
    rw [List.contains_cons, ih, List.count_cons_of_ne (by simp)]
    cases columns? <;> simp

/-- A slot for columns is left exactly if there is one and no columns were bound. -/
theorem contains_fields_filled (segments : List Segment) (arguments : List Text)
    (columns? : Option Text) : (filled segments arguments columns?).contains fields =
      (segments.contains fields && columns?.isNone) := by
  fun_induction filled segments arguments columns? with
  | case1 => rfl
  | case2 text rest arguments columns? ih => simpa using ih
  | case3 rest columns? ih => simpa using ih
  | case4 rest text arguments columns? ih => simpa using ih
  | case5 rest arguments columns? ih =>
    rw [List.contains_cons, ih]
    cases columns? <;> simp

/-- Filling the next slot is filling the segments with one more argument. -/
theorem fillArgument?_filled (text : Text) {segments : List Segment} {arguments : List Text}
    {columns? : Option Text} (h : arguments.length < segments.count argument) :
    Builder.fillArgument? text (filled segments arguments columns?) =
      some (filled segments (arguments ++ [text]) columns?) := by
  fun_induction filled segments arguments columns? with
  | case1 => simp at h
  | case2 t rest arguments columns? ih =>
    rw [List.count_cons_of_ne (by simp)] at h
    simp [Builder.fillArgument?, filled, ih h]
  | case3 => rfl
  | case4 rest t arguments columns? ih =>
    rw [List.count_cons_self, List.length_cons] at h
    simp [Builder.fillArgument?, filled, ih (by omega)]
  | case5 rest arguments columns? ih =>
    rw [List.count_cons_of_ne (by simp)] at h
    cases columns? <;> simp [Builder.fillArgument?, filled, ih h]

/-- Only the first columns are filled in. -/
theorem fillFields_filled (text : Text) (segments : List Segment) (arguments : List Text)
    (columns? : Option Text) : Builder.fillFields text (filled segments arguments columns?) =
      filled segments arguments (columns?.or (some text)) := by
  unfold Builder.fillFields
  fun_induction filled segments arguments columns? with
  | case1 => rfl
  | case2 t rest arguments columns? ih => simp [filled, ih]
  | case3 rest columns? ih => simp [filled, ih]
  | case4 rest t arguments columns? ih => simp [filled, ih]
  | case5 rest arguments columns? ih => cases columns? <;> simp [filled, ih]

/-- Assembling what was filled is substituting. -/
theorem assemble_filled (segments : List Segment) (arguments : List Text)
    (columns? : Option Text) : Builder.assemble (filled segments arguments columns?) =
      substituted segments arguments columns? := by
  fun_induction filled segments arguments columns? with
  | case1 => rfl
  | case2 t rest arguments columns? ih => simp [Builder.assemble, substituted, ih]
  | case3 => rfl
  | case4 rest t arguments columns? ih => simp [Builder.assemble, substituted, ih]
  | case5 rest arguments columns? ih =>
    cases columns? with
    | none => rfl
    | some text => simp [Builder.assemble, substituted, ih]

end Template

end SqlTemplate
