import SqlTemplate.Proofs.Builder.Operation

/-!
# The life of a builder

A builder is used in any way and order: operated on, finished, shown, asked for its state
(`Builder.use`). Two marks decide what a use does. Once the builder has failed, its state does not
change any more (`state_useAll_failed`); once it has been finished, which the first `finish` does
and nothing else (`finished_useAll`), the whole builder does not (`use_finished`). `life_cycle` puts
together what follows for a builder that is used from its beginning.
-/

namespace SqlTemplate.Builder

/-- What a builder can be asked for. -/
inductive Reading where
  | display
  | displayed
  | state
  | isFailed
  | errorMessage

inductive Use where
  | operation (o : Operation)
  | finish
  | read (r : Reading)

/-- What a use gives. -/
inductive Answer where
  | done
  | text (s : Text)
  | message (s? : Option Text)
  | flag (b : Bool)
  | state (s : BuilderState)

/-- What a use raises. -/
inductive Raised where
  | failure (f : Failure)
  | operation (fault : OperationFault)

structure Used where
  result : Except Raised Answer
  builder : Builder

/-- A step with its result put into words of uses. -/
def Used.ofStep {α : Type} (answer : α → Answer) (step : Step α) : Used :=
  match step.result with
  | .ok a => ⟨.ok (answer a), step.builder⟩
  | .error f => ⟨.error (.failure f), step.builder⟩

def read (b : Builder) : Reading → Answer
  | .display => .text b.display
  | .displayed => .text b.displayed
  | .state => .state b.state
  | .isFailed => .flag b.isFailed
  | .errorMessage => .message b.errorMessage?

def use (b : Builder) : Use → Used
  | .operation o =>
    match b.operate o with
    | .ok step => .ofStep (fun _ => .done) step
    | .error fault => ⟨.error (.operation fault), b⟩
  | .finish => .ofStep .text b.finish
  | .read r => ⟨.ok (b.read r), b⟩

/-- The builder after several uses. -/
def useAll (b : Builder) (uses : List Use) : Builder :=
  uses.foldl (fun b u => (b.use u).builder) b

/-! ## Single uses -/

theorem Used.builder_ofStep {α : Type} (answer : α → Answer) (step : Step α) :
    (ofStep answer step).builder = step.builder := by
  unfold ofStep
  split <;> rfl

theorem builder_use_operation (b : Builder) (o : Operation) :
    (b.use (.operation o)).builder = b.operated o := by
  rw [use, operated]
  cases b.operate o with
  | ok step => exact Used.builder_ofStep _ step
  | error fault => rfl

theorem builder_use_finish (b : Builder) : (b.use .finish).builder = b.finish.builder :=
  Used.builder_ofStep _ b.finish

/-- A finished builder refuses what is not a reading, and stays what it is. -/
theorem use_finished {b : Builder} (h : b.finished = true) {u : Use} (hu : ∀ r, u ≠ .read r) :
    b.use u = ⟨.error (.failure consumed), b⟩ := by
  cases u with
  | operation o =>
    rw [use, operate_finished h]
    rfl
  | finish =>
    rw [use, finish_finished h]
    rfl
  | read r => exact absurd rfl (hu r)

/-- A finished builder stays as it is, whatever it is used for. -/
theorem builder_use_finished {b : Builder} (h : b.finished = true) (u : Use) :
    (b.use u).builder = b := by
  cases u with
  | read r => rfl
  | operation o => rw [use_finished h (by intro r; simp)]
  | finish => rw [use_finished h (by intro r; simp)]

/-- Nothing that is done to a failed builder changes its state. -/
theorem state_use_failed {b : Builder} (hf : b.isFailed = true) (u : Use) :
    (b.use u).builder.state = b.state := by
  by_cases h : b.finished = true
  · rw [builder_use_finished h]
  · have hn : b.finished = false := Bool.eq_false_iff.2 h
    cases u with
    | operation o =>
      rw [builder_use_operation, operated, operate_failed hn hf]
      rfl
    | finish =>
      rw [builder_use_finish]
      rcases finish_cases hn with ⟨sql, -, hf', -⟩ | ⟨message, -, hb, hs⟩
      · rw [hf] at hf'
        cases hf'
      · rw [hb, hs hf]
    | read r => rfl

/-- Whether a use is the end of the work. -/
def Use.isFinish : Use → Bool
  | finish => true
  | _ => false

/-- The end of the work marks the builder, and nothing else does. -/
theorem finished_use (b : Builder) (u : Use) :
    (b.use u).builder.finished = (b.finished || u.isFinish) := by
  by_cases h : b.finished = true
  · rw [builder_use_finished h, h, Bool.true_or]
  · have hn : b.finished = false := Bool.eq_false_iff.2 h
    rw [hn, Bool.false_or]
    cases u with
    | operation o =>
      rw [builder_use_operation]
      exact finished_operated hn o
    | finish =>
      rw [builder_use_finish]
      rcases finish_cases hn with ⟨sql, -, -, hb⟩ | ⟨message, -, hb, -⟩
      · rw [hb]
        rfl
      · rw [hb]
        rfl
    | read r => exact hn

/-- An operation on an argument whose fault cannot be told raises what comes of asking for the
message. -/
theorem use_untellable {b : Builder} {cause : Fault} {o : Operation} (h : b.Untellable cause o) :
    b.use (.operation o) = ⟨.error (.operation (.argument cause)), b⟩ := by
  rw [use, operate_untellable h]

/-- Apart from the end of the work and from look-ups at fault, only such an operation makes an
unfinished builder raise anything. -/
theorem result_use_unfinished {b : Builder} (h : b.finished = false) {u : Use} (hu : u ≠ .finish)
    (hl : ∀ o, u = .operation o → o.LooksUp) :
    (∃ answer, (b.use u).result = .ok answer) ↔
      ∀ o cause, u = .operation o → ¬ b.Untellable cause o := by
  constructor
  · rintro ⟨answer, ha⟩ o cause rfl hc
    rw [use_untellable hc] at ha
    cases ha
  · intro hc
    cases u with
    | operation o =>
      rcases operate_unfinished h o with ⟨step, hs, hr, -⟩ | ⟨fault, -, hn | ⟨cause, hn⟩⟩
      · refine ⟨.done, ?_⟩
        rw [use, hs]
        dsimp only
        rw [Used.ofStep, hr]
      · exact absurd (hl o rfl) hn
      · exact absurd hn (hc o cause rfl)
    | finish => exact absurd rfl hu
    | read r => exact ⟨_, rfl⟩

/-- The first end of the work gives a statement or raises the message of a failure, and which of the
two the builder tells afterwards. -/
theorem use_finish_unfinished {b : Builder} (h : b.finished = false) :
    (∃ sql, (b.use .finish).result = .ok (.text sql) ∧
      (b.use .finish).builder.isFailed = false) ∨
    (∃ message, (b.use .finish).result = .error (.failure (invalid message)) ∧
      (b.use .finish).builder.isFailed = true ∧
      (b.use .finish).builder.errorMessage? = some message) := by
  rw [builder_use_finish, use, Used.ofStep]
  rcases finish_cases h with ⟨sql, hr, hf, hb⟩ | ⟨message, hr, hb, -⟩
  · refine .inl ⟨sql, ?_, ?_⟩
    · rw [hr]
    · rw [hb]
      exact hf
  · refine .inr ⟨message, ?_, ?_, ?_⟩
    · rw [hr]
    · rw [hb]
      rfl
    · rw [hb]
      rfl

/-! ## Many uses -/

/-- A failed builder stays failed with its message. -/
theorem state_useAll_failed {b : Builder} (hf : b.isFailed = true) (uses : List Use) :
    (b.useAll uses).state = b.state := by
  induction uses generalizing b with
  | nil => rfl
  | cons u rest ih =>
    have hs : (b.use u).builder.state = b.state := state_use_failed hf u
    have hf' : (b.use u).builder.isFailed = true := by rw [isFailed_congr hs, hf]
    exact (ih hf').trans hs

/-- A builder is finished by the uses that finish it, and by no others. -/
theorem finished_useAll (b : Builder) (uses : List Use) :
    (b.useAll uses).finished = (b.finished || uses.any Use.isFinish) := by
  induction uses generalizing b with
  | nil => exact (Bool.or_false _).symm
  | cons u rest ih =>
    have h := ih (b.use u).builder
    rw [finished_use, Bool.or_assoc] at h
    exact h

theorem any_isFinish_iff {uses : List Use} :
    uses.any Use.isFinish = true ↔ Use.finish ∈ uses := by
  rw [List.any_eq_true]
  constructor
  · rintro ⟨u, hu, hf⟩
    cases u with
    | finish => exact hu
    | operation o => cases hf
    | read r => cases hf
  · intro h
    exact ⟨.finish, h, rfl⟩

/-- A new builder has been finished exactly if it was told to. -/
theorem finished_useAll_iff (source : Source) (uses : List Use) :
    ((ofSource source).useAll uses).finished = true ↔ Use.finish ∈ uses := by
  rw [finished_useAll, finished_ofSource, Bool.false_or, any_isFinish_iff]

/-- **The life of a builder**, after any uses from its beginning:

* a failure stays: no use changes that the builder has failed, its message or what it displays;
* up to the first `finish` no other use raises anything, where look-ups of columns do not, but to
  bind an argument that is waited for and whose fault has no message to tell, and this changes
  nothing; and that `finish` gives a statement, or raises the message of the failure that the
  builder has from then on;
* afterwards everything that is not a reading is refused, and changes nothing;
* a reading never raises anything, and changes nothing. -/
theorem life_cycle (source : Source) (before : List Use) :
    let b := (ofSource source).useAll before
    (b.isFailed = true → ∀ later,
      (b.useAll later).isFailed = true ∧
      (b.useAll later).errorMessage? = b.errorMessage? ∧
      (b.useAll later).display = b.display) ∧
    (Use.finish ∉ before →
      (∀ u, u ≠ .finish → (∀ o, u = .operation o → o.LooksUp) →
        ((∃ answer, (b.use u).result = .ok answer) ↔
          ∀ o cause, u = .operation o → ¬ b.Untellable cause o)) ∧
      (∀ o cause, b.Untellable cause o →
        b.use (.operation o) = ⟨.error (.operation (.argument cause)), b⟩) ∧
      ((∃ sql, (b.use .finish).result = .ok (.text sql) ∧
          (b.use .finish).builder.isFailed = false) ∨
        (∃ message, (b.use .finish).result = .error (.failure (invalid message)) ∧
          (b.use .finish).builder.isFailed = true ∧
          (b.use .finish).builder.errorMessage? = some message))) ∧
    (Use.finish ∈ before → ∀ u, (∀ r, u ≠ .read r) →
      b.use u = ⟨.error (.failure consumed), b⟩) ∧
    (∀ r, ∃ answer, b.use (.read r) = ⟨.ok answer, b⟩) := by
  intro b
  have hb : b.finished = true ↔ Use.finish ∈ before := finished_useAll_iff source before
  refine ⟨?_, ?_, ?_, ?_⟩
  · intro hf later
    have hs : (b.useAll later).state = b.state := state_useAll_failed hf later
    refine ⟨?_, ?_, ?_⟩
    · rw [isFailed_congr hs, hf]
    · rw [errorMessage?, errorMessage?, hs]
    · rw [display, display, hs]
  · intro hn
    have hu : b.finished = false := Bool.eq_false_iff.2 (mt hb.1 hn)
    refine ⟨?_, ?_, use_finish_unfinished hu⟩
    · intro u hne hl
      exact result_use_unfinished hu hne hl
    · intro o cause hc
      exact use_untellable hc
  · intro hm u hr
    exact use_finished (hb.2 hm) hr
  · intro r
    exact ⟨b.read r, rfl⟩

/-! ## An argument too many -/

def surplusUses : List Use :=
  [.operation (.argument Writer.dispatcher (.int 1)), .read .display,
    .operation (.argument Writer.dispatcher (.int 2))]

/-- The second argument is one too many: the message stays, the end of the work raises it, and a
second end is refused. -/
theorem life_cycle_surplus :
    let source : Source := .template "SELECT ?".toList
    let b := (ofSource source).useAll surplusUses
    let later : List Use := [.operation (.format (some "CSV".toList)), .finish]
    b.isFailed = true ∧ Use.finish ∉ surplusUses ∧ Use.finish ∈ surplusUses ++ later ∧
    (b.useAll later).errorMessage? = some (failureMessage surplusReason) ∧
    (∃ message, (b.use .finish).result = .error (.failure (invalid message))) ∧
    (((ofSource source).useAll (surplusUses ++ later)).use .finish).result =
      .error (.failure consumed) := by
  intro source b later
  have failed : b.isFailed = true := by decide
  have unfinished : Use.finish ∉ surplusUses := by simp [surplusUses]
  have finished : Use.finish ∈ surplusUses ++ later := by simp [later]
  obtain ⟨stays, ends, -, -⟩ := life_cycle source surplusUses
  obtain ⟨-, -, refuses, -⟩ := life_cycle source (surplusUses ++ later)
  refine ⟨failed, unfinished, finished, ?_, ?_, ?_⟩
  · exact (stays failed later).2.1.trans rfl
  · rcases (ends unfinished).2.2 with ⟨sql, h, -⟩ | ⟨message, h, -⟩
    · cases h
    · exact ⟨message, h⟩
  · rw [refuses finished .finish (by intro r; simp)]

/-- A value that cannot be written and cannot say why makes an operation raise a type error before
the end of the work. -/
theorem life_cycle_speechless :
    let b := (ofSource (.template "SELECT ?".toList)).useAll []
    let bound := b.use (.operation (.argument Writer.dispatcher speechless))
    Use.finish ∉ ([] : List Use) ∧ b.isFailed = false ∧
    bound.result = .error (.operation (.argument speechlessCause)) ∧
    bound.builder.isFailed = false := by
  intro b bound
  have untellable : b.Untellable speechlessCause (.argument Writer.dispatcher speechless) :=
    ⟨awaitsArgument_template, writeLiteral_speechless⟩
  have raised : bound = ⟨.error (.operation (.argument speechlessCause)), b⟩ :=
    use_untellable untellable
  refine ⟨List.not_mem_nil, rfl, ?_, ?_⟩
  · rw [raised]
  · rw [raised]
    rfl

end SqlTemplate.Builder
