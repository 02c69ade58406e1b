import JavaWeave.Weave.Handler

/-! What the steps of a handler guarantee: which edits they schedule, what they return, and that a problem they
end with is reported as an error. The rules follow the steps from the first to the last; what is left to be
shown about a step is said of what it returns. -/

namespace JavaWeave.Weave

open Syntax

/-- Whether a problem is reported as an error, whatever annotation it is about. -/
def Problem.IsError (problem : Problem) : Prop := ∀ name, (problem.diagnostic name).isError = true

theorem Problem.isError_usage {message : Diagnostic.Message} (arguments : List String)
    (severe : message.severity = .error) : (Problem.usage message arguments).IsError := by
  intro name
  simp [Problem.diagnostic, Diagnostic.of, Diagnostic.isError, severe]

theorem Problem.isError_member (problem : MemberProblem) : (Problem.member problem).IsError := fun _ => rfl

theorem Problem.isError_internal (problem : InternalProblem) : (Problem.internal problem).IsError := fun _ => rfl

namespace Handling

variable {α β : Type} {setting : Setting} {allowed : Edit → Prop}

/-- How steps end, and the draft they leave. -/
def outcome (steps : Handling α) (setting : Setting) (draft : Draft) : Except Problem α × Draft :=
  (steps.run setting).run.run draft

theorem outcome_pure (value : α) (setting : Setting) (draft : Draft) :
    (pure value : Handling α).outcome setting draft = (.ok value, draft) := rfl

theorem outcome_bind (steps : Handling α) (next : α → Handling β) (setting : Setting) (draft : Draft) :
    (steps >>= next).outcome setting draft =
      match steps.outcome setting draft with
      | (.ok value, after) => (next value).outcome setting after
      | (.error problem, after) => (.error problem, after) := by
  simp only [outcome, ReaderT.run_bind, ExceptT.run_bind, StateT.run_bind]
  rcases (steps.run setting).run.run draft with ⟨_ | _, _⟩ <;> rfl

/-- The guarantee of steps at a setting: from a draft of allowed edits they make a draft of allowed edits and
return what is said, or else they end with an error. -/
structure Ensures (setting : Setting) (allowed : Edit → Prop) (steps : Handling α) (returned : α → Prop) :
    Prop where
  holds : ∀ draft : Draft, (∀ edit ∈ draft.edits, allowed edit) →
    match steps.outcome setting draft with
    | (.ok value, after) => (∀ edit ∈ after.edits, allowed edit) ∧ returned value
    | (.error problem, _) => problem.IsError

namespace Ensures

variable {steps : Handling α} {next : α → Handling β} {returned : α → Prop} {finally' : β → Prop}

theorem pure {value : α} (gives : returned value) :
    Ensures setting allowed (pure value : Handling α) returned where
  holds _ edits := ⟨edits, gives⟩

theorem bind (first : Ensures setting allowed steps fun value =>
    Ensures setting allowed (next value) finally') :
    Ensures setting allowed (steps >>= next) finally' where
  holds draft edits := by
    have firstHolds := first.holds draft edits
    rw [outcome_bind]
    generalize steps.outcome setting draft = ending at firstHolds
    rcases ending with ⟨_ | value, after⟩
    · exact firstHolds
    · exact firstHolds.2.holds after firstHolds.1

theorem mono {weaker : α → Prop} (ensures : Ensures setting allowed steps returned)
    (implies : ∀ value, returned value → weaker value) : Ensures setting allowed steps weaker where
  holds draft edits := by
    have holds := ensures.holds draft edits
    generalize steps.outcome setting draft = ending at holds
    rcases ending with ⟨_ | value, after⟩
    · exact holds
    · exact ⟨holds.1, implies value holds.2⟩

theorem ite {condition : Prop} [Decidable condition] {other : Handling α}
    (whenTrue : condition → Ensures setting allowed steps returned)
    (whenFalse : ¬condition → Ensures setting allowed other returned) :
    Ensures setting allowed (if condition then steps else other) returned := by
  split
  · exact whenTrue ‹_›
  · exact whenFalse ‹_›

/-- Steps that several branches go on with are looked at once. -/
theorem joined {following : Handling β}
    (branches : Ensures setting allowed following finally' → Ensures setting allowed steps returned)
    (rest : Ensures setting allowed following finally') : Ensures setting allowed steps returned :=
  branches rest

theorem branch {condition : Prop} [Decidable condition] {other : Handling α}
    (whenTrue : Ensures setting allowed steps fun _ => True)
    (whenFalse : Ensures setting allowed other fun _ => True)
    (rest : ∀ value, Ensures setting allowed (next value) finally') :
    Ensures setting allowed (if condition then steps >>= next else other >>= next) finally' :=
  .ite (fun _ => .bind (whenTrue.mono fun value _ => rest value)) fun _ =>
    .bind (whenFalse.mono fun value _ => rest value)

theorem lacking {condition : Prop} [Decidable condition] {steps : Handling Unit} {next : Unit → Handling β}
    (whenFalse : Ensures setting allowed steps fun _ => True)
    (rest : Ensures setting allowed (next ()) finally') :
    Ensures setting allowed (if condition then next () else steps >>= next) finally' :=
  .ite (fun _ => rest) fun _ => .bind (whenFalse.mono fun _ _ => rest)

theorem whenever {condition : Prop} [Decidable condition] {steps : Handling Unit} {next : Unit → Handling β}
    (whenTrue : Ensures setting allowed steps fun _ => True)
    (rest : Ensures setting allowed (next ()) finally') :
    Ensures setting allowed (if condition then steps >>= next else next ()) finally' :=
  .ite (fun _ => .bind (whenTrue.mono fun _ _ => rest)) fun _ => rest

/-- A loop keeps what each pass keeps. -/
theorem forIn {items : List α} {start : β} {step : α → β → Handling (ForInStep β)}
    (begins : finally' start)
    (each : ∀ item ∈ items, ∀ state, finally' state → Ensures setting allowed (step item state) fun
      | .yield after => finally' after
      | .done after => finally' after) :
    Ensures setting allowed (ForIn.forIn items start step) finally' := by
  induction items generalizing start with
  | nil => exact .pure begins
  | cons item items inductionHypothesis =>
    rw [List.forIn_cons]
    refine .bind ((each item List.mem_cons_self start begins).mono ?_)
    intro result kept
    cases result with
    | done after => exact .pure kept
    | yield after =>
      exact inductionHypothesis kept fun other member => each other (List.mem_cons_of_mem item member)

theorem mapM {option : Option α} {read : α → Handling β} {finally' : Option β → Prop}
    (each : ∀ value, Ensures setting allowed (read value) fun _ => True) (gives : ∀ result, finally' result) :
    Ensures setting allowed (option.mapM read) finally' := by
  cases option with
  | none => exact .pure (gives none)
  | some value => exact .bind ((each value).mono fun result _ => .pure (gives (some result)))

theorem fail {problem : Problem} (severe : problem.IsError) :
    Ensures setting allowed (fail problem : Handling α) returned where
  holds _ _ := severe

theorem misuse {message : Diagnostic.Message} {arguments : List String} (severe : message.severity = .error) :
    Ensures setting allowed (misuse message arguments : Handling α) returned :=
  fail (Problem.isError_usage arguments severe)

theorem misused {message : Diagnostic.Message} (severe : message.severity = .error) :
    Ensures setting allowed ( misuseOfAnnotation message : Handling α) returned where
  holds _ _ := Problem.isError_usage _ severe

theorem orInternal {result : Except InternalProblem α} (gives : ∀ value, result = .ok value → returned value) :
    Ensures setting allowed (orInternal result) returned := by
  cases result with
  | ok value => exact .pure (gives value rfl)
  | error problem => exact fail (Problem.isError_internal problem)

theorem warn {message : Diagnostic.Message} {arguments : List String} {returned : Unit → Prop}
    (gives : returned ()) : Ensures setting allowed (warn message arguments) returned where
  holds _ edits := ⟨edits, gives⟩

theorem schedule {edit : Edit} {returned : Unit → Prop} (allows : allowed edit) (gives : returned ()) :
    Ensures setting allowed (schedule edit) returned where
  holds draft edits := by
    refine ⟨?_, gives⟩
    intro other member
    rcases List.mem_append.mp member with member | member
    · exact edits other member
    · rw [List.mem_singleton.mp member]
      exact allows

theorem injectField {field : Field} {returned : Unit → Prop} (allows : allowed (.injectField field))
    (gives : returned ()) : Ensures setting allowed (injectField field) returned := schedule allows gives

theorem injectMethod {method : Method} {returned : Unit → Prop} (allows : allowed (.injectMethod method))
    (gives : returned ()) : Ensures setting allowed (injectMethod method) returned := schedule allows gives

theorem injectConstructor {constructor : Constructor} {returned : Unit → Prop}
    (allows : allowed (.injectConstructor constructor)) (gives : returned ()) :
    Ensures setting allowed (injectConstructor constructor) returned := schedule allows gives

theorem injectType {type : TypeDecl} {returned : Unit → Prop} (allows : allowed (.injectType type))
    (gives : returned ()) : Ensures setting allowed (injectType type) returned := schedule allows gives

theorem injectInitializer {initializer : Initializer} {returned : Unit → Prop}
    (allows : allowed (.injectInitializer initializer)) (gives : returned ()) :
    Ensures setting allowed (injectInitializer initializer) returned := schedule allows gives

theorem read {returned : Setting → Prop} (gives : returned setting) :
    Ensures setting allowed (read : Handling Setting) returned where
  holds _ edits := ⟨edits, gives⟩

theorem get {returned : Draft → Prop}
    (gives : ∀ draft : Draft, (∀ edit ∈ draft.edits, allowed edit) → returned draft) :
    Ensures setting allowed (get : Handling Draft) returned where
  holds draft edits := ⟨edits, gives draft edits⟩

theorem edited {returned : TypeDecl → Prop} (gives : returned setting.decl) :
    Ensures setting allowed edited returned where
  holds _ edits := ⟨edits, gives⟩

theorem options {returned : Options → Prop} (gives : returned setting.options) :
    Ensures setting allowed options returned where
  holds _ edits := ⟨edits, gives⟩

theorem annotationName {returned : String → Prop} (gives : returned setting.annotationName) :
    Ensures setting allowed annotationName returned where
  holds _ edits := ⟨edits, gives⟩

theorem hasMethod {name : String} {arity : Option Nat} {returned : Bool → Prop}
    (gives : ∀ found, returned found) : Ensures setting allowed (hasMethod name arity) returned where
  holds _ edits := ⟨edits, gives _⟩

theorem hasField {name : String} {returned : Bool → Prop} (gives : ∀ found, returned found) :
    Ensures setting allowed (hasField name) returned where
  holds _ edits := ⟨edits, gives _⟩

theorem hasType {name : String} {returned : Bool → Prop} (gives : ∀ found, returned found) :
    Ensures setting allowed (hasType name) returned where
  holds _ edits := ⟨edits, gives _⟩

theorem methodAt {index : Nat} {returned : Method → Prop} (gives : ∀ method, returned method) :
    Ensures setting allowed (methodAt index) returned := by
  refine .bind (.edited ?_)
  split
  · exact .pure (gives _)
  · exact fail (Problem.isError_internal _)

theorem fieldAt {index : Nat} {returned : Field → Prop} (gives : ∀ field, returned field) :
    Ensures setting allowed (fieldAt index) returned := by
  refine .bind (.edited ?_)
  split
  · exact .pure (gives _)
  · exact fail (Problem.isError_internal _)

theorem occurrence {returned : Annotation → Prop} (gives : ∀ note, returned note) :
    Ensures setting allowed occurrence returned := by
  refine .bind (.read ?_)
  split
  · exact .pure (gives _)
  · exact fail (Problem.isError_internal _)

theorem member {reading : Annotation → Except MemberProblem α} (gives : ∀ value, returned value) :
    Ensures setting allowed (member reading) returned := by
  refine .bind (.occurrence fun note => ?_)
  split
  · exact .pure (gives _)
  · exact fail (Problem.isError_member _)

/-- Which method an annotation of a method is on. -/
theorem methodTarget {target : Target} {returned : Nat → Prop}
    (gives : ∀ index, target = .method index → returned index) :
    Ensures setting allowed (methodTarget target) returned := by
  cases target with
  | method index => exact .pure (gives index rfl)
  | type => exact misused rfl
  | field index => exact misused rfl

end Ensures

end Handling

/-- An occurrence that ended well committed allowed edits, or there was nothing to do. -/
def Outcome.Commits (setting : Setting) (allowed : Edit → Prop) : Outcome → Prop
  | .applied type => ∃ edits : List Edit, (∀ edit ∈ edits, allowed edit) ∧
      commit setting.decl setting.span setting.site edits = .ok type
  | .skipped => True

theorem Handling.Ensures.rebuild {setting : Setting} {allowed : Edit → Prop} :
    Ensures setting allowed rebuild (Outcome.Commits setting allowed) := by
  refine .bind (.read (.bind (.get fun draft edits => ?_)))
  exact .bind (.orInternal fun type committed => .pure ⟨draft.edits, edits, committed⟩)

/-- A type without annotations and without member types. -/
structure Unmarked (type : TypeDecl) : Prop where
  own : type.annotations = []
  fields : ∀ field ∈ type.fields, field.annotations = []
  methods : ∀ method ∈ type.methods, method.annotations = []
  memberTypes : type.memberTypes = []

/-- The edits that a handler may schedule for an occurrence on the target. No new member has annotations, and
only for a whole type are there new types and are methods or their annotations removed. -/
def Edit.Allowed (target : Target) : Edit → Prop
  | .injectField field => field.annotations = []
  | .injectMethod method => method.annotations = []
  | .injectType type => target = .type ∧ Unmarked type
  | .removeMethod _ | .removeMethodNote .. => target = .type
  | .removeNote _ => False
  | _ => True

/-- A handler that schedules allowed edits only and reports every problem as an error. -/
def Handler.Disciplined (handler : Handler) : Prop :=
  ∀ target setting, (handler.handle target).Ensures setting (Edit.Allowed target)
    (Outcome.Commits setting (Edit.Allowed target))

end JavaWeave.Weave
