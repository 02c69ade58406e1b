import JavaWeave.Handler.ConditionLock
import JavaWeave.Proofs.Handler.Supply
import JavaWeave.Proofs.Weave.Idempotence

/-! Which fields stand behind the locks and conditions of guarded bodies. The first annotation that takes a name makes
the field, and whatever takes the name later gets this one: static or not, and of the lock that was taken first. -/

namespace JavaWeave.Weave

open Syntax

namespace LockPlan

variable {plan : LockPlan} {owner : String} {isStatic : Bool}

/-- The names of the fields that a guarded body takes. -/
def names (plan : LockPlan) : List String := plan.lock :: plan.conditions

/-- The fields that are made where they are missing. -/
def fields (plan : LockPlan) (owner : String) (isStatic : Bool) : List Field :=
  plan.lockField isStatic :: plan.conditions.map (plan.conditionField owner isStatic)

theorem names_fields : (plan.fields owner isStatic).map (·.name) = plan.names := by
  rw [fields, List.map_cons, List.map_map]
  exact congrArg _ (List.map_id' _)

theorem isStatic_of_mem_fields {field : Field} (member : field ∈ plan.fields owner isStatic) :
    field.isStatic = isStatic := by
  have held : (Modifiers.ofList (if isStatic then [.privateAccess, .static, .final] else [.privateAccess, .final])).has
      .static = isStatic := by cases isStatic <;> decide
  rcases List.mem_cons.mp member with rfl | member
  · exact held
  · obtain ⟨condition, -, rfl⟩ := List.mem_map.mp member
    exact held

theorem straight_memberField (name : String) : Straight (memberField owner isStatic name) := by
  cases isStatic
  · exact .field (.this none)
  · exact .field (.name owner)

theorem lowered_of_mem_fields {field : Field} (member : field ∈ plan.fields owner isStatic) (span : Option Span) :
    ∃ written, lowerField span field = .ok written ∧ AlikeField field written := by
  refine lowerField_straight span ?_
  rcases List.mem_cons.mp member with rfl | member
  · rintro e ⟨⟩
    exact .make nofun
  · obtain ⟨condition, -, rfl⟩ := List.mem_map.mp member
    rintro e ⟨⟩
    exact .callOn (straight_memberField _) nofun

theorem accepts_lockField : plan.kind.accepts (plan.lockField isStatic).type = true := by
  change plan.kind.accepts (.named plan.kind.fieldType) = true
  cases plan.kind <;> decide +kernel

variable (plan owner isStatic) in
/-- Of the fields of a plan the lock is found first. -/
theorem find?_fields {name : String} (member : name ∈ plan.names) :
    (plan.fields owner isStatic).find? (·.name == name) =
      some (if plan.lock = name then plan.lockField isStatic else plan.conditionField owner isStatic name) := by
  rw [fields, List.find?_cons]
  by_cases lock : plan.lock = name
  · have same : ((plan.lockField isStatic).name == name) = true := beq_iff_eq.mpr lock
    rw [same, if_pos lock]
  · have other : ((plan.lockField isStatic).name == name) = false := beq_eq_false_iff_ne.mpr lock
    have condition : name ∈ plan.conditions := (List.mem_cons.mp member).resolve_left (Ne.symm lock)
    rw [other, if_neg lock, List.find?_map]
    have listed : (plan.conditions.find? (· == name)).isSome :=
      List.find?_isSome.mpr ⟨name, condition, beq_self_eq_true name⟩
    obtain ⟨found, is⟩ := Option.isSome_iff_exists.mp listed
    have same : found = name := by simpa using List.find?_some is
    exact congrArg (Option.map _) (same ▸ is)

private theorem lowered_await {span : Option Span} {returnType : JavaType} (await : AwaitPlan) :
    (lowering span "method body").onStatement (some returnType) (awaitStatement owner isStatic await) =
      .ok (awaitStatement owner isStatic await) := by
  cases isStatic <;> rfl

/-- A call without arguments on a lock or on a condition. -/
private theorem straight_call {receiver : Expression} (straight : Straight receiver) (name : String) :
    StraightStep (.callOn receiver name []) := .expression (.callOn straight nofun)

theorem straight_lockExpression : Straight (plan.lockExpression owner isStatic) := by
  rw [lockExpression]
  cases plan.kind with
  | read | write => exact .callOn (straight_memberField _) nofun
  | exclusive => exact straight_memberField _

variable (plan owner isStatic) in
/-- What is done in the end, signalling and giving back the lock. -/
theorem straight_release :
    ∀ s ∈ plan.signal.toList.map (fun signal => Statement.callOn (memberField owner isStatic signal) "signal" []) ++
      [Statement.callOn (plan.lockExpression owner isStatic) "unlock" []], StraightStep s := by
  intro s member
  rcases List.mem_append.mp member with member | member
  · obtain ⟨signal, -, rfl⟩ := List.mem_map.mp member
    exact straight_call (straight_memberField signal) "signal"
  · cases List.mem_singleton.mp member
    exact straight_call straight_lockExpression "unlock"

/-- Waiting is written down as it is; of what is guarded only the old body is lowered. -/
theorem lowered_guarded {span : Option Span} {returnType : JavaType} {body written : List Statement}
    (lowered : lowerBody span returnType (plan.await.toList.map (awaitStatement owner isStatic) ++ body) = .ok written) :
    ∃ inner, lowerBody span returnType body = .ok inner ∧
      written = plan.await.toList.map (awaitStatement owner isStatic) ++ inner := by
  cases found : plan.await with
  | none =>
    rw [found] at lowered
    exact ⟨written, lowered, rfl⟩
  | some await =>
    rw [found] at lowered
    obtain ⟨first, firstOk, lowered⟩ := bind_eq_ok.mp lowered
    obtain ⟨inner, innerOk, same⟩ := bind_eq_ok.mp lowered
    cases same
    cases (lowered_await await).symm.trans firstOk
    exact ⟨inner, innerOk, rfl⟩

theorem lowerBody_guardedBody {span : Option Span} {returnType : JavaType} {body written : List Statement}
    (lowered : lowerBody span returnType (plan.guardedBody owner isStatic body) = .ok written) :
    ∃ inner, lowerBody span returnType body = .ok inner ∧ written = plan.guardedBody owner isStatic inner := by
  have leaves := leaves_lowering span "method body"
  have lock : Straight (plan.lockExpression owner isStatic) := straight_lockExpression
  have taking := Reviser.onStatement_straight leaves (some returnType) (straight_call lock "lock")
  have release := Reviser.onStatements_straight leaves (some returnType) (straight_release plan owner isStatic)
  obtain ⟨first, firstOk, lowered⟩ := bind_eq_ok.mp lowered
  obtain ⟨rest, restOk, same⟩ := bind_eq_ok.mp lowered
  cases same
  cases taking.symm.trans firstOk
  obtain ⟨trying, tryingOk, restOk⟩ := bind_eq_ok.mp restOk
  obtain ⟨none, noneOk, same⟩ := bind_eq_ok.mp restOk
  cases noneOk
  cases same
  obtain ⟨guarded, guardedOk, tryingOk⟩ := bind_eq_ok.mp tryingOk
  obtain ⟨catches, catchesOk, tryingOk⟩ := bind_eq_ok.mp tryingOk
  cases catchesOk
  obtain ⟨releasing, releasingOk, tryingOk⟩ := bind_eq_ok.mp tryingOk
  cases (Reviser.pure_given release).symm.trans releasingOk
  cases tryingOk
  obtain ⟨inner, innerOk, rfl⟩ := lowered_guarded guardedOk
  exact ⟨inner, innerOk, rfl⟩

end LockPlan

/-- An annotation that is carried out: its plan, and the method that it is on. -/
structure LockUse where
  plan : LockPlan
  place : Nat
  isStatic : Bool

/-- The fields that it makes where they are missing. -/
def LockUse.fields (owner : String) (use : LockUse) : List Field := use.plan.fields owner use.isStatic

/-- Carrying out an annotation without a problem. -/
inductive LockStep : TypeDecl → LockUse → TypeDecl → Prop where
  | carriedOut {setting : Setting} {use : LockUse} {method : Method} {after : TypeDecl}
      (on : setting.decl.methods[use.place]? = some method) (static : method.isStatic = use.isStatic)
      (reads : (LockPlan.read.perform setting).1 = .ok use.plan)
      (ends : ((conditionLockHandler.handle (.method use.place)).perform setting).1 = .ok (.applied after)) :
      LockStep setting.decl use after

/-- The edits of an annotation of a method. -/
inductive LockEdit (owner : String) (use : LockUse) (body : List Statement) : Edit → Prop where
  | field {field : Field} (wanted : field ∈ use.fields owner) : LockEdit owner use body (.injectField field)
  | body : LockEdit owner use body (.replaceBody use.place (use.plan.guardedBody owner use.isStatic body))

theorem LockEdit.keepsFields {owner : String} {use : LockUse} {body : List Statement} {edit : Edit}
    (edits : LockEdit owner use body edit) : edit.KeepsFields := by
  cases edits with
  | field wanted => exact Edit.keepsFields_injectField (LockPlan.lowered_of_mem_fields wanted)
  | body => exact ⟨nofun, nofun⟩

/-- What is known when an annotation of a method with the body has been carried out. -/
structure LockCommit (setting : Setting) (use : LockUse) (body : List Statement) (outcome : Outcome) (last : Draft) :
    Prop where
  accepts : ∀ field, setting.decl.field? use.plan.lock = some field → use.plan.kind.accepts field.type = true
  scheduled : .replaceBody use.place (use.plan.guardedBody setting.decl.name use.isStatic body) ∈ last.edits
  commits : Committed setting outcome last

open Handling in
theorem LockStep.committed {before after : TypeDecl} {use : LockUse} (step : LockStep before use after) :
    ∃ setting method draft last, setting.decl = before ∧ before.methods[use.place]? = some method ∧
      method.isStatic = use.isStatic ∧ draft.edits = [] ∧
      Supplied before (LockEdit before.name use method.body) (use.fields before.name) draft last ∧
      LockCommit setting use method.body (.applied after) last := by
  cases step with
  | @carriedOut setting use method after on static reads ends =>
  obtain ⟨last, ended⟩ : ∃ last, (conditionLockHandler.handle (.method use.place)).outcome setting {} =
      (.ok (.applied after), last) := ⟨_, Prod.ext ends rfl⟩
  change Handling.outcome (methodAt use.place >>= _) setting {} = _ at ended
  rw [outcome_bind, outcome_methodAt, on] at ended
  dsimp only at ended
  by_cases abstract : method.isAbstract = true
  · rw [if_pos abstract] at ended
    cases ended
  rw [if_neg abstract] at ended
  obtain ⟨plan, draft, readOk, ended⟩ := outcome_bind_ok.mp ended
  obtain rfl : plan = use.plan := by
    change (LockPlan.read.outcome setting {}).1 = _ at reads
    rw [readOk] at reads
    exact Except.ok.inj reads
  have nothing : draft.edits = [] := (Ensures.lockPlan fun _ => trivial).edits_eq_nil rfl readOk
  refine ⟨setting, method, draft, last, rfl, on, static, nothing, Supplies.holds ?_ ended⟩
  rw [static]
  apply Supplies.joined
  · intro rest
    cases use.plan.await with
    | none => exact rest
    | some await => exact .after (.hasMethod fun _ _ => .ite (fun _ => rest) fun _ => .refused fun _ _ => .misuse)
  refine .after (.edited fun _ => ?_)
  apply Supplies.joined
  · intro (rest : Supplies _ _ _ (use.fields setting.decl.name) fun outcome last =>
      .replaceBody use.place (use.plan.guardedBody setting.decl.name use.isStatic method.body) ∈ last.edits ∧
        Committed setting outcome last)
    cases found : setting.decl.field? use.plan.lock with
    | some field =>
      refine .ite (fun accepts => rest.mono fun _ _ ends => ⟨?_, ends.1, ends.2⟩) fun _ => .refused fun _ _ => .misuse
      intro other same
      cases found.symm.trans same
      exact accepts
    | none => exact rest.mono fun _ _ ends => ⟨by simp [found], ends.1, ends.2⟩
  refine .ensureField (use.plan.lockField use.isStatic) (LockEdit.field List.mem_cons_self) ?_
  rw [List.map_eq_flatMap, ← List.append_nil (List.flatMap _ _)]
  refine .bind (.forIn (fun condition member => ?_) fun _ => .scheduled .body rfl .rebuild)
  exact .ensureField (use.plan.conditionField _ _ condition)
    (LockEdit.field (List.mem_cons_of_mem _ (List.mem_map_of_mem member))) (.pure fun _ => rfl)

/-- Bodies that are put in one after another: the last stays. -/
theorem onMethod_replaceBodies {ready : List Statement → Prop} {edits : List Edit}
    (each : ∀ edit ∈ edits, ∃ index body, edit = .replaceBody index body ∧ ready body) (method : Method) :
    (edits.foldl Edit.onMethod method).modifiers = method.modifiers ∧
      (edits ≠ [] → ready (edits.foldl Edit.onMethod method).body) := by
  induction edits generalizing method with
  | nil => exact ⟨rfl, fun some => absurd rfl some⟩
  | cons edit edits inductionHypothesis =>
    obtain ⟨⟨index, body, rfl, first⟩, rest⟩ := List.forall_mem_cons.mp each
    obtain ⟨modifiers, last⟩ := inductionHypothesis rest (Edit.onMethod method (.replaceBody index body))
    refine ⟨modifiers, fun _ => ?_⟩
    cases edits with
    | nil => exact first
    | cons next others => exact last nofun

/-- What an annotation makes of a class: it adds the fields that are missing, and of the methods it guards its own. -/
structure LockTaken (before : TypeDecl) (use : LockUse) (after : TypeDecl) : Prop where
  name : after.name = before.name
  accepts : ∀ field, before.field? use.plan.lock = some field → use.plan.kind.accepts field.type = true
  adds : AddsMissing (use.fields before.name) before after
  own : ∃ method written span returnType body, before.methods[use.place]? = some method ∧
    after.methods[use.place]? = some written ∧ method.isStatic = use.isStatic ∧ written.isStatic = use.isStatic ∧
    lowerBody span returnType method.body = .ok body ∧
    written.body = use.plan.guardedBody before.name use.isStatic body
  others : ∀ place ≠ use.place, ∀ method, before.methods[place]? = some method →
    ∃ written, after.methods[place]? = some written ∧ written.isStatic = method.isStatic ∧ written.body = method.body

/-- Every edit of a method that is carried out puts in the guarded body. -/
theorem LockEdit.replaces {type : TypeDecl} {span : Option Span} {all : List Edit} {owner : String} {use : LockUse}
    {body : List Statement} {edit written : Edit} {index : Nat} (edits : LockEdit owner use body edit)
    (lowered : edit.lower type span all = .ok written) (about : written.subject? = some (.method index)) :
    index = use.place ∧ ∃ new, written = .replaceBody use.place new ∧
      lowerBody span (Edit.finalReturnType type all use.place) (use.plan.guardedBody owner use.isStatic body) =
        .ok new := by
  cases edits with
  | field =>
    obtain ⟨_, _, same⟩ := bind_eq_ok.mp lowered
    cases same
    cases about
  | body =>
    obtain ⟨new, newOk, same⟩ := bind_eq_ok.mp lowered
    cases same
    cases about
    exact ⟨rfl, new, rfl, newOk⟩

theorem LockStep.taken {before after : TypeDecl} {use : LockUse} (step : LockStep before use after) :
    LockTaken before use after := by
  obtain ⟨setting, method, draft, last, rfl, on, static, nothing, supplied, done⟩ := step.committed
  have committed := done.commits after rfl
  have each : ∀ edit ∈ last.edits, LockEdit setting.decl.name use method.body edit := supplied.edits (by simp [nothing])
  have stay : ∀ edit ∈ last.edits, edit.removedMethod? = none := by
    intro edit member
    cases each edit member <;> rfl
  obtain ⟨lowered, loweredOk, methods⟩ := methods_commit committed stay
  have none : lowered.filterMap Edit.newMethod? = [] := by
    rw [List.filterMap_eq_nil_iff]
    intro written member
    obtain ⟨edit, inside, outcome⟩ := exists_of_lowered loweredOk member
    cases each edit inside <;> (obtain ⟨_, _, same⟩ := bind_eq_ok.mp outcome; cases same; rfl)
  have replaces {written : Edit} {index : Nat} (member : written ∈ editsOf (.method index) lowered) :
      index = use.place ∧ ∃ new, written = .replaceBody use.place new ∧
        lowerBody setting.span (Edit.finalReturnType setting.decl last.edits use.place)
          (use.plan.guardedBody setting.decl.name use.isStatic method.body) = .ok new := by
    obtain ⟨inside, about⟩ := List.mem_filter.mp member
    obtain ⟨edit, scheduled, outcome⟩ := exists_of_lowered loweredOk inside
    exact (each edit scheduled).replaces outcome (by simpa using about)
  rw [none, List.append_nil] at methods
  refine ⟨?_, done.accepts, .of_commit nothing supplied (fun _ => LockEdit.keepsFields) committed, ?_, ?_⟩
  · obtain ⟨-, -, _, _, rfl⟩ := commit_eq_ok.mp committed
    rfl
  · obtain ⟨written, member, outcome⟩ := exists_of_map_eq loweredOk done.scheduled
    have some : editsOf (.method use.place) lowered ≠ [] := by
      obtain ⟨new, -, same⟩ := bind_eq_ok.mp outcome
      cases same
      exact List.ne_nil_of_mem (List.mem_filter.mpr ⟨member, by simp [Edit.subject?]⟩)
    obtain ⟨modifiers, replaced⟩ := onMethod_replaceBodies
      (fun _ inside => ⟨_, (replaces inside).2⟩) { method with annotations := _ }
    obtain ⟨body, bodyOk, same⟩ := LockPlan.lowerBody_guardedBody (replaced some)
    refine ⟨method, _, _, _, body, on, ?_, static, ?_, bodyOk, same⟩
    · rw [methods, List.getElem?_mapIdx, on]
      rfl
    · exact (congrArg (·.has .static) modifiers).trans static
  · intro place other present there
    have untouched : editsOf (.method place) lowered = [] :=
      List.eq_nil_iff_forall_not_mem.mpr fun _ member => other (replaces member).1
    refine ⟨_, by rw [methods, List.getElem?_mapIdx, there]; rfl, ?_, ?_⟩ <;> rw [revisedMethod, untouched] <;> rfl

/-- A body that is guarded as a plan says, maybe inside of other guards. -/
inductive Guarded (plan : LockPlan) (owner : String) (isStatic : Bool) : List Statement → Prop where
  | here (body : List Statement) : Guarded plan owner isStatic (plan.guardedBody owner isStatic body)
  | inside (outer : LockPlan) {body : List Statement} (inner : Guarded plan owner isStatic body) :
      Guarded plan owner isStatic (outer.guardedBody owner isStatic body)

theorem Guarded.lowered {plan : LockPlan} {owner : String} {isStatic : Bool} {span : Option Span}
    {returnType : JavaType} {body written : List Statement} (guarded : Guarded plan owner isStatic body)
    (lowered : lowerBody span returnType body = .ok written) : Guarded plan owner isStatic written := by
  induction guarded generalizing written with
  | here body =>
    obtain ⟨inner, -, rfl⟩ := LockPlan.lowerBody_guardedBody lowered
    exact .here inner
  | inside outer _ inductionHypothesis =>
    obtain ⟨inner, innerOk, rfl⟩ := LockPlan.lowerBody_guardedBody lowered
    exact .inside outer (inductionHypothesis innerOk)

/-- The method of an annotation is guarded as it says. -/
def LockUse.Guards (owner : String) (type : TypeDecl) (use : LockUse) : Prop :=
  ∃ method, type.methods[use.place]? = some method ∧ method.isStatic = use.isStatic ∧
    Guarded use.plan owner use.isStatic method.body

/-- The field of the lock can hold such a lock. -/
def LockUse.Locks (type : TypeDecl) (use : LockUse) : Prop :=
  ∃ field, type.field? use.plan.lock = some field ∧ use.plan.kind.accepts field.type = true

namespace LockTaken

variable {before after : TypeDecl} {use other : LockUse} (taken : LockTaken before use after)
include taken

theorem guards : use.Guards before.name after := by
  obtain ⟨_, written, _, _, body, -, found, -, static, -, same⟩ := taken.own
  exact ⟨written, found, static, same ▸ .here body⟩

theorem keeps_guards (guards : other.Guards before.name before) : other.Guards before.name after := by
  obtain ⟨method, found, static, guarded⟩ := guards
  by_cases same : other.place = use.place
  · obtain ⟨_, written, _, _, body, there, found', static', kept, bodyOk, new⟩ := taken.own
    rw [same, there] at found
    cases found
    have agree : use.isStatic = other.isStatic := static'.symm.trans static
    refine ⟨written, same ▸ found', kept.trans agree, ?_⟩
    rw [new, agree]
    exact .inside use.plan (guarded.lowered bodyOk)
  · obtain ⟨written, found', static', body⟩ := taken.others other.place same method found
    exact ⟨written, found', static'.trans static, body ▸ guarded⟩

theorem locks : use.Locks after := by
  cases found : before.field? use.plan.lock with
  | some field =>
    obtain ⟨field', found', alike⟩ := taken.adds.kept found
    exact ⟨field', found', alike.type ▸ taken.accepts field found⟩
  | none =>
    have first := LockPlan.find?_fields use.plan before.name use.isStatic List.mem_cons_self
    rw [if_pos rfl] at first
    obtain ⟨field, found', alike⟩ := taken.adds.first_found found first
    exact ⟨field, found', alike.type ▸ LockPlan.accepts_lockField⟩

theorem keeps_locks (locks : other.Locks before) : other.Locks after := by
  obtain ⟨field, found, accepts⟩ := locks
  obtain ⟨field', found', alike⟩ := taken.adds.kept found
  exact ⟨field', found', alike.type ▸ accepts⟩

end LockTaken

/-- The annotation that makes the field of a name: the first that takes the name. -/
def maker? (uses : List LockUse) (name : String) : Option LockUse :=
  uses.find? fun use => decide (name ∈ use.plan.names)

theorem exists_maker {uses : List LockUse} {use : LockUse} {name : String} (member : use ∈ uses)
    (taken : name ∈ use.plan.names) : ∃ first ∈ uses, maker? uses name = some first ∧ name ∈ first.plan.names := by
  have some : (maker? uses name).isSome := List.find?_isSome.mpr ⟨use, member, decide_eq_true taken⟩
  obtain ⟨first, found⟩ := Option.isSome_iff_exists.mp some
  exact ⟨first, List.mem_of_find?_eq_some found, found, by simpa using List.find?_some found⟩

/-- A field that is made as a condition of the lock. -/
def IsConditionOf (owner lock : String) (field : Field) : Prop :=
  ∃ isStatic, field.initial = some (.callOn (LockPlan.memberField owner isStatic lock) "newCondition" [])

section Run

variable {start after : TypeDecl} {uses : List LockUse} (run : Sequence LockStep start uses after)
include run

theorem guards_and_locks {use : LockUse} (member : use ∈ uses) : use.Guards start.name after ∧ use.Locks after := by
  refine (run.holds (·.name = start.name) (fun type use => use.Guards start.name type ∧ use.Locks type) ?_ rfl).2 use
    member
  intro before use after same step
  have taken := step.taken
  rw [← same]
  exact ⟨taken.name, ⟨taken.guards, taken.locks⟩, fun other held =>
    ⟨taken.keeps_guards held.1, taken.keeps_locks held.2⟩⟩

/-- The field that a name finds is the one that the first annotation of the name made. -/
theorem field_of_maker (bare : start.fields = []) {first : LockUse} {name : String} (made : maker? uses name = some first)
    (named : name ∈ first.plan.names) : ∃ field, after.field? name = some field ∧
      AlikeField (if first.plan.lock = name then first.plan.lockField first.isStatic
        else first.plan.conditionField start.name first.isStatic name) field := by
  have adds := run.addsMissing (·.name = start.name) (LockUse.fields start.name) ?_ rfl
  · have free : start.field? name = none := by rw [TypeDecl.field?, bare, List.find?_nil]
    have wanted : (uses.flatMap (LockUse.fields start.name)).find? (·.name == name) =
        (first.fields start.name).find? (·.name == name) :=
      find?_flatMap_of_first (fun _ => LockPlan.names_fields) made
    exact adds.first_found free (wanted.trans (LockPlan.find?_fields _ _ _ named))
  · intro before use after same step
    have taken := step.taken
    rw [← same]
    exact ⟨taken.name, taken.adds⟩

/-- The fields that a guarded body takes are there; each of them is static if the annotation that took its name first
is on a static method, whatever method the body is of. -/
theorem static_of_maker (bare : start.fields = []) {use : LockUse} (member : use ∈ uses) {name : String}
    (taken : name ∈ use.plan.names) : use.Guards start.name after ∧
      ∃ first ∈ uses, maker? uses name = some first ∧
        ∃ field, after.field? name = some field ∧ field.isStatic = first.isStatic := by
  obtain ⟨first, inside, made, named⟩ := exists_maker member taken
  obtain ⟨field, found, alike⟩ := field_of_maker run bare made named
  refine ⟨(guards_and_locks run member).1, first, inside, made, field, found, ?_⟩
  have same := LockPlan.find?_fields first.plan start.name first.isStatic named
  rw [Field.isStatic, alike.modifiers]
  exact LockPlan.isStatic_of_mem_fields (List.mem_of_find?_eq_some same)

/-- Where no name is taken by a static method and by another one, static methods take static fields. -/
theorem static_of_agreement (bare : start.fields = []) {use : LockUse} (member : use ∈ uses) {name : String}
    (taken : name ∈ use.plan.names) (agree : ∀ other ∈ uses, name ∈ other.plan.names → other.isStatic = use.isStatic) :
    ∃ field, after.field? name = some field ∧ field.isStatic = use.isStatic := by
  obtain ⟨-, first, inside, made, field, found, static⟩ := static_of_maker run bare member taken
  have named : name ∈ first.plan.names := by simpa using List.find?_some made
  exact ⟨field, found, static.trans (agree first inside named)⟩

/-- A condition that a guarded body takes is one of its lock exactly if the annotation that took the name of the
condition first has the same lock, and has it under another name. -/
theorem condition_of_lock_iff (bare : start.fields = []) {use : LockUse} (member : use ∈ uses) {condition : String}
    (taken : condition ∈ use.plan.conditions) : use.Guards start.name after ∧ use.Locks after ∧
      ∃ first ∈ uses, maker? uses condition = some first ∧ ∃ field, after.field? condition = some field ∧
        (IsConditionOf start.name use.plan.lock field ↔
          first.plan.lock = use.plan.lock ∧ condition ≠ use.plan.lock) := by
  obtain ⟨first, inside, made, named⟩ := exists_maker member (List.mem_cons_of_mem _ taken)
  obtain ⟨field, found, alike⟩ := field_of_maker run bare made named
  obtain ⟨guards, locks⟩ := guards_and_locks run member
  refine ⟨guards, locks, first, inside, made, field, found, ?_⟩
  have initial := alike.initial
  by_cases lock : first.plan.lock = condition
  · rw [if_pos lock] at initial
    constructor
    · rintro ⟨isStatic, same⟩
      cases initial.symm.trans same
    · rintro ⟨same, other⟩
      exact absurd (lock.symm.trans same) other
  · rw [if_neg lock] at initial
    constructor
    · rintro ⟨isStatic, same⟩
      obtain ⟨receiver, -⟩ := Expression.call.inj (Option.some.inj (initial.symm.trans same))
      have agree : first.plan.lock = use.plan.lock := (Expression.field.inj (Option.some.inj receiver)).2
      exact ⟨agree, agree ▸ Ne.symm lock⟩
    · rintro ⟨same, other⟩
      exact ⟨first.isStatic, same ▸ initial⟩

/-- Where a condition has one lock in all annotations, and no lock has its name, it is taken under its lock. -/
theorem condition_of_agreement (bare : start.fields = []) {use : LockUse} (member : use ∈ uses) {condition : String}
    (taken : condition ∈ use.plan.conditions)
    (agree : ∀ other ∈ uses, condition ∈ other.plan.names →
      other.plan.lock = use.plan.lock ∧ condition ≠ other.plan.lock) :
    ∃ field, after.field? condition = some field ∧ IsConditionOf start.name use.plan.lock field := by
  obtain ⟨-, -, first, inside, made, field, found, belongs⟩ := condition_of_lock_iff run bare member taken
  have named : condition ∈ first.plan.names := by simpa using List.find?_some made
  obtain ⟨same, other⟩ := agree first inside named
  exact ⟨field, found, belongs.mpr ⟨same, same ▸ other⟩⟩

end Run

/-- An annotation that is carried out by itself. -/
def standalone (type : TypeDecl) (note : Annotation) : Setting where
  options := {}
  types := {}
  note := some note
  file := "A.java"
  span := none
  decl := type
  site := none

/-- A class with a method of an object and a static one. -/
def twoMethods : TypeDecl where
  name := "A"
  methods := [{ returnType := .void, name := "a" },
    { modifiers := .ofList [.static], returnType := .void, name := "b" }]

/-- The static method takes the lock that was made for the other one. -/
example : ∃ after, Sequence LockStep twoMethods
    [⟨{ kind := .write, lock := "$readWriteLock" }, 0, false⟩, ⟨{ kind := .write, lock := "$readWriteLock" }, 1, true⟩]
    after ∧ (after.field? "$readWriteLock").map (·.isStatic) = some false :=
  have first := @LockStep.carriedOut (standalone twoMethods (mark "WriteLock")) _ _ _ rfl (by decide) rfl rfl
  have second := @LockStep.carriedOut (standalone _ (mark "WriteLock")) _ _ _ rfl (by decide) rfl rfl
  ⟨_, .step first (.step second (.refl _)), by decide⟩

/-- Signalling a condition while a lock of a name is held. -/
def signalNote (lock condition : String) : Annotation where
  type := .named "Signal"
  members := [⟨"value", .string condition⟩, ⟨"lockName", .string lock⟩]

/-- The condition of one lock is signalled while another is held. -/
example : ∃ after, Sequence LockStep twoMethods
    [⟨{ kind := .exclusive, lock := "l", signal := some "c" }, 0, false⟩,
      ⟨{ kind := .exclusive, lock := "m", signal := some "c" }, 1, true⟩]
    after ∧ (after.field? "c").bind (·.initial) = some (.callOn (.ofSelf "l") "newCondition" []) :=
  have first := @LockStep.carriedOut (standalone twoMethods (signalNote "l" "c")) _ _ _ rfl (by decide) rfl rfl
  have second := @LockStep.carriedOut (standalone _ (signalNote "m" "c")) _ _ _ rfl (by decide) rfl rfl
  ⟨_, .step first (.step second (.refl _)), rfl⟩

end JavaWeave.Weave
