import JavaWeave.Handler.BoundSetter
import JavaWeave.Proofs.Handler.Supply
import JavaWeave.Proofs.Syntax.Mentioned

/-! Under which names bound setters announce changes. A setter passes the constant of its property on; of all fields
whose properties have one constant, the one that is handled first gives it its text. -/

namespace JavaWeave.Weave

open Syntax

namespace ChangeSupport

def fields (support : ChangeSupport) : List Field := [support.supportField, support.lockField]

def methods (support : ChangeSupport) : List Method :=
  [support.getterMethod, support.registration support.add, support.registration support.remove, support.fireMethod]

end ChangeSupport

/-- The constant that a field's property gets where there is none. -/
def constantField (field : Field) : Field where
  modifiers := .ofList [.publicAccess, .static, .final]
  type := .string
  name := propertyConstant field
  initial := some (.string field.name)

/-- An annotation that is carried out: the fields that it is about, and what it asks for. -/
structure SetterUse where
  fields : List Field
  access : Access
  veto : Veto

namespace SetterUse

/-- The kinds of change support that are needed. -/
def supports (use : SetterUse) : List ChangeSupport :=
  propertySupport :: if use.veto != .none then [vetoableSupport] else []

/-- The fields that are added where they are missing. -/
def wanted (use : SetterUse) : List Field := use.supports.flatMap (·.fields) ++ use.fields.map constantField

/-- The methods that may be added. -/
inductive Planned (use : SetterUse) : Method → Prop where
  | support {support : ChangeSupport} {method : Method} (among : support ∈ use.supports)
      (own : method ∈ support.methods) : Planned use method
  | setter {field : Field} (handled : field ∈ use.fields) : Planned use (boundSetter use.access use.veto field)

end SetterUse

/-- Carrying out an annotation without a problem. -/
inductive SetterStep : TypeDecl → SetterUse → TypeDecl → Prop where
  | carriedOut {setting : Setting} {target : Target} {use : SetterUse} {vetoable throwing : Option Bool}
      {after : TypeDecl}
      (access : ((wantedAccess .publicAccess).perform setting).1 = .ok use.access)
      (vetoableOk : ((member (·.bool? "vetoable")).perform setting).1 = .ok vetoable)
      (throwingOk : ((member (·.bool? "throwVetoException")).perform setting).1 = .ok throwing)
      (veto : use.veto = if throwing.getD false then .throws else if vetoable.getD false then .ignores else .none)
      (fields : ((setterFields "BoundSetter" target).perform setting).1 = .ok use.fields)
      (ends : ((boundSetterHandler.handle target).perform setting).1 = .ok (.applied after)) :
      SetterStep setting.decl use after

/-- The edits of an annotation. -/
inductive SetterEdit (use : SetterUse) : Edit → Prop where
  | field {field : Field} (wanted : field ∈ use.wanted) : SetterEdit use (.injectField field)
  | method {method : Method} (planned : use.Planned method) : SetterEdit use (.injectMethod method)

theorem lowerField_wanted {use : SetterUse} {field : Field} (wanted : field ∈ use.wanted) (span : Option Span) :
    ∃ written, lowerField span field = .ok written ∧ AlikeField field written := by
  refine ⟨field.restamp (stampAt span), ?_, rfl, rfl, rfl, rfl⟩
  rcases List.mem_append.mp wanted with support | constant
  · obtain ⟨support, -, own⟩ := List.mem_flatMap.mp support
    simp only [ChangeSupport.fields, List.mem_cons, List.not_mem_nil, or_false] at own
    rcases own with rfl | rfl <;> rfl
  · obtain ⟨field, -, rfl⟩ := List.mem_map.mp constant
    rfl

theorem lowerMethod_planned {use : SetterUse} {method : Method} (planned : use.Planned method) (span : Option Span) :
    lowerMethod span method = .ok (method.restamp (stampAt span)) := by
  cases planned with
  | support among own =>
    simp only [ChangeSupport.methods, List.mem_cons, List.not_mem_nil, or_false] at own
    rcases own with rfl | rfl | rfl | rfl <;> rfl
  | setter handled => cases use.veto <;> rfl

theorem SetterEdit.keepsFields {use : SetterUse} {edit : Edit} (edits : SetterEdit use edit) : edit.KeepsFields := by
  cases edits with
  | field wanted => exact Edit.keepsFields_injectField (lowerField_wanted wanted)
  | method => exact ⟨nofun, nofun⟩

section Steps

variable {setting : Setting} {use : SetterUse}

open Handling

theorem supplies_support {support : ChangeSupport} (among : support ∈ use.supports) :
    Supplies setting (SetterEdit use) support.inject support.fields fun _ _ => True := by
  have field {field : Field} (own : field ∈ support.fields) : SetterEdit use (.injectField field) :=
    .field (List.mem_append_left _ (List.mem_flatMap.mpr ⟨support, among, own⟩))
  have method {method : Method} (own : method ∈ support.methods) : SetterEdit use (.injectMethod method) :=
    .method (.support among own)
  refine .ensureField support.supportField (field (by simp [ChangeSupport.fields])) ?_
  refine .ensureField support.lockField (field (by simp [ChangeSupport.fields])) ?_
  refine .after (.hasMethod fun _ _ => ?_)
  refine .lacking (.injectMethod (method (by simp [ChangeSupport.methods])) fun _ => trivial) ?_
  refine .after (.forIn_plain (fun name member => ?_) fun _ => ?_)
  · refine .after (.hasMethod fun _ _ => ?_)
    refine .lacking (.injectMethod (method ?_) fun _ => trivial) (.pure fun _ => rfl)
    simp only [List.mem_cons, List.not_mem_nil, or_false] at member
    rcases member with rfl | rfl <;> simp [ChangeSupport.methods]
  · refine .after (.hasMethod fun _ _ => .ite (fun _ => .pure fun _ => trivial) fun _ => ?_)
    exact .injectMethod (method (by simp [ChangeSupport.methods])) fun _ => trivial

theorem supplies_constants : Supplies setting (SetterEdit use) (do
    for field in use.fields do
      unless ← hasField (propertyConstant field) do injectField (constantField field)
      let setter := boundSetter use.access use.veto field
      if ← hasMethod setter.name (some 1) then warn .methodExists [setter.name]
      else injectMethod setter
    rebuild) (use.fields.map constantField) (Committed setting) := by
  rw [List.map_eq_flatMap, ← List.append_nil (List.flatMap _ _)]
  refine .bind (.forIn (fun field handled => ?_) fun _ => .rebuild)
  have wanted : constantField field ∈ use.wanted := List.mem_append_right _ (List.mem_map_of_mem handled)
  refine .ensureField (constantField field) (SetterEdit.field wanted) (.after (.hasMethod fun _ _ => ?_))
  refine .ite (fun _ => .after (.warn fun _ => .pure fun _ => rfl)) fun _ => ?_
  exact .after (.injectMethod (.method (.setter handled)) fun _ => .pure fun _ => rfl)

/-- What an annotation asks for is read without any change. -/
theorem read_of_perform {α : Type} {steps : Handling α} {draft : Draft} {value asked : α}
    (reads : (steps.perform setting).1 = .ok asked) (ended : steps.outcome setting {} = (.ok value, draft)) :
    value = asked := by
  change (steps.outcome setting {}).1 = _ at reads
  rw [ended] at reads
  exact Except.ok.inj reads

end Steps

open Handling in
theorem SetterStep.committed {before after : TypeDecl} {use : SetterUse} (step : SetterStep before use after) :
    ∃ (setting : Setting) (draft last : Draft), setting.decl = before ∧ draft.edits = [] ∧
      Supplied before (SetterEdit use) use.wanted draft last ∧ Committed setting (.applied after) last := by
  cases step with
  | @carriedOut setting target use vetoable throwing after access vetoableOk throwingOk veto fields ends =>
  obtain ⟨last, ended⟩ : ∃ last, (boundSetterHandler.handle target).outcome setting {} =
      (.ok (.applied after), last) := ⟨_, Prod.ext ends rfl⟩
  change Handling.outcome (if setting.decl.isInterface = true then _ else _) setting {} = _ at ended
  by_cases interface : setting.decl.isInterface = true
  · rw [if_pos interface] at ended
    cases ended
  rw [if_neg interface] at ended
  obtain ⟨access', _, accessOk, ended⟩ := outcome_bind_ok.mp ended
  obtain ⟨_, _, _, _, _, rfl⟩ := outcome_wantedAccess_ok.mp accessOk
  obtain ⟨vetoable', _, vetoableOk', ended⟩ := outcome_bind_ok.mp ended
  obtain ⟨_, _, _, rfl⟩ := outcome_member_ok.mp vetoableOk'
  obtain ⟨throwing', _, throwingOk', ended⟩ := outcome_bind_ok.mp ended
  obtain ⟨_, _, _, rfl⟩ := outcome_member_ok.mp throwingOk'
  obtain ⟨fields', draft, fieldsOk, ended⟩ := outcome_bind_ok.mp ended
  have nothing : draft.edits = [] := (Ensures.setterFields fun _ => trivial).edits_eq_nil rfl fieldsOk
  rw [read_of_perform access accessOk, read_of_perform vetoableOk vetoableOk', read_of_perform throwingOk throwingOk',
    read_of_perform fields fieldsOk, ← veto] at ended
  refine ⟨setting, draft, last, rfl, nothing, Supplies.holds ?_ ended⟩
  rw [SetterUse.wanted, SetterUse.supports, List.flatMap_cons, List.append_assoc]
  refine .bind ((supplies_support List.mem_cons_self).mono fun _ _ _ => ?_)
  by_cases needed : (use.veto != .none) = true
  · have among : vetoableSupport ∈ use.supports := by simp [SetterUse.supports, needed]
    rw [if_pos needed, if_pos needed, List.flatMap_singleton]
    exact .bind ((supplies_support among).mono fun _ _ _ => supplies_constants)
  · rw [if_neg needed, if_neg needed]
    exact supplies_constants

theorem startsWith_propertyConstant (field : Field) : Text.startsWith (propertyConstant field) "PROP_" = true := by
  rw [Text.startsWith, propertyConstant, String.toList_append]
  exact List.isPrefixOf_iff_prefix.mpr (List.prefix_append ..)

namespace SetterUse

variable (use : SetterUse)

/-- The fields of change support are named apart from all constants. -/
theorem startsWith_support {support : ChangeSupport} (among : support ∈ use.supports) {field : Field}
    (own : field ∈ support.fields) : Text.startsWith field.name "PROP_" = false := by
  have which : support = propertySupport ∨ support = vetoableSupport := by
    rw [supports] at among
    split at among <;> simp_all
  simp only [ChangeSupport.fields, List.mem_cons, List.not_mem_nil, or_false] at own
  rcases which with rfl | rfl <;> rcases own with rfl | rfl <;> decide

theorem find?_wanted (field : Field) : use.wanted.find? (·.name == propertyConstant field) =
    (use.fields.map constantField).find? (·.name == propertyConstant field) := by
  have none : (use.supports.flatMap (·.fields)).find? (·.name == propertyConstant field) = none := by
    refine List.find?_eq_none.mpr fun other listed same => ?_
    obtain ⟨support, among, own⟩ := List.mem_flatMap.mp listed
    have apart := use.startsWith_support among own
    rw [beq_iff_eq.mp same, startsWith_propertyConstant] at apart
    cases apart
  rw [wanted, List.find?_append, none, Option.none_or]

end SetterUse

/-- The first field that has the constant of a field, among those that are handled. -/
def eponym? (uses : List SetterUse) (field : Field) : Option Field :=
  (uses.flatMap (·.fields)).find? fun other => propertyConstant other == propertyConstant field

theorem find?_constant (uses : List SetterUse) (field : Field) :
    (uses.flatMap (·.wanted)).find? (·.name == propertyConstant field) = (eponym? uses field).map constantField :=
  calc (uses.flatMap (·.wanted)).find? (·.name == propertyConstant field)
    _ = (uses.flatMap fun use => use.fields.map constantField).find? (·.name == propertyConstant field) := by
      rw [List.find?_flatMap, List.find?_flatMap]
      exact congrArg (List.findSome? · uses) (funext fun use => use.find?_wanted field)
    _ = ((uses.flatMap (·.fields)).map constantField).find? (·.name == propertyConstant field) := by
      rw [List.map_flatMap]
    _ = (eponym? uses field).map constantField := List.find?_map ..

/-- A method that is written as it was planned, its origin and its annotations aside. -/
def Written (planned method : Method) : Prop :=
  method = { planned with origin := method.origin, annotations := method.annotations }

theorem Written.refl (method : Method) : Written method method := by
  cases method
  rfl

theorem Written.trans {first second third : Method} (before : Written first second) (after : Written second third) :
    Written first third := by
  rw [Written] at before after ⊢
  rw [after, before]

/-- Where the methods of a type come from. -/
def Accounted (old : List Method) (uses : List SetterUse) (method : Method) : Prop :=
  (∃ first ∈ old, Written first method) ∨ ∃ use ∈ uses, ∃ planned, use.Planned planned ∧ Written planned method

theorem methods_of_step {before after : TypeDecl} {use : SetterUse} (step : SetterStep before use after) :
    ∀ method ∈ after.methods, Accounted before.methods [use] method := by
  obtain ⟨setting, draft, last, rfl, nothing, supplied, commits⟩ := step.committed
  have committed := commits after rfl
  have each : ∀ edit ∈ last.edits, SetterEdit use edit := supplied.edits (by simp [nothing])
  have stay : ∀ edit ∈ last.edits, edit.removedMethod? = none := by
    intro edit member
    cases each edit member <;> rfl
  obtain ⟨lowered, loweredOk, methods⟩ := methods_commit committed stay
  intro method member
  rw [methods] at member
  rcases List.mem_append.mp member with old | new
  · obtain ⟨index, inside, rfl⟩ := List.mem_mapIdx.mp old
    have untouched : editsOf (.method index) lowered = [] := by
      refine editsOf_eq_nil fun written member => ?_
      obtain ⟨edit, scheduled, outcome⟩ := exists_of_lowered loweredOk member
      rw [(Edit.lower_cases outcome).1]
      cases each edit scheduled <;> nofun
    refine .inl ⟨_, List.getElem_mem inside, ?_⟩
    rw [revisedMethod, untouched]
    rfl
  · obtain ⟨written, listed, carries⟩ := List.mem_filterMap.mp new
    obtain ⟨edit, scheduled, outcome⟩ := exists_of_lowered loweredOk listed
    cases each edit scheduled with
    | field =>
      obtain ⟨_, _, same⟩ := bind_eq_ok.mp outcome
      cases same
      cases carries
    | @method planned isPlanned =>
      obtain ⟨fragment, lowerOk, same⟩ := bind_eq_ok.mp outcome
      cases same
      cases carries
      cases (lowerMethod_planned isPlanned setting.span).symm.trans lowerOk
      exact .inr ⟨use, List.mem_singleton_self use, planned, isPlanned, rfl⟩

/-- Each method behind some annotations was there before, or one of them added it. -/
theorem methods_of_run {start after : TypeDecl} {uses : List SetterUse} (run : Sequence SetterStep start uses after) :
    ∀ method ∈ after.methods, Accounted start.methods uses method := by
  induction run with
  | refl type => exact fun method member => .inl ⟨method, member, .refl method⟩
  | @step before between after use uses first rest inductionHypothesis =>
    intro method member
    rcases inductionHypothesis method member with ⟨old, there, written⟩ | ⟨other, listed, planned⟩
    · rcases methods_of_step first old there with ⟨older, there, before⟩ | ⟨same, listed, planned, isPlanned, before⟩
      · exact .inl ⟨older, there, before.trans written⟩
      · cases List.mem_singleton.mp listed
        exact .inr ⟨use, List.mem_cons_self, planned, isPlanned, before.trans written⟩
    · exact .inr ⟨other, List.mem_cons_of_mem use listed, planned⟩

/-- The event that a call announces to listeners of changes. -/
def announced? : Node → Option Expression
  | .expression (.call _ name _ (event :: _)) =>
    if name = propertySupport.fire ∨ name = vetoableSupport.fire then some event else none
  | _ => none

/-- The events that a part announces, in the order in which they are written. -/
def announced (node : Node) : List Expression := node.parts.filterMap announced?

theorem announced_eq (node : Node) : announced node = (announced? node).toList ++ node.children.flatMap announced := by
  rw [announced, Node.parts_eq, List.filterMap_cons, List.filterMap_flatMap]
  cases announced? node <;> rfl

/-- A setter announces the constant of its property, to those who may object and to those who are told. -/
theorem announced_boundSetter (access : Access) (veto : Veto) (field : Field) :
    announced (.block (boundSetter access veto field).body) =
      .replicate (if veto = .none then 1 else 2) (.name (propertyConstant field)) := by
  have fires : propertySupport.fire = "firePropertyChange" ∧ vetoableSupport.fire = "fireVetoableChange" := ⟨rfl, rfl⟩
  cases veto <;>
    simp [announced_eq, Node.children, Node.ofStatement, Node.ofExpression, boundSetter, announced?, fires,
      Statement.callOn, Statement.set, Expression.callOn, Expression.set, Expression.ofSelf, Expression.self,
      LocalVariable.final, Parameter.final]

/-- Whatever a method announces is the constant for a text. -/
def Announces (type : TypeDecl) (method : Method) (text : String) : Prop :=
  announced (.block method.body) ≠ [] ∧ ∀ event ∈ announced (.block method.body), ∃ constant,
    event = .name constant.name ∧ type.field? constant.name = some constant ∧ constant.initial = some (.string text)

theorem announces_iff {type : TypeDecl} {method : Method} {access : Access} {veto : Veto} {field constant : Field}
    {name text : String} (setter : Written (boundSetter access veto field) method)
    (found : type.field? (propertyConstant field) = some constant) (initial : constant.initial = some (.string name)) :
    Announces type method text ↔ text = name := by
  have events : announced (.block method.body) =
      .replicate (if veto = .none then 1 else 2) (.name (propertyConstant field)) := by
    rw [setter]
    exact announced_boundSetter access veto field
  have named : constant.name = propertyConstant field := by simpa using List.find?_some found
  have some : Expression.name (propertyConstant field) ∈ announced (.block method.body) := by
    rw [events, List.mem_replicate]
    exact ⟨by split <;> decide, rfl⟩
  constructor
  · rintro ⟨-, each⟩
    obtain ⟨other, same, found', initial'⟩ := each _ some
    rw [← Expression.name.inj same, found] at found'
    cases found'
    cases initial.symm.trans initial'
    rfl
  · rintro rfl
    refine ⟨List.ne_nil_of_mem some, fun event member => ⟨constant, ?_, named ▸ found, initial⟩⟩
    rw [events] at member
    rw [named, List.eq_of_mem_replicate member]

section Run

variable {start after : TypeDecl} {uses : List SetterUse} (run : Sequence SetterStep start uses after)
  (free : ∀ field ∈ start.fields, Text.startsWith field.name "PROP_" = false)
include run free

theorem constant_of_eponym {use : SetterUse} (member : use ∈ uses) {field : Field} (handled : field ∈ use.fields) :
    ∃ first constant, eponym? uses field = some first ∧ after.field? (propertyConstant field) = some constant ∧
      constant.initial = some (.string first.name) := by
  have adds : AddsMissing (uses.flatMap (·.wanted)) start after := by
    refine run.addsMissing (fun _ => True) (·.wanted) (fun _ step => ⟨trivial, ?_⟩) trivial
    obtain ⟨setting, draft, last, rfl, nothing, supplied, commits⟩ := step.committed
    exact .of_commit nothing supplied (fun _ => SetterEdit.keepsFields) (commits _ rfl)
  have none : start.field? (propertyConstant field) = none := by
    refine List.find?_eq_none.mpr fun other listed same => ?_
    have apart := free other listed
    rw [beq_iff_eq.mp same, startsWith_propertyConstant] at apart
    cases apart
  have some : (eponym? uses field).isSome :=
    List.find?_isSome.mpr ⟨field, List.mem_flatMap.mpr ⟨use, member, handled⟩, beq_self_eq_true _⟩
  obtain ⟨first, named⟩ := Option.isSome_iff_exists.mp some
  have wanted := find?_constant uses field
  rw [named] at wanted
  obtain ⟨constant, found, alike⟩ := adds.first_found none wanted
  exact ⟨first, constant, named, found, alike.initial⟩

/-- A method that annotations added belongs to the change support, or it is the setter of a field that was handled. It
announces the name of the first of these fields that has the same constant, which need not be its own. -/
theorem setter_announces {method : Method} (member : method ∈ after.methods) :
    (∃ old ∈ start.methods, Written old method) ∨
      (∃ use ∈ uses, ∃ support ∈ use.supports, ∃ planned ∈ support.methods, Written planned method) ∨
      ∃ use ∈ uses, ∃ field ∈ use.fields, Written (boundSetter use.access use.veto field) method ∧
        ∃ first, eponym? uses field = some first ∧ ∀ text, Announces after method text ↔ text = first.name := by
  rcases methods_of_run run method member with old | ⟨use, listed, planned, isPlanned, written⟩
  · exact .inl old
  · cases isPlanned with
    | @support support _ among own => exact .inr (.inl ⟨use, listed, support, among, planned, own, written⟩)
    | @setter field handled =>
      obtain ⟨first, constant, named, found, initial⟩ := constant_of_eponym run free listed handled
      exact .inr (.inr ⟨use, listed, field, handled, written, first, named, fun _ =>
        announces_iff written found initial⟩)

/-- Where fields of different names have different constants, each setter announces the name of its field. -/
theorem setter_announces_own (apart : ∀ use ∈ uses, ∀ field ∈ use.fields, ∀ use' ∈ uses, ∀ other ∈ use'.fields,
    propertyConstant other = propertyConstant field → other.name = field.name) {use : SetterUse} (listed : use ∈ uses)
    {field : Field} (handled : field ∈ use.fields) {method : Method}
    (written : Written (boundSetter use.access use.veto field) method) : Announces after method field.name := by
  obtain ⟨first, constant, named, found, initial⟩ := constant_of_eponym run free listed handled
  obtain ⟨use', listed', handled'⟩ := List.mem_flatMap.mp (List.mem_of_find?_eq_some named)
  have same : propertyConstant first = propertyConstant field := by simpa using List.find?_some named
  exact (announces_iff written found initial).mpr (apart use listed field handled use' listed' first handled' same).symm

end Run

/-- Two fields whose names are written alike in capitals. -/
def twins : List Field := [{ type := .string, name := "fooBar" }, { type := .string, name := "foo_bar" }]

/-- Both setters pass one constant on, and its text is the name of the first field. -/
example : twins.map propertyConstant = ["PROP_FOO_BAR", "PROP_FOO_BAR"] ∧
    twins.map (fun field => (eponym? [⟨twins, .publicAccess, .none⟩] field).map (·.name)) =
      [some "fooBar", some "fooBar"] := by
  decide +kernel

end JavaWeave.Weave
