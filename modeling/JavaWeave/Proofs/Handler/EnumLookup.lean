import JavaWeave.Handler.EnumId
import JavaWeave.Proofs.Handler.RethrowMessage
import JavaWeave.Proofs.Interpreter.Making
import Mathlib.Algebra.Group.Nat.Defs
import Mathlib.Data.List.Nodup

/-! Finding the constant of an enum by the value of a field. The static part of the enum enters each constant into a
map, and a static method asks that map. Where the values differ from one another, the method undoes reading the field:
it gives back a constant exactly for the value that its field holds, and throws for every other value. -/

namespace JavaWeave.Weave.EnumLookup

open Syntax Interpreter

variable {perform : Performer} {fuel : Nat} {world : World} {id : ClassId} {field : Field} {map : Address}
  {entries : List (Value × Value)}

/-- An entry whose key is new comes last. -/
theorem putEntry_fresh {key : Value} (value : Value) (fresh : ∀ entry ∈ entries, entry.1.key ≠ key.key) :
    putEntry key value entries = entries ++ [(key, value)] := by
  induction entries with
  | nil => rfl
  | cons entry rest inductionHypothesis =>
    obtain ⟨own, others⟩ := List.forall_mem_cons.mp fresh
    have apart : (entry.1.key == key.key) = false := by simpa using own
    rw [putEntry, apart, inductionHypothesis others]
    rfl

section

variable (perform) (there : world.heap.get? map = some (.map entries)) (key value : Value)
include there

theorem dispatch_put :
    ∃ old, dispatch perform (.ref map) "put" [key, value] world =
      (.ok old, world.stored map (.map (putEntry key value entries))) := by
  refine ⟨((entryWith? entries key.key).map (·.2)).getD .null, ?_⟩
  simp only [dispatch, run_bind, run_heap, there]
  rfl

theorem dispatch_containsKey :
    dispatch perform (.ref map) "containsKey" [key] world =
      (.ok (.bool (entryWith? entries key.key).isSome), world) := by
  simp only [dispatch, run_bind, run_heap, there]
  rfl

theorem dispatch_get :
    dispatch perform (.ref map) "get" [key] world =
      (.ok (((entryWith? entries key.key).map (·.2)).getD .null), world) := by
  simp only [dispatch, run_bind, run_heap, there]
  rfl

end

theorem length_upper_pos (c : Char) : 0 < (Text.upper c).length := by
  have nonempty : ∀ entry ∈ Text.upperSequences, entry.2 ≠ [] := by decide +kernel
  rw [Text.upper]
  split
  · next codes found =>
    obtain ⟨front, back, sequences, -⟩ := List.lookup_eq_some_iff.mp found
    rw [List.length_map]
    exact List.length_pos_iff.mpr (nonempty (c.toNat, codes) (by simp [sequences]))
  · exact Nat.one_pos

theorem length_constantChars (afterSmall : Bool) (name : List Char) :
    name.length ≤ (Names.constantChars afterSmall name).length := by
  induction name generalizing afterSmall with
  | nil => exact Nat.zero_le _
  | cons c rest inductionHypothesis =>
    have first := length_upper_pos c
    have others := inductionHypothesis (Text.isLower c || c.isDigit)
    rw [Names.constantChars, List.length_append, List.length_append, List.length_cons]
    omega

theorem toList_lookupName (field : Field) : (lookupName field).toList =
    '$' :: ((Names.constantCase field.name).toList ++ ['_', 'L', 'O', 'O', 'K', 'U', 'P']) := by
  simp [lookupName]

/-- The map has a longer name than the field. -/
theorem lookupName_ne (field : Field) : lookupName field ≠ field.name := by
  intro same
  have longer := length_constantChars false field.name.toList
  have lengths := congrArg (·.toList.length) same
  simp only [toList_lookupName, Names.constantCase, String.toList_ofList, List.length_cons, List.length_append]
    at lengths
  omega

theorem lookupName_ne_super (field : Field) : lookupName field ≠ "super" := by
  intro same
  have first := congrArg (·.toList.head?) same
  rw [toList_lookupName] at first
  exact absurd (show some '$' = "super".toList.head? from first) (by decide)

theorem lookupName_ne_value (field : Field) : lookupName field ≠ "$value" := by
  intro same
  have last := congrArg (·.toList.getLast?) same
  rw [toList_lookupName, ← List.cons_append, List.getLast?_append] at last
  exact absurd (show some 'P' = "$value".toList.getLast? from last) (by decide)

/-- The static part of an enum has the map. -/
structure HasLookup (classes : ClassTable) (id : ClassId) (field : Field) (map : Address) : Prop where
  isEnum : (classes.get id).decl.isEnum = true
  begun : (classes.get id).state.stage ≠ .pending
  owns : classes.staticOwner? id (lookupName field) = some id
  held : (classes.get id).state.statics.lookup (lookupName field) = some (.ref map)

/-- The names that the generated code writes are plain words. -/
structure Plain (owner : JavaType) (field : Field) : Prop where
  type : Text.split '.' owner.simpleName = [owner.simpleName]
  ordinary : owner.simpleName ≠ "super"
  map : Text.split '.' (lookupName field) = [lookupName field]
  percent : '%' ∉ owner.simpleName.toList ∧ '%' ∉ field.name.toList

/-- No field or type that code of the enum sees takes the name of the enum away from it. -/
structure NamesEnum (classes : ClassTable) (id : ClassId) (owner : JavaType) : Prop where
  free : staticInScope? classes { type := id } owner.simpleName = none
  means : classes.resolve (some id) owner.simpleName = some (.user id)

/-- Nor the names of the library that the finder writes. -/
structure NamesLibrary (classes : ClassTable) (id : ClassId) : Prop where
  free : staticInScope? classes { type := id } "java" = none
  text : resolveType classes { type := id } "java.lang.String" = some (.library "String")
  exception : resolveType classes { type := id } "java.lang.IllegalArgumentException" =
    some (.library "IllegalArgumentException")

/-- Static code of the enum, in which no local variable or class takes away a name that the block writes. What an
earlier block declares is seen by the later ones. -/
structure Clear (frame : Frame) (id : ClassId) (owner : JavaType) (field : Field) : Prop where
  type : frame.type = id
  outside : frame.self = none
  map : frame.get? (lookupName field) = none
  unbound : frame.get? owner.simpleName = none
  untyped : frame.type? owner.simpleName = none

/-- A class that was begun is not begun again. -/
def Prepares (perform : Performer) : Prop :=
  ∀ id world, (world.classes.get id).state.stage ≠ .pending → perform (.prepare id) world = (.ok (), world)

/-- Code of the enum reaches the map by its name. -/
theorem HasLookup.receiver {frame : Frame} {owner : JavaType} (has : HasLookup world.classes id field map)
    (plain : Plain owner field) (prepares : Prepares perform) (type : frame.type = id) (outside : frame.self = none)
    (free : frame.get? (lookupName field) = none) :
    outcome (asReceiver perform (.name (lookupName field)) (eval perform (.name (lookupName field)))) (frame, world) =
      (.ok (.value (.ref map)), (frame, world)) := by
  have claimed : staticInScope? world.classes frame (lookupName field) = some id := by
    rw [staticInScope?, ClassTable.lexical, List.findSome?_cons, type, has.owns]
  refine outcome_receiverHeld plain.map ?_
  rw [outcome_lookupStatic outside free claimed (prepares id world has.begun), has.held]

/-- The entries of a map after constants were put into it. -/
def enter (value : Address → Value) (entries : List (Value × Value)) (constants : List Address) :
    List (Value × Value) :=
  constants.foldl (fun entries constant => putEntry (value constant) (.ref constant) entries) entries

/-- Constants with values of their own have an entry each. -/
theorem enter_distinct {value : Address → Value} {constants : List Address}
    (distinct : (constants.map fun constant => (value constant).key).Nodup)
    (fresh : ∀ constant ∈ constants, ∀ entry ∈ entries, entry.1.key ≠ (value constant).key) :
    enter value entries constants = entries ++ constants.map fun constant => (value constant, .ref constant) := by
  induction constants generalizing entries with
  | nil => exact (List.append_nil entries).symm
  | cons first rest inductionHypothesis =>
    obtain ⟨own, others⟩ := List.nodup_cons.mp distinct
    obtain ⟨free, frees⟩ := List.forall_mem_cons.mp fresh
    have stays : ∀ constant ∈ rest, ∀ entry ∈ entries ++ [(value first, .ref first)],
        entry.1.key ≠ (value constant).key := by
      intro constant member entry listed
      rcases List.mem_append.mp listed with before | new
      · exact frees constant member entry before
      · obtain rfl := List.mem_singleton.mp new
        exact fun same => own (List.mem_map.mpr ⟨constant, member, same.symm⟩)
    rw [enter, List.foldl_cons, putEntry_fresh _ free]
    exact (inductionHypothesis others stays).trans (by simp)

/-- The frame of a pass for a constant. -/
def passFrame (frame : Frame) (constant : Value) : Frame := frame.push.declare "$value" constant

theorem get?_passFrame (frame : Frame) (constant : Value) (name : String) :
    (passFrame frame constant).get? name = if name = "$value" then some constant else frame.get? name := by
  by_cases same : name = "$value" <;>
    simp [passFrame, Frame.get?_eq, Frame.push, Frame.declare, Frame.inInnermost, Frame.lookupIn_cons, Bindings.put,
      Bindings.lookup_entry, same]

section Filling

variable {owner : JavaType} {value : Address → Value} {frame : Frame} (has : HasLookup world.classes id field map)
  (clear : Clear frame id owner field) (plain : Plain owner field) (prepares : Prepares perform)
include has clear plain prepares

/-- One constant is put into the map under what its field holds. -/
theorem outcome_enter {constant : Address} (there : world.heap.get? map = some (.map entries))
    (reads : world.field? constant field.name = some (value constant)) :
    outcome (exec (.ofPerformer perform) fuel none (.callOn (.name (lookupName field)) "put"
        [.field (.name "$value") field.name, .name "$value"])) (passFrame frame (.ref constant), world) =
      (.ok .normal, (passFrame frame (.ref constant),
        world.stored map (.map (putEntry (value constant) (.ref constant) entries)))) := by
  have held : (passFrame frame (.ref constant)).get? "$value" = some (.ref constant) := by
    rw [get?_passFrame, if_pos rfl]
  have free : (passFrame frame (.ref constant)).get? (lookupName field) = none := by
    rw [get?_passFrame, if_neg (lookupName_ne_value field), clear.map]
  have type : (passFrame frame (.ref constant)).type = id := clear.type
  have given : outcome (evalAll perform [.field (.name "$value") field.name, .name "$value"])
      (passFrame frame (.ref constant), world) =
        (.ok [value constant, .ref constant], (passFrame frame (.ref constant), world)) := by
    rw [outcome_evalAll_cons (outcome_fieldOfLocal (by cbv) held reads),
      outcome_evalAll_single (outcome_evalLocal held), proceed_ok]
  obtain ⟨old, put⟩ := dispatch_put perform there (value constant) (.ref constant)
  have called : outcome (eval perform (.callOn (.name (lookupName field)) "put"
      [.field (.name "$value") field.name, .name "$value"])) (passFrame frame (.ref constant), world) =
        (.ok old, (passFrame frame (.ref constant),
          world.stored map (.map (putEntry (value constant) (.ref constant) entries)))) := by
    rw [outcome_callReceived (asName?_ne_super (lookupName_ne_super field))
      (has.receiver plain prepares type clear.outside free) given, outcome_liftM, callOn, put]
  simp only [Statement.callOn, exec_expression, Meaning.ofPerformer, outcome_bind, outcome_discard, called, proceed_ok,
    outcome_pure]

/-- What the loop does for each constant. -/
def pass (perform : Performer) (fuel : Nat) (owner : JavaType) (field : Field) (constant : Value) :
    Code (Option Flow) := do
  modifyFrame (.declare "$value" (coerce owner constant))
  afterPass none <$> exec (.ofPerformer perform) fuel none (.callOn (.name (lookupName field)) "put"
    [.field (.name "$value") field.name, .name "$value"])

/-- The loop puts all constants into the map, one after the other. -/
theorem outcome_enterAll {constants : List Address} {start : Frame} (begins : start.pop = frame)
    (declares : ∀ constant, start.declare "$value" constant = passFrame frame constant)
    (there : world.heap.get? map = some (.map entries))
    (reads : ∀ constant ∈ constants, world.field? constant field.name = some (value constant)) :
    ∃ last, last.pop = frame ∧
      outcome (repeatEach (pass perform fuel owner field) (constants.map .ref)) (start, world) =
        (.ok .normal, (last, world.stored map (.map (enter value entries constants)))) := by
  induction constants generalizing start world entries with
  | nil =>
    refine ⟨start, begins, ?_⟩
    rw [enter, List.foldl_nil, World.stored_same there]
    rfl
  | cons first rest inductionHypothesis =>
    obtain ⟨own, others⟩ := List.forall_mem_cons.mp reads
    let entered := putEntry (value first) (.ref first) entries
    have passed : outcome (pass perform fuel owner field (.ref first)) (start, world) =
        (.ok none, (passFrame frame (.ref first), world.stored map (.map entered))) := by
      rw [pass, outcome_bind, outcome_modifyFrame, proceed_ok, coerce_ref, declares, outcome_map,
        outcome_enter has clear plain prepares there own]
      rfl
    have begins' : (passFrame frame (.ref first)).pop = frame := rfl
    have has' : HasLookup (world.stored map (.map entered)).classes id field map := has
    have there' : (world.stored map (.map entered)).heap.get? map = some (.map entered) := by
      rw [World.get?_stored there, if_pos rfl]
    have reads' : ∀ constant ∈ rest, (world.stored map (.map entered)).field? constant field.name =
        some (value constant) :=
      fun constant member => (World.field?_stored there rfl rfl constant field.name).trans (others constant member)
    obtain ⟨last, ends, runs⟩ : ∃ last, last.pop = frame ∧
        outcome (repeatEach (pass perform fuel owner field) (rest.map .ref))
            (passFrame frame (.ref first), world.stored map (.map entered)) =
          (.ok .normal, (last, (world.stored map (.map entered)).stored map (.map (enter value entered rest)))) :=
      inductionHypothesis has' begins' (fun _ => rfl) there' reads'
    refine ⟨last, ends, ?_⟩
    rw [List.map_cons, repeatEach, outcome_bind, passed, proceed_ok, runs, World.stored_stored]
    rfl

/-- The constants of the enum, as an array. -/
theorem outcome_values (names : NamesEnum world.classes id owner) :
    outcome (eval perform (.callOn (.name owner.simpleName) "values" [])) (frame.push, world) =
      (.ok (.ref world.frontier), (frame.push,
        world.grown (.array (world.classes.get id).state.constants))) := by
  have received : outcome (asReceiver perform (.name owner.simpleName) (eval perform (.name owner.simpleName)))
      (frame.push, world) = (.ok (.type (.user id)), (frame.push, world)) := by
    have unbound : frame.push.get? owner.simpleName = none := by rw [Frame.get?_push, clear.unbound]
    have untyped : frame.push.type? owner.simpleName = none := clear.untyped
    refine outcome_receiverType ?_ ?_
    · have unclaimed : staticInScope? world.classes frame.push owner.simpleName = none := by
        rw [← names.free, ← clear.type]
        rfl
      rw [plain.type, List.headD_cons]
      exact outcome_lookupStatic_none clear.outside unbound unclaimed
    · have type : frame.push.type = id := clear.type
      have meant : resolveType world.classes frame.push owner.simpleName = some (.user id) := by
        rw [resolveType_simple world.classes untyped plain.type, type, names.means]
      exact meant
  have answered : enumMethod? perform (world.classes.get id) id "values" [] = some (do
      perform (.prepare id)
      allocate (.array (← classInfo id).state.constants)) := by
    rw [enumMethod?, has.isEnum]
    rfl
  rw [outcome_callReceived (asName?_ne_super plain.ordinary) received (outcome_evalAll_nil _ _), outcome_liftM, callOn,
    invokeStatic, run_bind, run_classInfo]
  simp only [answered, run_bind, prepares id world has.begun, run_classInfo, run_allocate]

/-- The block that fills the map enters each constant under what its field holds. -/
theorem outcome_filling {constants : List Address} (names : NamesEnum world.classes id owner)
    (there : world.heap.get? map = some (.map entries))
    (listed : (world.classes.get id).state.constants = constants.map .ref)
    (reads : ∀ constant ∈ constants, world.field? constant field.name = some (value constant)) :
    outcome (execAll (.ofPerformer perform) fuel (lookupFilling owner field).body) (frame, world) =
      (.ok .normal, (frame, (world.grown (.array (constants.map .ref))).stored map
        (.map (enter value entries constants)))) := by
  let listing := world.grown (.array (constants.map .ref))
  have has' : HasLookup listing.classes id field map := has
  have reads' : ∀ constant ∈ constants, listing.field? constant field.name = some (value constant) :=
    fun constant member => World.field?_grown_of_some _ _ (reads constant member) _
  obtain ⟨last, ends, runs⟩ : ∃ last, last.pop = frame ∧
      outcome (repeatEach (pass perform fuel owner field) (constants.map .ref)) (frame.push, listing) =
        (.ok .normal, (last, listing.stored map (.map (enter value entries constants)))) :=
    outcome_enterAll has' clear plain prepares rfl (fun _ => rfl) (World.get?_grown_of_some there _) reads'
  have items : (world.grown (.array (constants.map .ref))).heap.items? (.ref world.frontier) =
      some (constants.map .ref) := by
    have made := World.get?_grown world world.frontier (.array (constants.map .ref))
    rw [if_pos rfl] at made
    exact congrArg (·.bind Object.items?) made
  have source := outcome_values has clear plain prepares names
  rw [listed] at source
  have walked : outcome (iterate (.ofPerformer perform) fuel
      { modifiers := .ofList [.final], type := owner, name := "$value" } (.callOn (.name owner.simpleName) "values" [])
      (afterPass none <$> exec (.ofPerformer perform) fuel none (.callOn (.name (lookupName field)) "put"
        [.field (.name "$value") field.name, .name "$value"]))) (frame.push, world) =
      (.ok .normal, (last, listing.stored map (.map (enter value entries constants)))) := by
    rw [iterate, outcome_bind, show (Meaning.ofPerformer perform).eval = eval perform from rfl, source, proceed_ok,
      outcome_bind, outcome_nonNull rfl, proceed_ok, outcome_bind, outcome_heap, proceed_ok]
    simp only [items]
    exact runs
  rw [lookupFilling, outcome_execAll_single, exec_forEach, outcome_inScope, Point.push, walked]
  exact congrArg (fun frame => (Except.ok Flow.normal, (frame, _))) ends

end Filling

/-- The frame in which the finder runs for a key. -/
def askedFrame (id : ClassId) (owner : JavaType) (field : Field) (key : Value) : Frame :=
  (staticFrame id (lookupMethod owner field)).declare field.name key

theorem get?_askedFrame {owner : JavaType} (key : Value) (name : String) :
    (askedFrame id owner field key).get? name = if name = field.name then some key else none := by
  simp [askedFrame, staticFrame, Frame.get?_eq, Frame.declare, Frame.inInnermost, Frame.lookupIn_cons, Bindings.put,
    Bindings.lookup_entry]

/-- The message about a key that no constant has. -/
def missing (owner : JavaType) (field : Field) (text : String) : String :=
  "Enumeration '" ++ owner.simpleName ++ "' has no value for '" ++ field.name ++ " = " ++ text ++ "'"

/-- The exception about it. -/
def missingException (owner : JavaType) (field : Field) (text : String) : Object :=
  .throwable { type := "IllegalArgumentException", message := some (missing owner field text) }

/-- A question to the map about the key. -/
def question (field : Field) (called : String) : Expression :=
  .callOn (.name (lookupName field)) called [.name field.name]

/-- The message as it is written by the finder, with a slot for the key. -/
def template (owner : JavaType) (field : Field) : String :=
  "Enumeration '" ++ owner.simpleName ++ "' has no value for '" ++ field.name ++ " = %s'"

/-- What the finder throws. -/
def complaint (owner : JavaType) (field : Field) : Expression :=
  .make (.named "java.lang.IllegalArgumentException")
    [.callOn (.name "java.lang.String") "format" [.string (template owner field), .name field.name]]

theorem body_lookupMethod (owner : JavaType) (field : Field) : (lookupMethod owner field).body =
    [.whenever (question field "containsKey") (.returns (some (question field "get"))),
      .throws (complaint owner field)] := rfl

/-- The message is written with the text of the key in its slot. -/
theorem run_formatted {owner : JavaType} {key : Value} {text : String} (plain : Plain owner field)
    (tells : perform (.text key) world = (.ok text, world)) :
    formatted perform (.str (template owner field)) [key] world = (.ok (.str (missing owner field text)), world) := by
  obtain ⟨type, name⟩ := plain.percent
  obtain ⟨front, written⟩ : ∃ front, front =
      "Enumeration '" ++ owner.simpleName ++ "' has no value for '" ++ field.name ++ " = " := ⟨_, rfl⟩
  have slot : " = %s'".toList = " = ".toList ++ ['%', 's', '\''] := by decide
  have whole : template owner field =
      "Enumeration '" ++ owner.simpleName ++ "' has no value for '" ++ field.name ++ " = %s'" := rfl
  have split : (template owner field).toList = front.toList ++ ['%', 's', '\''] := by
    simp only [whole, written, String.toList_append, slot, List.append_assoc]
  have bare : '%' ∉ front.toList := by
    simp only [written, String.toList_append, List.mem_append, type, name, or_false, not_or]
    decide
  have filled : fillSlots (front.toList ++ ['%', 's', '\'']) [text] =
      .ok (front.toList ++ (text.toList ++ ['\''])) := by
    rw [fillSlots_keep bare]
    rfl
  have texts : [key].mapM (fun value => perform (.text value)) world = (.ok [text], world) := by
    rw [List.mapM_cons, List.mapM_nil, run_bind, tells]
    rfl
  rw [formatted, run_bind, needed]
  have shown : String.ofList (front.toList ++ (text.toList ++ ['\''])) = missing owner field text := by
    have quote : "'".toList = ['\''] := by decide
    have parts : missing owner field text = front ++ text ++ "'" := by
      rw [written]
      rfl
    rw [parts, ← String.toList_inj, String.toList_ofList, String.toList_append, String.toList_append, quote,
      List.append_assoc]
  simp only [Value.str?, run_pure, run_bind, texts, split, filled, shown]

section Finding

variable {owner : JavaType} {key : Value} (has : HasLookup world.classes id field map) (plain : Plain owner field)
  (prepares : Prepares perform)
include has plain prepares

/-- What the map answers about the key. -/
theorem outcome_question {called : String} {answer : Value}
    (answered : dispatch perform (.ref map) called [key] world = (.ok answer, world)) :
    outcome ((Meaning.ofPerformer perform).eval (question field called)) (askedFrame id owner field key, world) =
      (.ok answer, (askedFrame id owner field key, world)) := by
  have free : (askedFrame id owner field key).get? (lookupName field) = none := by
    rw [get?_askedFrame, if_neg (lookupName_ne field)]
  have held : (askedFrame id owner field key).get? field.name = some key := by rw [get?_askedFrame, if_pos rfl]
  rw [show (Meaning.ofPerformer perform).eval = eval perform from rfl, question,
    outcome_callReceived (asName?_ne_super (lookupName_ne_super field)) (has.receiver plain prepares rfl rfl free)
      (outcome_evalAll_single (outcome_evalLocal held)), outcome_liftM, callOn, answered]

variable (there : world.heap.get? map = some (.map entries))
include there

/-- The finder gives what the map has under the key. -/
theorem outcome_finder_some {entry : Value × Value} (found : entryWith? entries key.key = some entry) :
    outcome (execAll (.ofPerformer perform) fuel (lookupMethod owner field).body)
        (askedFrame id owner field key, world) =
      (.ok (.returns entry.2), (askedFrame id owner field key, world)) := by
  have asked := dispatch_containsKey perform there key
  have got := dispatch_get perform there key
  rw [found] at asked got
  have contains := outcome_question has plain prepares asked
  have gives := outcome_question has plain prepares got
  rw [body_lookupMethod, outcome_execAll_cons, outcome_whenever_true contains, outcome_returns gives]
  rfl

/-- It throws where the map has nothing. -/
theorem outcome_finder_none {text : String} (names : NamesLibrary world.classes id) (apart : field.name ≠ "java")
    (absent : entryWith? entries key.key = none) (tells : perform (.text key) world = (.ok text, world)) :
    outcome (execAll (.ofPerformer perform) fuel (lookupMethod owner field).body)
        (askedFrame id owner field key, world) =
      (.error (.thrown (.ref world.frontier)),
        (askedFrame id owner field key, world.grown (missingException owner field text))) := by
  have asked := dispatch_containsKey perform there key
  rw [absent] at asked
  have contains := outcome_question has plain prepares asked
  have first : (Text.split '.' "java.lang.String").headD "java.lang.String" = "java" := by cbv
  have unbound : outcome (lookup perform "java") (askedFrame id owner field key, world) =
      (.ok none, (askedFrame id owner field key, world)) :=
    outcome_lookupStatic_none rfl (by rw [get?_askedFrame, if_neg (Ne.symm apart)]) names.free
  have held : (askedFrame id owner field key).get? field.name = some key := by rw [get?_askedFrame, if_pos rfl]
  have given : outcome (evalAll perform [.string (template owner field), .name field.name])
      (askedFrame id owner field key, world) =
        (.ok [.str (template owner field), key], (askedFrame id owner field key, world)) := by
    rw [Expression.string, outcome_evalAll_cons (outcome_evalLiteral ..),
      outcome_evalAll_single (outcome_evalLocal held), proceed_ok]
    rfl
  have message : outcome (eval perform (.callOn (.name "java.lang.String") "format"
      [.string (template owner field), .name field.name])) (askedFrame id owner field key, world) =
        (.ok (.str (missing owner field text)), (askedFrame id owner field key, world)) := by
    have format : callLibrary perform "String" "format" [.str (template owner field), key] =
        formatted perform (.str (template owner field)) [key] := rfl
    rw [outcome_callLibrary (by decide) (by rw [first, unbound]) names.text given, outcome_liftM, format,
      run_formatted plain tells]
  have made : outcome (eval perform (complaint owner field)) (askedFrame id owner field key, world) =
      (.ok (.ref world.frontier),
        (askedFrame id owner field key, world.grown (missingException owner field text))) := by
    have meant : resolveType world.classes (askedFrame id owner field key)
        (JavaType.named "java.lang.IllegalArgumentException").name = some (.library "IllegalArgumentException") :=
      names.exception
    rw [complaint, outcome_makeThrowable (outcome_evalAll_single message) meant (by decide +kernel)]
    rfl
  rw [body_lookupMethod, outcome_execAll_cons, outcome_whenever_false contains, andThen_normal,
    outcome_execAll_single, outcome_throws made]

end Finding

/-- Whether a value is one that a field of an id may hold: a whole number, a character, a truth value or a text. -/
def IsKey (type : JavaType) : Value → Prop
  | .int _ => type = .named "int"
  | .long _ => type = .named "long"
  | .char c => type = .named "char" ∧ c.toNat < 2 ^ 16
  | .bool _ => type = .named "boolean"
  | .str _ | .null => type.isPrimitive = false ∧ type.simpleName = "String"
  | .double _ | .ref _ => False

namespace IsKey

variable {type : JavaType} {key other : Value}

/-- A parameter of the type holds such a value as it is. -/
theorem coerce (isKey : IsKey type key) : coerce type key = key := by
  cases key with
  | int value => exact (show OfKind type (.int value) from isKey).coerce
  | long value => exact (show OfKind type (.long value) from isKey).coerce
  | bool value => exact (show OfKind type (.bool value) from isKey).coerce
  | char c =>
    obtain ⟨rfl, small⟩ := isKey
    have code : (Int32.ofNat c.toNat).toInt64.toUInt64.toNat % Nat.pow 2 16 = c.toNat := by
      have bits : (Int32.ofNat c.toNat).toInt64.toUInt64.toNat = ((BitVec.ofNat 32 c.toNat).signExtend 64).toNat := rfl
      have positive : (BitVec.ofNat 32 c.toNat).msb = false := by
        rw [BitVec.msb_eq_false_iff_two_mul_lt, BitVec.toNat_ofNat]
        omega
      rw [bits, BitVec.signExtend_eq_setWidth_of_msb_false positive, BitVec.toNat_setWidth, BitVec.toNat_ofNat,
        Nat.pow_eq]
      omega
    have converted : Interpreter.coerce (.named "char") (.char c) =
        .char (Char.ofNat ((Int32.ofNat c.toNat).toInt64.toUInt64.toNat % Nat.pow 2 16)) := rfl
    rw [converted, code, Char.ofNat_toNat]
  | str | null =>
    obtain ⟨object, -⟩ := isKey
    rw [Interpreter.coerce, object, Bool.false_and, if_neg Bool.false_ne_true]
  | double | ref => exact isKey.elim

/-- Such values of one type are the same key only if they are the same. -/
theorem eq_of_key (isKey : IsKey type key) (isKey' : IsKey type other) (same : key.key = other.key) : key = other := by
  -- Keys of different forms differ; only whole numbers of the two widths share a form, and the type tells them apart.
  cases key <;> cases other <;>
    simp only [Value.key, reduceCtorEq, Key.bool.injEq, Key.whole.injEq, Key.char.injEq, Key.str.injEq] at same
  case null.null => rfl
  case int.int value value' => rw [← Int32.toInt32_toInt64 value, same, Int32.toInt32_toInt64]
  case int.long | long.int => exact absurd (isKey.symm.trans isKey') (by decide)
  case bool.bool | long.long | char.char | str.str => rw [same]
  case double.double | ref.ref => exact isKey.elim

/-- The text of such a value is told without running code of the program. -/
theorem exists_text (isKey : IsKey type key) :
    ∃ text, ∀ patience world, performer (patience + 1) (.text key) world = (.ok text, world) := by
  cases key with
  | double | ref => exact isKey.elim
  | _ => exact ⟨_, fun _ _ => rfl⟩

end IsKey

/-- What a map that has one entry for each constant tells about a key. -/
theorem entryWith?_constants {type : JavaType} {value : Address → Value} {constants : List Address} {key : Value}
    (kinds : ∀ constant ∈ constants, IsKey type (value constant)) (isKey : IsKey type key) :
    match entryWith? (constants.map fun constant => (value constant, .ref constant)) key.key with
    | some entry => ∃ constant ∈ constants, entry = (key, .ref constant) ∧ value constant = key
    | none => ∀ constant ∈ constants, value constant ≠ key := by
  split
  · next entry found =>
    obtain ⟨constant, member, rfl⟩ := List.mem_map.mp (List.mem_of_find?_eq_some found)
    have same : (value constant).key = key.key := by simpa using List.find?_some found
    have equal := (kinds constant member).eq_of_key isKey same
    exact ⟨constant, member, by rw [equal], equal⟩
  · next absent =>
    intro constant member equal
    have other := List.find?_eq_none.mp absent _ (List.mem_map.mpr ⟨constant, member, rfl⟩)
    simp [equal] at other

/-- The map of an enum has one entry for each constant, with the value of its field. -/
structure Entered (world : World) (id : ClassId) (field : Field) (map : Address) (constants : List Address)
    (value : Address → Value) : Prop where
  has : HasLookup world.classes id field map
  there : world.heap.get? map = some (.map (constants.map fun constant => (value constant, .ref constant)))
  kinds : ∀ constant ∈ constants, IsKey field.type (value constant)
  distinct : (constants.map value).Nodup

theorem prepares_performer (patience : Nat) : Prepares (performer (patience + 1)) := fun _ _ => prepare_begun

/-- Once the block has filled the empty map, the map has one entry for each constant. -/
theorem entered_filling {owner : JavaType} {value : Address → Value} {constants : List Address}
    {frame : Frame} (has : HasLookup world.classes id field map) (clear : Clear frame id owner field)
    (plain : Plain owner field) (prepares : Prepares perform) (names : NamesEnum world.classes id owner)
    (empty : world.heap.get? map = some (.map []))
    (listed : (world.classes.get id).state.constants = constants.map .ref)
    (reads : ∀ constant ∈ constants, world.field? constant field.name = some (value constant))
    (kinds : ∀ constant ∈ constants, IsKey field.type (value constant)) (distinct : (constants.map value).Nodup) :
    ∃ after, outcome (execAll (.ofPerformer perform) fuel (lookupFilling owner field).body) (frame, world) =
        (.ok .normal, (frame, after)) ∧ Entered after id field map constants value ∧
      after.classes = world.classes ∧ after.depth = world.depth := by
  have keys : (constants.map fun constant => (value constant).key).Nodup := by
    rw [show (fun constant => (value constant).key) = Value.key ∘ value from rfl, ← List.map_map]
    refine List.Nodup.map_on ?_ distinct
    simp only [List.forall_mem_map]
    exact fun first member other member' same => (kinds first member).eq_of_key (kinds other member') same
  refine ⟨_, outcome_filling has clear plain prepares names empty listed reads, ⟨has, ?_, kinds, distinct⟩, rfl, rfl⟩
  rw [World.get?_stored (World.get?_grown_of_some empty _), if_pos rfl, enter_distinct keys (by simp), List.nil_append]

/-- The finder undoes reading the field: it gives a constant exactly for the value that its field holds, and throws for
every value that no constant has. -/
def Inverts (world : World) (id : ClassId) (owner : JavaType) (field : Field) (constants : List Address)
    (value : Address → Value) : Prop :=
  ∀ key, IsKey field.type key → ∀ patience, ∃ result after,
    performer (patience + 2) (.invoke id (lookupMethod owner field) none [key]) world = (result, after) ∧
    (∀ constant ∈ constants, result = .ok (.ref constant) ↔ key = value constant) ∧
    ((∀ constant ∈ constants, key ≠ value constant) →
      ∃ text, performer (patience + 1) (.text key) world = (.ok text, world) ∧
        result = .error (.thrown (.ref world.frontier)) ∧ after = world.grown (missingException owner field text))

theorem Entered.inverts {owner : JavaType} {value : Address → Value} {constants : List Address}
    (entered : Entered world id field map constants value) (plain : Plain owner field)
    (names : NamesLibrary world.classes id) (apart : field.name ≠ "java") (room : world.depth < depthLimit) :
    Inverts world id owner field constants value := by
  intro key isKey patience
  let inside := world.atDepth (world.depth + 1)
  have bound : outcome (bindParameters (lookupMethod owner field).parameters [key])
      (staticFrame id (lookupMethod owner field), inside) = (.ok (), (askedFrame id owner field key, inside)) := by
    have parameters : (lookupMethod owner field).parameters = [.final field.type field.name] := rfl
    rw [parameters, outcome_bindParameter, isKey.coerce, askedFrame]
  have called {result : Except Unwind Flow} {after : World}
      (ends : outcome (execAll (.ofPerformer (performer (patience + 1))) (patience + 1) (lookupMethod owner field).body)
        (askedFrame id owner field key, inside) = (result, (askedFrame id owner field key, after))) :
      performer (patience + 2) (.invoke id (lookupMethod owner field) none [key]) world =
        (callResult owner result, after.atDepth (after.depth - 1)) := by
    have static : (lookupMethod owner field).isStatic = true := by
      change (Modifiers.ofList [.publicAccess, .static]).has .static = true
      decide
    have whole : proceed (outcome (bindParameters (lookupMethod owner field).parameters [key])
        (staticFrame id (lookupMethod owner field), inside))
          (fun _ => outcome (execAll (.ofPerformer (performer (patience + 1))) (patience + 1)
            (lookupMethod owner field).body)) = (result, (askedFrame id owner field key, after)) := by
      rw [bound, proceed_ok, ends]
    exact performer_invokeClass static (prepare_begun entered.has.begun) room whole
  have has : HasLookup inside.classes id field map := entered.has
  have there : inside.heap.get? map = some (.map (constants.map fun constant => (value constant, .ref constant))) :=
    entered.there
  have answer := entryWith?_constants entered.kinds isKey
  cases found : entryWith? (constants.map fun constant => (value constant, .ref constant)) key.key with
  | some entry =>
    rw [found] at answer
    obtain ⟨chosen, member, rfl, own⟩ := answer
    refine ⟨_, _, called (outcome_finder_some has plain (prepares_performer patience) there found), ?_, ?_⟩
    · intro constant listed
      rw [callResult, coerce_ref, Except.ok.injEq, Value.ref.injEq, ← own]
      exact ⟨fun same => same ▸ rfl, fun same => List.inj_on_of_nodup_map entered.distinct member listed same⟩
    · exact fun other => absurd own.symm (other chosen member)
  | none =>
    rw [found] at answer
    obtain ⟨text, tells⟩ := isKey.exists_text
    refine ⟨_, _, called (outcome_finder_none has plain (prepares_performer patience) there names apart found
      (tells patience inside)), ?_, ?_⟩
    · exact fun constant listed => ⟨fun same => (by cases same), fun same => absurd same.symm (answer constant listed)⟩
    · exact fun _ => ⟨text, tells patience world, rfl, rfl⟩

/-- An enum of the top level that has the map, in which nothing else goes by the names that the generated code writes:
its own, and the first part of the names of the library. -/
structure LookupEnum (classes : ClassTable) (id : ClassId) (decl : TypeDecl) (owner : JavaType) (field : Field) : Prop
    where
  stands : classes.Stands id decl .topLevel []
  isEnum : decl.isEnum = true
  named : owner.simpleName = decl.name
  plain : Plain owner field
  map : lookupField owner field ∈ decl.fields
  parameter : field.name ≠ "java"
  statics : ∀ name ∈ [decl.name, "java"],
    (∀ field ∈ staticFields decl, field.name ≠ name) ∧ ∀ constant ∈ decl.constants, constant.name ≠ name
  types : decl.name ≠ "java" ∧ (classes.get id).members.lookup "java" = none
  undeclared : ∀ name ∈ ["java.lang.String", "java.lang.IllegalArgumentException"], classes.names.lookup name = none

namespace LookupEnum

variable {classes : ClassTable} {decl : TypeDecl} {owner : JavaType} (enum : LookupEnum classes id decl owner field)
include enum

theorem get_modifyState (change : ClassState → ClassState) :
    (classes.modifyState id change).get id = { classes.get id with state := change (classes.get id).state } := by
  rw [ClassTable.modifyState, ClassTable.get_modify _ enum.stands.there, if_pos rfl]

/-- The enum is the same when its initialization comes further. -/
theorem modified (change : ClassState → ClassState) :
    LookupEnum (classes.modifyState id change) id decl owner field where
  stands := by
    have info := enum.get_modifyState change
    exact ⟨(ClassTable.size_modify _).symm ▸ enum.stands.there, info ▸ enum.stands.decl, info ▸ enum.stands.nesting,
      info ▸ enum.stands.enclosing, info ▸ enum.stands.superclass⟩
  isEnum := enum.isEnum
  named := enum.named
  plain := enum.plain
  map := enum.map
  parameter := enum.parameter
  statics := enum.statics
  types := ⟨enum.types.1, enum.get_modifyState change ▸ enum.types.2⟩
  undeclared := enum.undeclared

theorem has (begun : (classes.get id).state.stage ≠ .pending)
    (held : (classes.get id).state.statics.lookup (lookupName field) = some (.ref map)) :
    HasLookup classes id field map where
  isEnum := enum.stands.decl ▸ enum.isEnum
  begun := begun
  owns := by
    have static : lookupField owner field ∈ staticFields decl := by
      have isStatic : (lookupField owner field).isStatic = true := by
        change (Modifiers.ofList [.privateAccess, .static, .final]).has .static = true
        decide
      exact List.mem_filter.mpr ⟨enum.map, by rw [isStatic, Bool.true_or]⟩
    have declares : (staticFields decl).any (·.name == lookupName field) = true :=
      List.any_eq_true.mpr ⟨_, static, beq_self_eq_true (lookupName field)⟩
    simp [ClassTable.staticOwner?, enum.stands.chain, enum.stands.decl, declares]
  held := held

theorem unclaimed {name : String} (listed : name ∈ [decl.name, "java"]) :
    staticInScope? classes { type := id } name = none := by
  obtain ⟨fields, constants⟩ := enum.statics name listed
  have free : (staticFields decl).any (·.name == name) = false := by simpa using fields
  have free' : decl.constants.any (·.name == name) = false := by simpa using constants
  simp [staticInScope?, ClassTable.lexical, enum.stands.enclosing, ClassTable.staticOwner?,
    enum.stands.chain, enum.stands.decl, free, free']

theorem namesEnum : NamesEnum classes id owner where
  free := enum.named ▸ enum.unclaimed List.mem_cons_self
  means := by
    have simple := enum.plain.type
    have within : classes.resolveWithin owner.simpleName id = some id := by
      rw [ClassTable.resolveWithin, simple]
      simp [enum.stands.decl, enum.named]
    simp [ClassTable.resolve, ClassTable.lexical, within]

theorem resolve_library {name simple : String} {rest : List String}
    (listed : name ∈ ["java.lang.String", "java.lang.IllegalArgumentException"])
    (parts : Text.split '.' name = "java" :: rest) (last : Names.simple name = simple)
    (known : Library.isKnown simple = true) :
    resolveType classes { type := id } name = some (.library simple) := by
  obtain ⟨other, memberless⟩ := enum.types
  have within : classes.resolveWithin name id = none := by
    have member : classes.member? id "java" = none := by rw [enum.stands.member?, memberless]
    rw [ClassTable.resolveWithin, parts]
    simp [enum.stands.decl, other, member]
  rw [resolveType, parts]
  simp only [Frame.type?, List.findSome?_cons, List.lookup_nil, List.findSome?_nil]
  simp [ClassTable.resolve, ClassTable.lexical, enum.stands.enclosing, within, enum.undeclared name listed, last, known]

theorem namesLibrary : NamesLibrary classes id where
  free := enum.unclaimed (by simp)
  text := enum.resolve_library (by simp) (by cbv) (by cbv) (by decide +kernel)
  exception := enum.resolve_library (by simp) (by cbv) (by cbv) (by decide +kernel)

end LookupEnum

/-- An enum before its map is filled: all constants are made, and they differ in the values of the field. -/
structure Ready (world : World) (id : ClassId) (field : Field) (map : Address) (constants : List Address)
    (value : Address → Value) : Prop where
  begun : (world.classes.get id).state.stage ≠ .pending
  held : (world.classes.get id).state.statics.lookup (lookupName field) = some (.ref map)
  empty : world.heap.get? map = some (.map [])
  listed : (world.classes.get id).state.constants = constants.map .ref
  reads : ∀ constant ∈ constants, world.field? constant field.name = some (value constant)
  kinds : ∀ constant ∈ constants, IsKey field.type (value constant)
  distinct : (constants.map value).Nodup

/-- What is evaluated of a class before the last of its static blocks. -/
def beginning (perform : Performer) (fuel : Nat) (id : ClassId) (decl : TypeDecl) (before : List Initializer) :
    Code Unit := do
  makeConstants perform id decl.constants
  evalFields perform (staticFields decl) (setStatic id)
  runInitializers perform fuel before

/-- The static fields of a class are cleared when its initialization begins. -/
def clearing (id : ClassId) (decl : TypeDecl) : Run Unit := do
  setStage id .running
  (staticFields decl).forM fun field => setStatic id field.name (.zero field.type)

section

variable {decl : TypeDecl} {before : List Initializer} {last : Initializer} {start cleared ready after : World}

/-- A class that extends no other is initialized in steps. -/
theorem run_prepare {frame frame' : Frame} (pending : (start.classes.get id).state.stage = .pending)
    (declared : (start.classes.get id).decl = decl) (base : (start.classes.get id).superclass = none)
    (blocks : decl.initializers.filter (·.isStatic) = before ++ [last])
    (clears : clearing id decl start = (.ok (), cleared))
    (begins : outcome (beginning perform fuel id decl before) ({ type := id }, cleared) = (.ok (), (frame, ready)))
    (ends : outcome (execAll (.ofPerformer perform) fuel last.body) (frame, ready) = (.ok .normal, (frame', after))) :
    prepare perform fuel id start =
      (.ok (), after.withClasses (after.classes.modifyState id fun state => { state with stage := .done })) := by
  have first : ((start.classes.get id).state.stage != .pending) = false := by simp [pending]
  have body : outcome (do
      makeConstants perform id decl.constants
      evalFields perform (staticFields decl) (setStatic id)
      runInitializers perform fuel (before ++ [last])) ({ type := id }, cleared) = (.ok (), (frame', after)) := by
    have parts : (do
        makeConstants perform id decl.constants
        evalFields perform (staticFields decl) (setStatic id)
        runInitializers perform fuel (before ++ [last])) =
          (beginning perform fuel id decl before >>= fun _ => discard (runAll perform fuel last.body)) := by
      simp only [beginning, runInitializers, List.forM_eq_forM, List.forM_append, List.forM_cons, List.forM_nil,
        bind_pure_unit, bind_assoc]
    rw [parts, outcome_bind, begins, proceed_ok, outcome_discard, runAll, ends, proceed_ok]
  have within : Code.within { type := id } (do
      makeConstants perform id decl.constants
      evalFields perform (staticFields decl) (setStatic id)
      runInitializers perform fuel (before ++ [last])) cleared = (.ok (), after) := by
    rw [within_eq, body]
  have clears : (staticFields decl).forM (fun field => setStatic id field.name (.zero field.type))
      (start.withClasses (start.classes.modifyState id fun state => { state with stage := .running })) =
        (.ok (), cleared) := clears
  simp only [prepare, run_bind, run_classInfo, first, Bool.false_eq_true, if_false, base, declared, blocks,
    run_setStage, clears, within]

/-- Once an enum has been initialized whose constants differ in the values of the field, the finder is the inverse of
the field. -/
theorem lookup_inverse {owner : JavaType} {frame : Frame} {constants : List Address} {value : Address → Value}
    (pending : (start.classes.get id).state.stage = .pending) (declared : (start.classes.get id).decl = decl)
    (base : (start.classes.get id).superclass = none)
    (blocks : decl.initializers.filter (·.isStatic) = before ++ [lookupFilling owner field])
    (clears : clearing id decl start = (.ok (), cleared))
    (begins : outcome (beginning (performer (fuel + 1)) (fuel + 1) id decl before) ({ type := id }, cleared) =
      (.ok (), (frame, world)))
    (clear : Clear frame id owner field) (enum : LookupEnum world.classes id decl owner field)
    (ready : Ready world id field map constants value) (room : world.depth < depthLimit) :
    ∃ after, performer (fuel + 2) (.prepare id) start = (.ok (), after) ∧
      Inverts after id owner field constants value := by
  obtain ⟨filled, fills, entered, classes, depth⟩ :
      ∃ after, outcome (execAll (.ofPerformer (performer (fuel + 1))) (fuel + 1) (lookupFilling owner field).body)
          (frame, world) = (.ok .normal, (frame, after)) ∧ Entered after id field map constants value ∧
        after.classes = world.classes ∧ after.depth = world.depth :=
    entered_filling (enum.has ready.begun ready.held) clear enum.plain (prepares_performer fuel) enum.namesEnum
      ready.empty ready.listed ready.reads ready.kinds ready.distinct
  refine ⟨_, run_prepare pending declared base blocks clears begins fills, ?_⟩
  obtain ⟨done, isDone⟩ : ∃ done, done = fun state : ClassState => { state with stage := .done } := ⟨_, rfl⟩
  have enum : LookupEnum filled.classes id decl owner field := classes ▸ enum
  have state : ((filled.classes.modifyState id done).get id).state = done (filled.classes.get id).state := by
    rw [enum.get_modifyState]
  have held : (filled.classes.get id).state.statics.lookup (lookupName field) = some (.ref map) := classes ▸ ready.held
  have finished : Entered (filled.withClasses (filled.classes.modifyState id done)) id field map constants value :=
    { entered with has := (enum.modified done).has (by rw [state, isDone]; nofun) (by rw [state, isDone]; exact held) }
  exact isDone ▸ finished.inverts enum.plain (enum.modified done).namesLibrary enum.parameter (depth ▸ room)

end

end JavaWeave.Weave.EnumLookup
