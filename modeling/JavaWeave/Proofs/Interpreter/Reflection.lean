import JavaWeave.Proofs.Interpreter.Mirror
import JavaWeave.Proofs.Interpreter.Tie
import Mathlib.Data.List.Forall2

/-! Steps that do the same on an object and on its copy. The rules say so of the steps of code that keeps to its realm,
from single reads and writes on. -/

namespace JavaWeave.Interpreter

open Syntax

/-- The scopes of the second sight declare what those of the first do. -/
def Sight.Within (first second : Sight) : Prop := List.Forall₂ (· ⊆ ·) first second

theorem Sight.within_refl (sight : Sight) : sight.Within sight := List.forall₂_same.mpr fun _ _ => List.Subset.refl _

theorem Sight.Within.trans {first second third : Sight} (less : first.Within second) (more : second.Within third) :
    first.Within third := by
  induction less generalizing third with
  | nil => exact more
  | cons here _ ih =>
    cases more with
    | cons there rest => exact .cons (List.Subset.trans here there) (ih rest)

theorem Sight.within_declare (sight : Sight) (name : String) : sight.Within (sight.declare name) := by
  cases sight with
  | nil => exact .nil
  | cons names rest => exact .cons (List.subset_cons_self _ _) (within_refl rest)

theorem Sight.within_after (sight : Sight) (s : Statement) : sight.Within (sight.after s) := by
  cases s with
  | declare decl => exact sight.within_declare decl.name
  | _ => exact sight.within_refl

theorem Sight.within_afterAll (sight : Sight) (body : List Statement) : sight.Within (sight.afterAll body) := by
  induction body generalizing sight with
  | nil => exact sight.within_refl
  | cons s rest ih =>
    exact (sight.within_after s).trans (ih _)

namespace Mirror

variable (mirror : Mirror)

/-- What holds of a scope that declares the names. -/
structure Keeps (count : Nat) (names : List String) (scope : Scope) : Prop where
  types : scope.types = []
  declares : ∀ name ∈ names, scope.locals.has name = true
  held : ∀ {name value}, scope.locals.lookup name = some value →
    mirror.Held count (mirror.realm.loose name) value

/-- Code has come to corresponding points on the two objects. -/
structure Aligned (sight : Sight) (count : Nat) (a b : Point) : Prop where
  self : a.1.self = some mirror.self
  type : a.1.type = mirror.type
  sees : List.Forall₂ (mirror.Keeps a.2.size) sight a.1.scopes
  frame : b.1 = a.1.image mirror.place mirror.copy
  world : mirror.Reflects a.2 b.2
  later : count ≤ a.2.size

/-- Code ends abruptly in the same way on the two objects. What it throws it has made itself. -/
inductive Unwound (sight : Sight) (count : Nat) : Unwind → Unwind → Point → Point → Prop
  | thrown {value : Value} {a b : Point} (aligned : mirror.Aligned sight count a b)
      (held : mirror.Held a.2.size false value) :
      Unwound sight count (.thrown value) (.thrown (value.image mirror.place)) a b
  | failed (fault : Fault) {a b : Point} (aligned : mirror.Aligned sight count a b) :
      Unwound sight count (.failed fault) (.failed fault) a b
  | outOfFuel {a b : Point} (aligned : mirror.Aligned sight count a b) :
      Unwound sight count .outOfFuel .outOfFuel a b

/-- Steps do the same in both worlds: they come to results that are like each other when so many objects have been
made. -/
def Mirrored {α β : Type} (count : Nat) (before after : Sight) (like : Nat → α → β → Prop) (first : Code α)
    (second : Code β) : Prop :=
  Tied (mirror.Aligned before count) (mirror.Unwound before count)
    (fun x y a b => mirror.Aligned after count a b ∧ like a.2.size x y) first second

/-- A value that a variable may hold, and what its copy holds then. -/
def Pictures (loose : Bool) (count : Nat) (value value' : Value) : Prop :=
  value' = value.image mirror.place ∧ mirror.Held count loose value

/-- A variable of one object or of the code, and that of the other. -/
inductive Locates (name : String) : Nat → Place → Place → Prop
  | slot (count : Nat) : Locates name count (.slot name) (.slot name)
  | field (count : Nat) (declared : name ∈ mirror.realm.fields) :
      Locates name count (.field mirror.self name) (.field mirror.copy name)

variable {mirror} {α β γ δ : Type} {count more : Nat} {sight sight' : Sight} {a b : Point}

theorem Keeps.mono {names names' : List String} {scope : Scope} (keeps : mirror.Keeps count names scope)
    (later : count ≤ more) (fewer : names' ⊆ names) : mirror.Keeps more names' scope where
  types := keeps.types
  declares name member := keeps.declares name (fewer member)
  held found := (keeps.held found).mono later

theorem sees_mono {scopes : List Scope} (sees : List.Forall₂ (mirror.Keeps count) sight scopes)
    (within : sight'.Within sight) (later : count ≤ more) : List.Forall₂ (mirror.Keeps more) sight' scopes := by
  induction within generalizing scopes with
  | nil =>
    cases sees
    exact .nil
  | cons fewer _ ih =>
    cases sees with
    | cons keeps rest => exact .cons (keeps.mono later fewer) (ih rest)

/-- A name that is known to be declared stands for a variable. -/
theorem exists_of_has {scopes : List Scope} {name : String} (sees : List.Forall₂ (mirror.Keeps count) sight scopes)
    (known : sight.has name = true) : ∃ value, Frame.lookupIn scopes name = some value := by
  induction sees with
  | nil => cases known
  | @cons names scope _ rest keeps _ ih =>
    rw [Frame.lookupIn_cons]
    cases found : scope.locals.lookup name with
    | some value => exact ⟨value, rfl⟩
    | none =>
      simp only [Sight.has, List.any_cons, Bool.or_eq_true, List.contains_iff_mem] at known
      refine ih (known.resolve_left fun here => ?_)
      have declared := keeps.declares name here
      rw [Bindings.has, found] at declared
      cases declared

theorem held_of_lookupIn {scopes : List Scope} {name : String} {value : Value}
    (sees : List.Forall₂ (mirror.Keeps count) sight scopes) (found : Frame.lookupIn scopes name = some value) :
    mirror.Held count (mirror.realm.loose name) value := by
  induction sees with
  | nil => cases found
  | @cons names scope _ rest keeps _ ih =>
    rw [Frame.lookupIn_cons] at found
    cases here : scope.locals.lookup name with
    | some held =>
      rw [here] at found
      cases found
      exact keeps.held here
    | none =>
      rw [here] at found
      exact ih found

theorem Keeps.put {names : List String} {scope : Scope} {name : String} {value : Value}
    (keeps : mirror.Keeps count names scope) (held : mirror.Held count (mirror.realm.loose name) value) :
    mirror.Keeps count names { scope with locals := scope.locals.put name value } where
  types := keeps.types
  declares other member := Bindings.has_put (keeps.declares other member) name value
  held {other held'} found := by
    rw [Bindings.lookup_put] at found
    split at found
    · next same =>
      obtain rfl := Option.some.inj found
      rwa [same]
    · exact keeps.held found

theorem sees_declare {name : String} {value : Value} {frame : Frame}
    (sees : List.Forall₂ (mirror.Keeps count) sight frame.scopes)
    (held : mirror.Held count (mirror.realm.loose name) value) :
    List.Forall₂ (mirror.Keeps count) (sight.declare name) (frame.declare name value).scopes := by
  obtain ⟨type, self, returnType, scopes⟩ := frame
  cases sees with
  | nil => exact .nil
  | cons keeps rest =>
    have put := keeps.put held
    refine .cons { put with declares := ?_ } rest
    exact List.forall_mem_cons.mpr ⟨by simp [Bindings.has], put.declares⟩

theorem sees_assign {scopes : List Scope} {name : String} {value : Value}
    (sees : List.Forall₂ (mirror.Keeps count) sight scopes)
    (held : mirror.Held count (mirror.realm.loose name) value) :
    List.Forall₂ (mirror.Keeps count) sight (Frame.assignIn name value scopes) := by
  induction sees with
  | nil => exact .nil
  | @cons names scope _ rest keeps rest' ih =>
    cases here : scope.locals.has name with
    | true =>
      rw [Frame.assignIn_cons_of_has here]
      exact .cons (keeps.put held) rest'
    | false =>
      rw [Frame.assignIn_cons_of_not here]
      exact .cons keeps ih

theorem sees_types {frame : Frame} (sees : List.Forall₂ (mirror.Keeps count) sight frame.scopes) (name : String) :
    frame.type? name = none := by
  obtain ⟨type, self, returnType, scopes⟩ := frame
  change List.Forall₂ _ sight scopes at sees
  change scopes.findSome? _ = none
  induction sees with
  | nil => rfl
  | cons keeps _ ih => rw [List.findSome?_cons, keeps.types, List.lookup_nil]; exact ih

namespace Aligned

variable (aligned : mirror.Aligned sight count a b)

include aligned

theorem mono (within : sight'.Within sight) (earlier : more ≤ count) : mirror.Aligned sight' more a b :=
  { aligned with
    sees := sees_mono aligned.sees within (Nat.le_refl _)
    later := Nat.le_trans earlier aligned.later }

theorem push : mirror.Aligned ([] :: sight) count a.push b.push :=
  { aligned with
    sees := .cons ⟨rfl, nofun, nofun⟩ aligned.sees
    frame := congrArg Frame.push aligned.frame }

/-- The names of types stand for what they do in the class of the object. -/
theorem resolveType (name : String) :
    Interpreter.resolveType a.2.classes a.1 name = mirror.far.classes.resolve (some mirror.type) name ∧
    Interpreter.resolveType b.2.classes b.1 name = mirror.far.classes.resolve (some mirror.type) name := by
  have types := sees_types aligned.sees
  refine ⟨?_, ?_⟩
  · rw [resolveType_eq types, aligned.type, aligned.world.classes.1]
  · rw [resolveType_eq (by simpa [aligned.frame] using types), aligned.frame, aligned.world.classes.2]
    exact congrArg (fun type => mirror.far.classes.resolve (some type) name) aligned.type

end Aligned

theorem Aligned.pop {names : List String} (aligned : mirror.Aligned (names :: sight) count a b) :
    mirror.Aligned sight count a.pop b.pop :=
  { aligned with
    sees := by
      obtain ⟨⟨type, self, returnType, scopes⟩, world⟩ := a
      cases aligned.sees with
      | cons _ rest => exact rest
    frame := (congrArg Frame.pop aligned.frame).trans (Frame.pop_image _) }

/-- Objects may have been made. -/
theorem Aligned.step {world world' : World} (aligned : mirror.Aligned sight count a b)
    (reflects : mirror.Reflects world world') (later : a.2.size ≤ world.size) :
    mirror.Aligned sight count (a.1, world) (b.1, world') where
  self := aligned.self
  type := aligned.type
  sees := sees_mono aligned.sees sight.within_refl later
  frame := aligned.frame
  world := reflects
  later := Nat.le_trans aligned.later later

theorem Unwound.aligned {u v : Unwind} (unwound : mirror.Unwound sight count u v a b) :
    mirror.Aligned sight count a b := by
  cases unwound <;> assumption

theorem Unwound.map {u v : Unwind} {a' b' : Point} (unwound : mirror.Unwound sight count u v a b)
    (aligned : mirror.Aligned sight' more a' b') (later : a.2.size ≤ a'.2.size) :
    mirror.Unwound sight' more u v a' b' := by
  cases unwound with
  | thrown _ held => exact .thrown aligned (held.mono later)
  | failed fault => exact .failed fault aligned
  | outOfFuel => exact .outOfFuel aligned

theorem Unwound.mono {u v : Unwind} (unwound : mirror.Unwound sight count u v a b) (within : sight'.Within sight)
    (earlier : more ≤ count) : mirror.Unwound sight' more u v a b :=
  unwound.map (unwound.aligned.mono within earlier) (Nat.le_refl _)

section Rules

variable {before middle after : Sight} {like : Nat → α → β → Prop} {like' : Nat → γ → δ → Prop}
  {first : Code α} {second : Code β}

namespace Mirrored

theorem mono {like' : Nat → α → β → Prop} {after' : Sight}
    (steps : mirror.Mirrored count before after like first second) (within : after'.Within after)
    (weaker : ∀ count x y, like count x y → like' count x y) :
    mirror.Mirrored count before after' like' first second :=
  Tied.mono steps (fun _ _ start => start) (fun _ _ _ _ unwound => unwound)
    fun _ _ _ _ ⟨aligned, related⟩ => ⟨aligned.mono within (Nat.le_refl _), weaker _ _ _ related⟩

/-- Steps one after the other. What is known of a result stays known, whatever is made later. -/
theorem bind {next : α → Code γ} {next' : β → Code δ} (within : before.Within middle)
    (steps : mirror.Mirrored count before middle like first second)
    (onward : ∀ more x y, count ≤ more → like more x y →
      mirror.Mirrored more middle after like' (next x) (next' y)) :
    mirror.Mirrored count before after like' (first >>= next) (second >>= next') := by
  refine tied_bind steps fun x y => ?_
  rintro a b ⟨aligned, related⟩
  have here : mirror.Aligned middle a.2.size a b := { aligned with later := Nat.le_refl _ }
  refine (onward _ x y aligned.later related a b here).mono
    (fun u v a' b' unwound => unwound.mono within aligned.later) ?_
  rintro x' y' a' b' ⟨aligned', related'⟩
  exact ⟨aligned'.mono after.within_refl aligned.later, related'⟩

/-- Steps that look at the world and do then what others do that are the same on both sides. -/
theorem looking (looks : ∀ a b, mirror.Aligned before a.2.size a b → count ≤ a.2.size → ∃ first' second',
      outcome first a = outcome first' a ∧ outcome second b = outcome second' b ∧
      mirror.Mirrored a.2.size before after like first' second') :
    mirror.Mirrored count before after like first second := by
  intro a b aligned
  have here : mirror.Aligned before a.2.size a b := { aligned with later := Nat.le_refl _ }
  obtain ⟨first', second', same, same', steps⟩ := looks a b here aligned.later
  rw [same, same']
  refine (steps a b here).mono (fun _ _ _ _ unwound => unwound.mono before.within_refl aligned.later) ?_
  exact fun _ _ _ _ both => ⟨both.1.mono after.within_refl aligned.later, both.2⟩

theorem andThen {next : α → Code γ} {next' : β → Code δ}
    (steps : mirror.Mirrored count before before like first second)
    (onward : ∀ more x y, count ≤ more → like more x y →
      mirror.Mirrored more before after like' (next x) (next' y)) :
    mirror.Mirrored count before after like' (first >>= next) (second >>= next') :=
  .bind before.within_refl steps onward

theorem map {f : α → γ} {g : β → δ} (steps : mirror.Mirrored count before after like first second)
    (related : ∀ more x y, count ≤ more → like more x y → like' more (f x) (g y)) :
    mirror.Mirrored count before after like' (f <$> first) (g <$> second) :=
  tied_map steps fun _ _ _ _ ⟨aligned, same⟩ => ⟨aligned, related _ _ _ aligned.later same⟩

theorem inScope (steps : mirror.Mirrored count ([] :: before) ([] :: before) like first second) :
    mirror.Mirrored count before before like (inScope first) (inScope second) :=
  tied_inScope steps (fun _ _ aligned => aligned.push)
    (fun _ _ _ _ unwound => unwound.map unwound.aligned.pop (Nat.le_refl _))
    fun _ _ _ _ ⟨aligned, related⟩ => ⟨aligned.pop, related⟩

end Mirrored

theorem mirrored_pure {x : α} {y : β} (related : ∀ more, count ≤ more → like more x y) :
    mirror.Mirrored count sight sight like (pure x : Code α) (pure y : Code β) :=
  tied_pure fun _ _ aligned => ⟨aligned, related _ aligned.later⟩

theorem mirrored_throw {value : Value} (held : mirror.Held count false value) :
    mirror.Mirrored count sight sight like (throw (.thrown value) : Code α)
      (throw (.thrown (value.image mirror.place)) : Code β) :=
  tied_throw fun _ _ aligned => .thrown aligned (held.mono aligned.later)

theorem mirrored_outOfFuel :
    mirror.Mirrored count sight sight like (throw .outOfFuel : Code α) (throw .outOfFuel : Code β) :=
  tied_throw fun _ _ aligned => .outOfFuel aligned

end Rules

/-- Steps of the whole program one after the other are steps of a body. -/
theorem liftM_bind (first : Run α) (next : α → Run β) :
    (liftM (first >>= next) : Code β) = liftM first >>= fun x => liftM (next x) := by
  refine outcome_ext fun point => ?_
  simp only [outcome_liftM, outcome_bind, run_bind]
  rcases first point.2 with ⟨_ | _, _⟩ <;> rfl

section Primitives

variable {like : Nat → α → β → Prop} {loose : Bool} {value other : Value}

/-- An object of the code's own is made. -/
theorem mirrored_allocate {object object' : Object} (copied : mirror.Copied count object object') :
    mirror.Mirrored count sight sight (mirror.Pictures false) (liftM (allocate object))
      (liftM (allocate object')) := by
  intro a b aligned
  have made (object : Object) (point : Point) : outcome (liftM (allocate object) : Code Value) point =
      (.ok (.ref point.2.frontier), (point.1, point.2.grown object)) := rfl
  have larger := World.size_grown a.2 object
  rw [made, made]
  refine ⟨aligned.step (aligned.world.grown (copied.mono aligned.later)) (by omega), ?_, ?_⟩
  · exact congrArg Value.ref aligned.world.place_frontier.symm
  · rintro _ ⟨rfl⟩
    exact Or.inl (Or.inr ⟨aligned.world.begun, Nat.lt_of_lt_of_eq (Nat.lt_succ_self _) larger.symm⟩)

theorem mirrored_raise {type : String} {message : Option String} {cause : Value}
    (held : mirror.Held count false cause) :
    mirror.Mirrored count sight sight like (liftM (raise type message cause : Run α))
      (liftM (raise type message (cause.image mirror.place) : Run β)) := by
  unfold raise
  rw [liftM_bind, liftM_bind]
  refine .andThen (mirrored_allocate (.exception { type, message, cause } held)) ?_
  rintro more x y _ ⟨rfl, made⟩
  exact mirrored_throw made

theorem mirrored_raiseWith (type message : String) :
    mirror.Mirrored count sight sight like (liftM (raiseWith type message : Run α))
      (liftM (raiseWith type message : Run β)) := mirrored_raise (held_of_plain rfl)

theorem mirrored_raiseBare (type : String) :
    mirror.Mirrored count sight sight like (liftM (raiseBare type : Run α)) (liftM (raiseBare type : Run β)) :=
  mirrored_raise (held_of_plain rfl)

theorem mirrored_fail (fault : Fault) :
    mirror.Mirrored count sight sight like (liftM (fail fault : Run α)) (liftM (fail fault : Run β)) :=
  fun _ _ aligned => .failed fault aligned

theorem mirrored_nonNull (held : mirror.Held count loose value) :
    mirror.Mirrored count sight sight (mirror.Pictures loose) (liftM (nonNull value))
      (liftM (nonNull (value.image mirror.place))) := by
  unfold nonNull
  rw [Value.isNull_image]
  split
  · exact mirrored_raiseBare _
  · exact mirrored_pure fun _ later => ⟨rfl, held.mono later⟩

variable (lawful : mirror.Lawful)

include lawful

theorem mirrored_mismatch (expected : String) (held : mirror.Held count loose value) :
    mirror.Mirrored count sight sight like (liftM (mismatch expected value : Run α))
      (liftM (mismatch expected (value.image mirror.place) : Run β)) := by
  intro a b aligned
  change mirror.Unwound sight count (.failed (.mismatch expected _)) (.failed (.mismatch expected _)) a b
  rw [aligned.world.kind lawful held aligned.later]
  exact .failed _ aligned

/-- What is needed of a value and does not depend on what it refers to. -/
theorem mirrored_needed (expected : String) {view : Value → Option γ} (held : mirror.Held count loose value)
    (same : view (value.image mirror.place) = view value) :
    mirror.Mirrored count sight sight (fun _ x y => x = y ∧ view value = some x)
      (liftM (needed expected value view)) (liftM (needed expected (value.image mirror.place) view)) := by
  unfold needed
  rw [same]
  cases view value with
  | some x => exact mirrored_pure fun _ _ => ⟨rfl, rfl⟩
  | none => exact mirrored_mismatch lawful expected held

theorem Mirrored.truth {condition condition' : Code Value}
    (steps : mirror.Mirrored count sight sight (mirror.Pictures true) condition condition') :
    mirror.Mirrored count sight sight (fun _ => Eq) (truth condition) (truth condition') := by
  refine .andThen steps ?_
  rintro more x y _ ⟨rfl, held⟩
  exact (mirrored_needed lawful "boolean" held Value.bool?_image).mono sight.within_refl fun _ _ _ same => same.1

omit lawful in
/-- Steps for the values of a list, one after the other. -/
theorem mirrored_mapM {step : Value → Run α} {values : List Value}
    (held : ∀ value ∈ values, mirror.Held count false value)
    (steps : ∀ more value, mirror.Held more false value →
      mirror.Mirrored more sight sight (fun _ => Eq) (liftM (step value)) (liftM (step (value.image mirror.place)))) :
    mirror.Mirrored count sight sight (fun _ => Eq) (liftM (values.mapM step))
      (liftM ((values.map (Value.image mirror.place)).mapM step)) := by
  induction values generalizing count with
  | nil => exact mirrored_pure fun _ _ => rfl
  | cons value rest ih =>
    obtain ⟨here, others⟩ := List.forall_mem_cons.mp held
    simp only [List.map_cons, List.mapM_cons, liftM_bind]
    refine .andThen (steps _ value here) ?_
    rintro more x _ later rfl
    refine .andThen (ih fun other member => (others other member).mono later) ?_
    rintro more' xs _ _ rfl
    exact mirrored_pure fun _ _ => rfl

omit lawful in
/-- The text of a value that is no object, or one of the code's own objects. -/
theorem mirrored_text (fuel : Nat) (held : mirror.Held count false value) :
    mirror.Mirrored count sight sight (fun _ => Eq) (liftM (performer fuel (.text value)))
      (liftM (performer fuel (.text (value.image mirror.place)))) := by
  induction fuel generalizing count value with
  | zero => exact mirrored_outOfFuel
  | succ fuel ih =>
    refine .looking fun a b aligned later => ?_
    have told (value : Value) (point : Point) : outcome (liftM (performer (fuel + 1) (.text value)) : Code String)
        point = outcome (liftM (textOf (performer fuel) value) : Code String) point := rfl
    rcases aligned.world.copied? held later with plain | ⟨address, object, object', rfl, there, there', copied⟩
    · rw [Value.image_of_plain plain, told, told]
      cases value <;> first | exact ⟨_, _, rfl, rfl, mirrored_pure fun _ _ => rfl⟩ | cases plain
    rw [Value.image, told, told]
    simp only [textOf, outcome_liftM, run_bind, run_heap, there, there']
    cases copied with
    | exception state => exact ⟨_, _, rfl, rfl, mirrored_pure fun _ _ => rfl⟩
    | array items held =>
      have listed : mirror.Mirrored a.2.size sight sight (fun _ => Eq)
          (liftM (do
            let texts ← items.mapM fun item => performer fuel (.text item)
            return "[" ++ ", ".intercalate texts ++ "]"))
          (liftM (do
            let texts ← (items.map (Value.image mirror.place)).mapM fun item => performer fuel (.text item)
            return "[" ++ ", ".intercalate texts ++ "]")) := by
        rw [liftM_bind, liftM_bind]
        refine .andThen (mirrored_mapM held fun more value held => ih held) ?_
        rintro more texts _ _ rfl
        exact mirrored_pure fun _ _ => rfl
      exact ⟨_, _, rfl, rfl, listed⟩

theorem mirrored_operate (fuel : Nat) {op : BinaryOp} (held : mirror.Held count (op != .add) value)
    (held' : mirror.Held count (op != .add) other) :
    mirror.Mirrored count sight sight (mirror.Pictures false) (liftM (operate (performer fuel) op value other))
      (liftM (operate (performer fuel) op (value.image mirror.place) (other.image mirror.place))) := by
  unfold operate
  rw [Value.str?_image, Value.str?_image, binaryResult_image (lawful.same_image held held')]
  split
  · next texts =>
    obtain rfl : op = .add := by simpa using (Bool.and_eq_true _ _).mp texts |>.1
    simp only [liftM_bind]
    refine .andThen (mirrored_text fuel held) ?_
    rintro more front _ later rfl
    refine .andThen (mirrored_text fuel (held'.mono later)) ?_
    rintro more' back _ _ rfl
    exact mirrored_pure fun _ _ => ⟨rfl, held_of_plain rfl⟩
  · cases computed : binaryResult op value other with
    | ok result =>
      have plain := plain_of_binaryResult computed
      exact mirrored_pure fun _ _ => ⟨(Value.image_of_plain plain).symm, held_of_plain plain⟩
    | error misuse =>
      cases misuse with
      | divisionByZero => exact mirrored_raiseWith _ _
      | operands =>
        intro a b aligned
        change mirror.Unwound sight count (.failed (.unsupported (.binary op _ _)))
          (.failed (.unsupported (.binary op _ _))) a b
        rw [aligned.world.kind lawful held aligned.later, aligned.world.kind lawful held' aligned.later]
        exact .failed _ aligned

theorem mirrored_operateOne (op : UnaryOp) (held : mirror.Held count loose value) :
    mirror.Mirrored count sight sight (mirror.Pictures false) (liftM (operateOne op value))
      (liftM (operateOne op (value.image mirror.place))) := by
  unfold operateOne
  rw [unaryResult_image]
  cases computed : unaryResult op value with
  | some result =>
    have plain := plain_of_unaryResult computed
    exact mirrored_pure fun _ _ => ⟨(Value.image_of_plain plain).symm, held_of_plain plain⟩
  | none =>
    intro a b aligned
    change mirror.Unwound sight count (.failed (.unsupported (.unary op _))) (.failed (.unsupported (.unary op _))) a b
    rw [aligned.world.kind lawful held aligned.later]
    exact .failed _ aligned

end Primitives

section Variables

variable {perform : Performer} {name : String}

private theorem outcome_lookup_of_get? {value : Value} (found : a.1.get? name = some value) :
    outcome (lookup perform name) a = (.ok (some value), a) := by
  simp only [lookup, outcome_bind, outcome_frame, proceed_ok, found, outcome_pure]

private theorem outcome_lookup_self {self : Address} {state : Instance} {value : Value}
    (free : a.1.get? name = none) (current : a.1.self = some self) (there : a.2.instance? self = some state)
    (found : (state.fields.lookup name).or (state.captured.lookup name) = some value) :
    outcome (lookup perform name) a = (.ok (some value), a) := by
  obtain ⟨others, objects⟩ := currentObjects_self current there
  simp only [lookup, outcome_bind, outcome_frame, proceed_ok, free, outcome_heap, objects, List.findSome?_cons, found,
    outcome_pure]

/-- A name of the realm stands for a variable on both sides. -/
theorem mirrored_lookup (lawful : mirror.Lawful) (known : mirror.realm.knows sight name = true) :
    mirror.Mirrored count sight sight (fun count x y => ∃ value, x = some value ∧
      mirror.Pictures (mirror.realm.loose name) count value (y.getD .null) ∧ y.isSome = true)
      (lookup perform name) (lookup perform name) := by
  intro a b aligned
  cases found : a.1.get? name with
  | some value =>
    have found' : b.1.get? name = some (value.image mirror.place) := by
      rw [aligned.frame, Frame.get?_image, found, Option.map_some]
    rw [outcome_lookup_of_get? found, outcome_lookup_of_get? found']
    exact ⟨aligned, value, rfl, ⟨rfl, held_of_lookupIn aligned.sees found⟩, rfl⟩
  | none =>
    have found' : b.1.get? name = none := by
      rw [aligned.frame, Frame.get?_image, found, Option.map_none]
    obtain ⟨state, there, there', carries⟩ := aligned.world.stands
    have outside : name ∈ mirror.realm.fields ∨ name ∈ mirror.realm.captured := by
      simp only [Realm.knows, Realm.assigns, Bool.or_eq_true, List.contains_iff_mem] at known
      refine known.imp_left fun assigned => assigned.resolve_left fun local' => ?_
      obtain ⟨value, declared⟩ := exists_of_has aligned.sees local'
      rw [Frame.get?_eq, declared] at found
      cases found
    obtain ⟨value, holds, holds', held⟩ := carries.holds lawful outside
    have current : b.1.self = some mirror.copy := by rw [aligned.frame]; rfl
    rw [outcome_lookup_self found aligned.self there holds, outcome_lookup_self found' current there' holds']
    exact ⟨aligned, value, rfl, ⟨rfl, held⟩, rfl⟩

theorem mirrored_evalName (lawful : mirror.Lawful) (known : mirror.realm.knows sight name = true) :
    mirror.Mirrored count sight sight (mirror.Pictures (mirror.realm.loose name)) (evalName perform name)
      (evalName perform name) := by
  refine .andThen (mirrored_lookup lawful known) ?_
  rintro more _ (_ | value') _ ⟨value, rfl, pictures, there⟩
  · cases there
  · exact mirrored_pure fun _ later => ⟨pictures.1, pictures.2.mono later⟩

/-- A variable of the realm may be assigned on both sides. -/
theorem mirrored_placeNamed (assigned : mirror.realm.assigns sight name = true) :
    mirror.Mirrored count sight sight (mirror.Locates name) (placeNamed perform name) (placeNamed perform name) := by
  intro a b aligned
  have same : (b.1.get? name).isSome = (a.1.get? name).isSome := by
    rw [aligned.frame, Frame.get?_image, Option.isSome_map]
  cases declared : (a.1.get? name).isSome with
  | true =>
    rw [declared] at same
    simp only [placeNamed, outcome_bind, outcome_frame, proceed_ok, declared, same, if_true, outcome_pure]
    exact ⟨aligned, .slot _⟩
  | false =>
    rw [declared] at same
    obtain ⟨state, there, there', carries⟩ := aligned.world.stands
    have field : name ∈ mirror.realm.fields := by
      simp only [Realm.assigns, Bool.or_eq_true, List.contains_iff_mem] at assigned
      refine assigned.resolve_left fun local' => ?_
      obtain ⟨value, found⟩ := exists_of_has aligned.sees local'
      rw [Frame.get?_eq, found] at declared
      cases declared
    have has := carries.fields name field
    have has' : (state.fields.image mirror.place).has name = true := by simpa using has
    have current : b.1.self = some mirror.copy := by rw [aligned.frame]; rfl
    obtain ⟨others, objects⟩ := currentObjects_self aligned.self there
    obtain ⟨others', objects'⟩ := currentObjects_self current there'
    simp only [placeNamed, outcome_bind, outcome_frame, proceed_ok, declared, same, Bool.false_eq_true, if_false,
      outcome_heap, objects, objects', List.find?_cons, has, has', outcome_pure]
    exact ⟨aligned, .field _ field⟩

theorem mirrored_evalPlace {target : Expression} (found : mirror.realm.target? sight target = some name) :
    mirror.Mirrored count sight sight (mirror.Locates name) (evalPlace perform target) (evalPlace perform target) := by
  cases target with
  | name text =>
    simp only [Realm.target?, Bool.and_eq_true] at found
    split at found
    · next both =>
      obtain ⟨undotted, assigned⟩ := both
      obtain rfl := Option.some.inj found
      rw [evalPlace_name, eq_of_beq undotted]
      exact mirrored_placeNamed assigned
    · cases found
  | _ => cases found

variable {place place' : Place} {value : Value}

theorem mirrored_readPlace (located : mirror.Locates name more place place') :
    mirror.Mirrored count sight sight (mirror.Pictures (mirror.realm.loose name)) (readPlace place)
      (readPlace place') := by
  intro a b aligned
  cases located with
  | slot =>
    have found : b.1.get? name = (a.1.get? name).map (Value.image mirror.place) := by
      rw [aligned.frame, Frame.get?_image]
    simp only [readPlace, outcome_bind, outcome_frame, proceed_ok, outcome_pure, found]
    cases held : a.1.get? name with
    | some value => exact ⟨aligned, rfl, held_of_lookupIn aligned.sees held⟩
    | none => exact ⟨aligned, rfl, held_of_plain rfl⟩
  | field =>
    obtain ⟨state, there, there', carries⟩ := aligned.world.stands
    have state' : a.2.heap.instance? (.ref mirror.self) = some state := there
    have state'' : b.2.heap.instance? (.ref mirror.copy) = some _ := there'
    simp only [readPlace, outcome_bind, outcome_heap, proceed_ok, outcome_pure, state', state'', Option.bind_some,
      Bindings.lookup_image]
    cases held : state.fields.lookup name with
    | some value => exact ⟨aligned, rfl, carries.heldField held⟩
    | none => exact ⟨aligned, rfl, held_of_plain rfl⟩

theorem mirrored_writePlace (lawful : mirror.Lawful) (located : mirror.Locates name more place place')
    (held : mirror.Held count (mirror.realm.loose name) value) :
    mirror.Mirrored count sight sight (fun _ _ _ => True) (writePlace place value)
      (writePlace place' (value.image mirror.place)) := by
  intro a b aligned
  have kept := held.mono aligned.later
  cases located with
  | slot =>
    refine ⟨{ aligned with sees := sees_assign aligned.sees kept, frame := ?_ }, trivial⟩
    exact (congrArg (Frame.assign name (value.image mirror.place)) aligned.frame).trans (Frame.assign_image ..)
  | field =>
    have written (object : Address) (value : Value) (point : Point) :
        outcome (writePlace (.field object name) value) point =
          (.ok (), (point.1, point.2.putField object name value)) := by
      simp only [writePlace, outcome_liftM, setField_eq]
    rw [written, written]
    exact ⟨aligned.step (aligned.world.putField kept lawful) (Nat.le_of_eq (World.size_putField ..).symm), trivial⟩

end Variables

end Mirror

end JavaWeave.Interpreter
