import JavaWeave.Proofs.Syntax.FlagText
import JavaWeave.Proofs.Syntax.Mentioned

/-! Reading the members of a JSON object, and the parts of a source tree that hold no other parts: types, origins
and literals. Each is read back from what is written of it, if its numbers have the width that the form gives them
and its doubles are finite, since JSON has no other. -/

namespace JavaWeave

namespace Json

theorem depth_pos (json : Json) : 0 < json.depth := by
  cases json <;> simp [depth]

theorem depth_of_mem {members : List (String × Json)} {key : String} {value : Json}
    (member : (key, value) ∈ members) : value.depth < (Json.obj members).depth := by
  rw [depth, Nat.lt_succ_iff]
  induction members with
  | nil => simp at member
  | cons head rest inductionHypothesis =>
    obtain ⟨other, first⟩ := head
    rw [depthMembers]
    obtain here | there := List.mem_cons.mp member
    · obtain ⟨rfl, rfl⟩ := Prod.mk.inj here
      exact Nat.le_max_left ..
    · exact Nat.le_trans (inductionHypothesis there) (Nat.le_max_right ..)

theorem depth_of_get? {json value : Json} {key : String} (found : json.get? key = some value) :
    value.depth < json.depth := by
  cases json with
  | obj members =>
    obtain ⟨front, back, split, -⟩ := List.lookup_eq_some_iff.mp found
    have listed : (key, value) ∈ members := by simp [split]
    exact depth_of_mem listed
  | _ => simp [get?] at found

theorem depth_of_mem_items {items : List Json} {item : Json} (member : item ∈ items) :
    item.depth < (Json.arr items).depth := by
  rw [depth, Nat.lt_succ_iff]
  induction items with
  | nil => simp at member
  | cons head rest inductionHypothesis =>
    rw [depthItems]
    obtain rfl | there := List.mem_cons.mp member
    · exact Nat.le_max_left ..
    · exact Nat.le_trans (inductionHypothesis there) (Nat.le_max_right ..)

end Json

namespace Syntax

mutual

/-- Dimensions are words of 32 bits. -/
def JavaType.Fits : JavaType → Prop
  | ⟨_, arguments, dimensions, _⟩ => dimensions < 2 ^ 32 ∧ JavaType.FitAll arguments

def JavaType.FitAll : List JavaType → Prop
  | [] => True
  | type :: rest => type.Fits ∧ JavaType.FitAll rest

end

def TypeParameter.Fits (parameter : TypeParameter) : Prop := ∀ bound ∈ parameter.bounds, bound.Fits

/-- Places in the source are words of 32 bits. -/
def Origin.Fits (origin : Origin) : Prop :=
  ∀ span ∈ origin.span, span.start < 2 ^ 32 ∧ span.length < 2 ^ 32

/-- A double is finite. -/
def Literal.Fits : Literal → Prop
  | .double value => value.isNaN = false ∧ value.isInf = false
  | _ => True

/-- What an expression holds besides its parts fits. -/
def Expression.Fits : Expression → Prop
  | .call _ _ typeArguments _ => ∀ type ∈ typeArguments, type.Fits
  | .create type _ _ | .instanceOf _ type | .cast type _ | .classLiteral type => type.Fits
  | .createArray type _ unsized _ => type.Fits ∧ unsized < 2 ^ 32
  | .literal value => value.Fits
  | _ => True

/-- What a part holds besides its own parts fits. -/
def Node.Fits : Node → Prop
  | .type t => t.origin.Fits ∧ (∀ parameter ∈ t.typeParameters, parameter.Fits)
      ∧ (∀ above ∈ t.superclass, above.Fits) ∧ ∀ above ∈ t.interfaces, above.Fits
  | .field f => f.origin.Fits ∧ f.type.Fits
  | .method m => m.origin.Fits ∧ (∀ parameter ∈ m.typeParameters, parameter.Fits) ∧ m.returnType.Fits
      ∧ ∀ type ∈ m.thrown, type.Fits
  | .constructor c => c.origin.Fits ∧ (∀ parameter ∈ c.typeParameters, parameter.Fits)
      ∧ ∀ type ∈ c.thrown, type.Fits
  | .initializer i => i.origin.Fits
  | .constant c => c.origin.Fits
  | .parameter p => p.type.Fits
  | .localVariable decl => decl.type.Fits
  | .note a => a.origin.Fits ∧ a.type.Fits
  | .expression e => e.Fits
  | .unit _ | .block _ | .switchCase _ | .catchClause _ | .statement _ => True

/-- Every part of a tree fits. -/
def Node.Storable (node : Node) : Prop := ∀ part ∈ node.parts, part.Fits

namespace Node

theorem Storable.fits {node : Node} (storable : node.Storable) : node.Fits :=
  storable node (by rw [parts_eq]; exact List.mem_cons_self)

theorem Storable.child {node child : Node} (storable : node.Storable) (member : child ∈ node.children) :
    child.Storable := fun part inside =>
  storable part (by rw [parts_eq]; exact List.mem_cons_of_mem _ (List.mem_flatMap.mpr ⟨child, member, inside⟩))

/-- What holds of a part whenever it holds of its direct parts holds of all. -/
theorem induct {motive : Node → Prop} (step : ∀ node, (∀ child ∈ node.children, motive child) → motive node)
    (node : Node) : motive node :=
  step node fun child _ => induct step child
termination_by node.size
decreasing_by exact size_lt_of_mem_children ‹_›

end Node

namespace Decode

section

variable {read : Json → Option α} {write : α → Json} {json value : Json} {key : String} {a standard : α}

theorem required_found (found : json.get? key = some value) (reads : read value = some a) :
    required read json key = some a := by
  rw [required, found, Option.bind_some, reads]

theorem required_str {s : String} (found : json.get? key = some (.str s)) :
    required Json.str? json key = some s := required_found found rfl

theorem optional_found (found : json.get? key = some value) (solid : value ≠ .null) (reads : read value = some a) :
    optional read json key = some (some a) := by
  have given : json.given? key = some value := by
    rw [Json.given?, found]
    split
    · exact absurd (Option.some.inj ‹_›) solid
    · rfl
  rw [optional, given]
  simp [reads]

theorem optional_missing (missing : json.get? key = none) : optional read json key = some none := by
  rw [optional, Json.given?, missing]

/-- A member that is left out when there is no value is read back. -/
theorem optional_map {write : α → Json} {o : Option α} (found : json.get? key = o.map write)
    (solid : ∀ a, write a ≠ .null) (reads : ∀ a ∈ o, read (write a) = some a) :
    optional read json key = some o := by
  cases o with
  | none => exact optional_missing found
  | some a => exact optional_found found (solid a) (reads a rfl)

theorem defaulted_found (found : json.get? key = some value) (reads : read value = some a) :
    defaulted standard read json key = some a := by
  rw [defaulted, found]
  exact reads

theorem defaulted_bool {b standard : Bool} (found : json.get? key = some (.bool b)) :
    defaulted standard Json.bool? json key = some b := defaulted_found found rfl

theorem defaulted_missing (missing : json.get? key = none) : defaulted standard read json key = some standard := by
  rw [defaulted, missing]

theorem list_map : ∀ {items : List α}, (∀ item ∈ items, read (write item) = some item) →
    list read (.arr (items.map write)) = some items
  | [], _ => rfl
  | item :: rest, reads => by
    have others := list_map fun other member => reads other (List.mem_cons_of_mem _ member)
    rw [list] at others ⊢
    simp [reads item List.mem_cons_self, others]

theorem items_found {items : List α} (found : json.get? key = some (.arr (items.map write)))
    (reads : ∀ item ∈ items, read (write item) = some item) : Decode.items read json key = some items :=
  defaulted_found found (list_map reads)

/-- A list that is left out when it is empty is read back. -/
theorem items_nonempty {items : List α}
    (found : json.get? key = if items.isEmpty then none else some (.arr (items.map write)))
    (reads : ∀ item ∈ items, read (write item) = some item) : Decode.items read json key = some items := by
  cases items with
  | nil => exact defaulted_missing found
  | cons item rest => exact items_found found reads

end

/-- A reader with fuel gives a node back from its JSON form once the fuel reaches the depth of the form. -/
def Restores (read : Nat → Json → Option α) (json : Json) (a : α) : Prop :=
  ∀ fuel, json.depth ≤ fuel → read fuel json = some a

section

variable {read : Nat → Json → Option α} {write : α → Json} {json value : Json} {key : String} {a : α} {fuel : Nat}

theorem Restores.intro (reads : ∀ fuel, json.depth ≤ fuel + 1 → read (fuel + 1) json = some a) :
    Restores read json a := by
  intro fuel deep
  obtain ⟨fuel, rfl⟩ : ∃ less, fuel = less + 1 := ⟨fuel - 1, by have := json.depth_pos; omega⟩
  exact reads fuel deep

theorem Restores.required (restores : Restores read value a) (found : json.get? key = some value)
    (deep : json.depth ≤ fuel + 1) : required (read fuel) json key = some a :=
  required_found found (restores fuel (by have := Json.depth_of_get? found; omega))

theorem Restores.optional {o : Option α} (restores : ∀ a ∈ o, Restores read (write a) a)
    (found : json.get? key = o.map write) (solid : ∀ a, write a ≠ .null) (deep : json.depth ≤ fuel + 1) :
    optional (read fuel) json key = some o := by
  refine optional_map found solid fun a given => restores a given fuel ?_
  rw [Option.mem_def.mp given] at found
  have outer := Json.depth_of_get? found
  omega

theorem Restores.of_mem {items : List α} (restores : ∀ item ∈ items, Restores read (write item) item)
    (deep : (Json.arr (items.map write)).depth ≤ fuel + 1) : ∀ item ∈ items, read fuel (write item) = some item := by
  intro item member
  have inner := Json.depth_of_mem_items (List.mem_map_of_mem (f := write) member)
  exact restores item member fuel (by omega)

theorem Restores.items {items : List α} (restores : ∀ item ∈ items, Restores read (write item) item)
    (found : json.get? key = some (.arr (items.map write))) (deep : json.depth ≤ fuel + 1) :
    Decode.items (read fuel) json key = some items := by
  have outer := Json.depth_of_get? found
  exact items_found found (of_mem restores (by omega))

end

theorem binaryOp_encode (op : BinaryOp) : binaryOp (Encode.binaryOp op) = some op := by
  cases op <;> rfl

theorem unaryOp_encode (op : UnaryOp) : unaryOp (Encode.unaryOp op) = some op := by
  cases op <;> rfl

theorem wildcard_encode (wildcard : Wildcard) : Decode.wildcard (Encode.wildcard wildcard) = some wildcard := by
  cases wildcard <;> rfl

theorem typeKind_encode (kind : TypeKind) : typeKind (Encode.typeKind kind) = some kind := by
  cases kind <;> rfl

theorem word_nat {n : Nat} (fits : n < 2 ^ 32) : word (.nat n) = some n := by
  have bounded : n < Nat.pow 2 32 := fits
  simpa [word, below, Json.nat, Json.nat?] using bounded

theorem lookup_optional {write : α → Json} (wanted key : String) (o : Option α) :
    (Encode.optional key write o).lookup wanted = if wanted = key then o.map write else none := by
  by_cases same : wanted = key <;> cases o <;> simp [Encode.optional, List.lookup_cons, beq_eq_false_iff_ne.mpr, same]

theorem lookup_nonempty {write : α → Json} (wanted key : String) (items : List α) :
    (Encode.nonempty key write items).lookup wanted =
      if wanted = key then if items.isEmpty then none else some (.arr (items.map write)) else none := by
  by_cases same : wanted = key <;> cases items <;>
    simp [Encode.nonempty, Json.ofList, List.lookup_cons, beq_eq_false_iff_ne.mpr, same]

theorem javaTypes_eq_map (types : List JavaType) : Encode.javaTypes types = types.map Encode.javaType := by
  induction types with
  | nil => rfl
  | cons type rest ih => rw [Encode.javaTypes, ih, List.map_cons]

theorem javaType_eq (type : JavaType) : Encode.javaType type =
    .obj (("name", .str type.name) :: (Encode.nonempty "type_args" Encode.javaType type.arguments
      ++ (if type.dimensions = 0 then [] else [("dims", .nat type.dimensions)])
      ++ Encode.optional "wildcard" Encode.wildcard type.wildcard)) := by
  cases type with
  | mk name arguments dimensions wildcard => rw [Encode.javaType, javaTypes_eq_map]; rfl

mutual

theorem restores_javaType : ∀ {type : JavaType}, type.Fits → Restores javaTypeWithin (Encode.javaType type) type
  | ⟨name, arguments, dimensions, wildcard⟩, ⟨fits, fitAll⟩ => by
    refine .intro fun fuel deep => ?_
    generalize form : Encode.javaType ⟨name, arguments, dimensions, wildcard⟩ = json at deep ⊢
    rw [javaType_eq] at form
    have named : json.get? "name" = some (.str name) := by rw [← form]; rfl
    have applied : json.get? "type_args" =
        if arguments.isEmpty then none else some (.arr (arguments.map Encode.javaType)) := by
      rw [← form]
      split <;> by_cases dimensions = 0 <;>
        simp [Json.get?, List.lookup_cons, List.lookup_append, lookup_optional, lookup_nonempty, *]
    have sized : json.get? "dims" = if dimensions = 0 then none else some (.nat dimensions) := by
      rw [← form]
      split <;> simp [Json.get?, List.lookup_cons, List.lookup_append, lookup_optional, lookup_nonempty, *]
    have wild : json.get? "wildcard" = wildcard.map Encode.wildcard := by
      rw [← form]
      by_cases dimensions = 0 <;>
        simp [Json.get?, List.lookup_cons, List.lookup_append, lookup_optional, lookup_nonempty, *]
    have arguments_eq : items (javaTypeWithin fuel) json "type_args" = some arguments := by
      refine items_nonempty applied fun argument member => restores_javaTypes fitAll argument member fuel ?_
      rw [if_neg (by simpa using List.ne_nil_of_mem member)] at applied
      have outer := Json.depth_of_get? applied
      have inner := Json.depth_of_mem_items (List.mem_map_of_mem (f := Encode.javaType) member)
      omega
    have dimensions_eq : defaulted 0 word json "dims" = some dimensions := by
      split at sized
      · rw [defaulted_missing sized, ‹dimensions = 0›]
      · exact defaulted_found sized (word_nat fits)
    rw [javaTypeWithin, required_str named, arguments_eq, dimensions_eq,
      optional_map wild (fun w => by cases w <;> simp [Encode.wildcard]) fun w _ => wildcard_encode w]
    rfl

theorem restores_javaTypes : ∀ {types : List JavaType}, JavaType.FitAll types →
    ∀ type ∈ types, Restores javaTypeWithin (Encode.javaType type) type
  | [], _ => by simp
  | type :: rest, ⟨fits, fitAll⟩ => by
    intro other member
    obtain same | inside := List.mem_cons.mp member
    · exact same ▸ restores_javaType fits
    · exact restores_javaTypes fitAll other inside

end

theorem javaType_encode {type : JavaType} (fits : type.Fits) : javaType (Encode.javaType type) = some type :=
  restores_javaType fits _ (Nat.le_refl _)

theorem javaType_ne_null (type : JavaType) : Encode.javaType type ≠ .null := by
  simp [javaType_eq]

theorem typeParameter_encode {parameter : TypeParameter} (fits : parameter.Fits) :
    typeParameter (Encode.typeParameter parameter) = some parameter := by
  have bounded : (Encode.typeParameter parameter).get? "bounds" =
      if parameter.bounds.isEmpty then none else some (.arr (parameter.bounds.map Encode.javaType)) := by
    simp [Encode.typeParameter, Json.get?, List.lookup_cons, lookup_nonempty]
  rw [typeParameter, required_str rfl,
    items_nonempty bounded fun bound member => javaType_encode (fits bound member)]
  rfl

theorem span_encode {span : Span} (start : span.start < 2 ^ 32) (length : span.length < 2 ^ 32) :
    Decode.span (Encode.span span) = some span := by
  rw [Decode.span, required_found rfl (word_nat start), required_found rfl (word_nat length)]
  rfl

theorem origin_encode {o : Origin} (fits : o.Fits) : origin (Encode.origin o) = some o := by
  have placed : (Encode.origin o).get? "span" = o.span.map Encode.span := by
    rw [Encode.origin]
    split <;> simp [Json.get?, List.lookup_append, lookup_optional, List.lookup_cons]
  have marked : defaulted 0 marks (Encode.origin o) "flags" = some o.marks := by
    by_cases none : o.marks = 0
    · rw [none]
      refine defaulted_missing ?_
      simp [Encode.origin, none, Json.get?, lookup_optional]
    · refine defaulted_found ?_ (marks_encode o.marks)
      simp [Encode.origin, none, Json.get?, List.lookup_append, lookup_optional]
  rw [origin, marked, optional_map placed (fun _ => by simp [Encode.span])
    fun span member => span_encode (fits span member).1 (fits span member).2]
  rfl

theorem signed_toInt {bits : Nat} {n : Int} (low : -(2 ^ (bits - 1) : Nat) ≤ n) (high : n < (2 ^ (bits - 1) : Nat)) :
    signed bits (.int n) = some n := if_pos ⟨low, high⟩

theorem literal_encode {value : Literal} (fits : value.Fits) : literal (Encode.literal value) = some value := by
  cases value with
  | null | bool | string => rfl
  | int value =>
    change (signed 32 (.int value.toInt)).map (fun n => Literal.int (Int32.ofInt n)) = _
    rw [signed_toInt value.le_toInt value.toInt_lt, Option.map_some, Int32.ofInt_toInt]
  | long value =>
    change (signed 64 (.int value.toInt)).map (fun n => Literal.long (Int64.ofInt n)) = _
    rw [signed_toInt value.le_toInt value.toInt_lt, Option.map_some, Int64.ofInt_toInt]
  | char value =>
    change (char (.str (String.singleton value))).map Literal.char = _
    simp [char, Json.str?]
  | double value =>
    change (double (Encode.double value)).map Literal.double = _
    rw [Encode.double, fits.1, fits.2]
    rfl

end Decode

end Syntax

end JavaWeave
