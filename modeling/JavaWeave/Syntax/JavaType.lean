import JavaWeave.Names

namespace JavaWeave.Syntax

/-- The wildcard in front of a type argument. -/
inductive Wildcard where
  | unbound
  | upper
  | lower
  deriving DecidableEq, Repr

/-- A type as written in source text. -/
structure JavaType where
  name : String
  arguments : List JavaType := []
  dimensions : Nat := 0
  wildcard : Option Wildcard := none
  deriving Repr, Inhabited

namespace JavaType

mutual

/-- Whether two types are written alike. -/
def same : JavaType → JavaType → Bool
  | ⟨n, a, d, w⟩, ⟨n', a', d', w'⟩ => n == n' && sameAll a a' && d == d' && w == w'

def sameAll : List JavaType → List JavaType → Bool
  | [], [] => true
  | a :: rest, a' :: rest' => same a a' && sameAll rest rest'
  | _, _ => false

end

mutual

theorem eq_of_same : ∀ {a b : JavaType}, same a b = true → a = b
  | ⟨_, _, _, _⟩, ⟨_, _, _, _⟩, h => by
    simp only [same, Bool.and_eq_true, beq_iff_eq] at h
    obtain ⟨⟨⟨rfl, arguments⟩, rfl⟩, rfl⟩ := h
    rw [eq_of_sameAll arguments]

theorem eq_of_sameAll : ∀ {a b : List JavaType}, sameAll a b = true → a = b
  | [], [], _ => rfl
  | _ :: _, _ :: _, h => by
    simp only [sameAll, Bool.and_eq_true] at h
    rw [eq_of_same h.1, eq_of_sameAll h.2]
  | [], _ :: _, h => by simp [sameAll] at h
  | _ :: _, [], h => by simp [sameAll] at h

end

mutual

theorem same_self : ∀ a : JavaType, same a a = true
  | ⟨_, arguments, _, _⟩ => by simp [same, sameAll_self arguments]

theorem sameAll_self : ∀ a : List JavaType, sameAll a a = true
  | [] => rfl
  | a :: rest => by simp [sameAll, same_self a, sameAll_self rest]

end

instance : DecidableEq JavaType := fun a b =>
  if h : same a b = true then isTrue (eq_of_same h)
  else isFalse fun equal => h (equal ▸ same_self a)

/-- The type with no arguments of the given name. -/
def named (name : String) : JavaType := { name }

def void : JavaType := named "void"

def object : JavaType := named "java.lang.Object"

def string : JavaType := named "String"

/-- The wildcard without bound. -/
def anything : JavaType := { name := "?", wildcard := some .unbound }

/-- Any subtype of the bound. -/
def extending (bound : JavaType) : JavaType := { bound with wildcard := some .upper }

/-- Any supertype of the bound. -/
def superOf (bound : JavaType) : JavaType := { bound with wildcard := some .lower }

/-- The type applied to further arguments. -/
def apply (type : JavaType) (arguments : List JavaType) : JavaType :=
  { type with arguments := type.arguments ++ arguments }

/-- The type of arrays with this element type. -/
def arrayOf (type : JavaType) : JavaType := { type with dimensions := type.dimensions + 1 }

/-- The element type of an array type. -/
def element? (type : JavaType) : Option JavaType :=
  if type.dimensions > 0 then some { type with dimensions := type.dimensions - 1 } else none

def simpleName (type : JavaType) : String := Names.simple type.name

/-- Whether the type has the given name, plainly or qualified. -/
def isNamed (type : JavaType) (wanted : String) : Bool := Names.denotes type.name wanted

def isVoid (type : JavaType) : Bool := type.dimensions == 0 && type.name == "void"

/-- The names of the primitive types. -/
def primitives : List String :=
  ["boolean", "byte", "char", "short", "int", "long", "float", "double"]

def isPrimitive (type : JavaType) : Bool := type.dimensions == 0 && primitives.contains type.name

def isBoolean (type : JavaType) : Bool := type.dimensions == 0 && type.name == "boolean"

/-- The class of objects that hold a primitive value; any other type stays. -/
def boxed (type : JavaType) : JavaType :=
  if type.isPrimitive then
    match type.name with
    | "boolean" => named "Boolean"
    | "byte" => named "Byte"
    | "char" => named "Character"
    | "short" => named "Short"
    | "int" => named "Integer"
    | "long" => named "Long"
    | "float" => named "Float"
    | _ => named "Double"
  else type

end JavaType

/-- A type parameter with its bounds. -/
structure TypeParameter where
  name : String
  bounds : List JavaType := []
  deriving DecidableEq, Repr, Inhabited

end JavaWeave.Syntax
