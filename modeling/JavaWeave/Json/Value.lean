/-! JSON values. Whole numbers and floating-point numbers are kept apart, and an object keeps its members in
the order they were written. Text that is well formed but stands for no value has a place of its own, so that
it can be passed over where nobody asks for it. -/

namespace JavaWeave

inductive Json where
  | null
  | bool (value : Bool)
  | int (value : Int)
  | float (value : Float)
  | str (value : String)
  | arr (items : List Json)
  | obj (members : List (String × Json))
  /-- Well formed, but without a value: a string with half of a surrogate pair, a number beyond the doubles, an
  object with such a string for a key, or a collection that is nested too deeply. -/
  | unreadable
  deriving Repr, Inhabited

namespace Json

/-- The member of an object with the given key. -/
def get? : Json → String → Option Json
  | .obj members, key => members.lookup key
  | _, _ => none

/-- A member that counts as absent when it is `null`. -/
def given? (json : Json) (key : String) : Option Json :=
  match json.get? key with
  | some .null => none
  | found => found

def str? : Json → Option String
  | .str value => some value
  | _ => none

def arr? : Json → Option (List Json)
  | .arr items => some items
  | _ => none

def bool? : Json → Option Bool
  | .bool value => some value
  | _ => none

/-- A whole number that is not negative. -/
def nat? : Json → Option Nat
  | .int (.ofNat value) => some value
  | _ => none

def isNull : Json → Bool
  | .null => true
  | _ => false

/-- `null` for no value. -/
def ofOption (write : α → Json) : Option α → Json
  | none => .null
  | some value => write value

def ofList (write : α → Json) (items : List α) : Json := .arr (items.map write)

/-- A natural number as JSON. -/
def nat (n : Nat) : Json := .int n

mutual

/-- How deeply values are nested. -/
def depth : Json → Nat
  | .arr items => depthItems items + 1
  | .obj members => depthMembers members + 1
  | _ => 1

def depthItems : List Json → Nat
  | [] => 0
  | item :: rest => max item.depth (depthItems rest)

def depthMembers : List (String × Json) → Nat
  | [] => 0
  | (_, value) :: rest => max value.depth (depthMembers rest)

end

mutual

/-- Whether every part of a value can be read. -/
def isReadable : Json → Bool
  | .arr items => readableItems items
  | .obj members => readableMembers members
  | .unreadable => false
  | _ => true

def readableItems : List Json → Bool
  | [] => true
  | item :: rest => item.isReadable && readableItems rest

def readableMembers : List (String × Json) → Bool
  | [] => true
  | (_, value) :: rest => value.isReadable && readableMembers rest

end

mutual

/-- Whether two values are written alike, with numbers compared as numbers. Every value is like itself. -/
def same : Json → Json → Bool
  | .null, .null => true
  | .bool a, .bool b => a == b
  | .int a, .int b => a == b
  | .float a, .float b => a == b || a.toBits == b.toBits
  | .str a, .str b => a == b
  | .arr a, .arr b => sameItems a b
  | .obj a, .obj b => sameMembers a b
  | .unreadable, .unreadable => true
  | _, _ => false

def sameItems : List Json → List Json → Bool
  | [], [] => true
  | a :: restA, b :: restB => same a b && sameItems restA restB
  | _, _ => false

def sameMembers : List (String × Json) → List (String × Json) → Bool
  | [], [] => true
  | (keyA, a) :: restA, (keyB, b) :: restB => keyA == keyB && same a b && sameMembers restA restB
  | _, _ => false

end

mutual

theorem same_self : ∀ a : Json, same a a = true
  | .null | .unreadable => rfl
  | .bool _ | .int _ | .float _ | .str _ => by simp [same]
  | .arr items => sameItems_self items
  | .obj members => sameMembers_self members

theorem sameItems_self : ∀ items : List Json, sameItems items items = true
  | [] => rfl
  | item :: rest => by simp [sameItems, same_self item, sameItems_self rest]

theorem sameMembers_self : ∀ members : List (String × Json), sameMembers members members = true
  | [] => rfl
  | (_, value) :: rest => by simp [sameMembers, same_self value, sameMembers_self rest]

end

end Json

end JavaWeave
