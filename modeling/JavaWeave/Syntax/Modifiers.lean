import JavaWeave.Names
import JavaWeave.Span

namespace JavaWeave.Syntax

inductive Modifier where
  | publicAccess
  | privateAccess
  | protectedAccess
  | static
  | final
  | abstract
  | synchronized
  | transient
  | volatile
  | native
  | strictfp
  deriving DecidableEq, Repr

namespace Modifier

/-- All modifiers in the order of their bits. -/
def all : List Modifier :=
  [.publicAccess, .privateAccess, .protectedAccess, .static, .final, .abstract, .synchronized, .transient,
   .volatile, .native, .strictfp]

/-- The bit of a modifier. -/
def bit : Modifier → UInt16
  | .publicAccess => 0x1
  | .privateAccess => 0x2
  | .protectedAccess => 0x4
  | .static => 0x8
  | .final => 0x10
  | .abstract => 0x20
  | .synchronized => 0x40
  | .transient => 0x80
  | .volatile => 0x100
  | .native => 0x200
  | .strictfp => 0x400

/-- The word for a modifier in source text. -/
def keyword : Modifier → String
  | .publicAccess => "public"
  | .privateAccess => "private"
  | .protectedAccess => "protected"
  | .static => "static"
  | .final => "final"
  | .abstract => "abstract"
  | .synchronized => "synchronized"
  | .transient => "transient"
  | .volatile => "volatile"
  | .native => "native"
  | .strictfp => "strictfp"

/-- The order in which modifiers are written. -/
def written : List Modifier :=
  [.publicAccess, .protectedAccess, .privateAccess, .abstract, .static, .final, .transient, .volatile,
   .synchronized, .native, .strictfp]

end Modifier

/-- A set of modifiers. -/
structure Modifiers where
  bits : UInt16 := 0
  deriving DecidableEq, Repr, Inhabited

/-- How widely a member can be seen; `nothing` asks for no member at all. -/
inductive Access where
  | publicAccess
  | protectedAccess
  | packageAccess
  | privateAccess
  | nothing
  deriving DecidableEq, Repr

namespace Modifiers

def has (set : Modifiers) (modifier : Modifier) : Bool := set.bits &&& modifier.bit == modifier.bit

def union (a b : Modifiers) : Modifiers := ⟨a.bits ||| b.bits⟩

def insert (set : Modifiers) (modifier : Modifier) : Modifiers := ⟨set.bits ||| modifier.bit⟩

def erase (set : Modifiers) (modifier : Modifier) : Modifiers := ⟨set.bits &&& ~~~modifier.bit⟩

def ofList (modifiers : List Modifier) : Modifiers := modifiers.foldl insert {}

/-- The bits that say how widely a member can be seen. -/
def accessBits : UInt16 := 0x7

/-- The words of a set in the order in which they are written. -/
def keywords (set : Modifiers) : List String :=
  (Modifier.written.filter set.has).map Modifier.keyword

end Modifiers

namespace Access

/-- The modifiers that stand for an access level. -/
def modifiers : Access → Modifiers
  | .publicAccess => .ofList [.publicAccess]
  | .protectedAccess => .ofList [.protectedAccess]
  | .privateAccess => .ofList [.privateAccess]
  | .packageAccess | .nothing => {}

/-- The access level that a possibly qualified constant names. -/
def ofConstant? (name : String) : Option Access :=
  match Names.simple name with
  | "PUBLIC" => some .publicAccess
  | "PROTECTED" => some .protectedAccess
  | "PACKAGE" | "MODULE" => some .packageAccess
  | "PRIVATE" => some .privateAccess
  | "NONE" => some .nothing
  | _ => none

end Access

namespace Modifiers

/-- The set with another access level and all else kept. -/
def withAccess (set : Modifiers) (access : Access) : Modifiers :=
  ⟨(set.bits &&& ~~~accessBits) ||| access.modifiers.bits⟩

/-- The widest access level of a set. -/
def access (set : Modifiers) : Access :=
  if set.has .publicAccess then .publicAccess
  else if set.has .protectedAccess then .protectedAccess
  else if set.has .privateAccess then .privateAccess
  else .packageAccess

end Modifiers

/-- Where a declaration comes from: its place in the source and a set of marks, of which the lowest says
that it was generated. -/
structure Origin where
  span : Option Span := none
  marks : UInt8 := 0
  deriving DecidableEq, Repr, Inhabited

namespace Origin

/-- The mark of generated declarations. -/
def synthesized : UInt8 := 1

def isSynthesized (origin : Origin) : Bool := origin.marks &&& synthesized == synthesized

/-- Marks a declaration as generated; one that has no place yet gets the given one. -/
def stamp (origin : Origin) (span : Option Span) : Origin :=
  { marks := origin.marks ||| synthesized, span := origin.span <|> span }

end Origin

end JavaWeave.Syntax
