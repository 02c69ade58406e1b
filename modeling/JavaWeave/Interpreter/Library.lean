import JavaWeave.Text.Search

namespace JavaWeave.Interpreter.Library

/-- Classes of exceptions, each with the class it extends. -/
def exceptions : List (String × String) :=
  [("Throwable", "Object"),
   ("Exception", "Throwable"),
   ("Error", "Throwable"),
   ("RuntimeException", "Exception"),
   ("IllegalArgumentException", "RuntimeException"),
   ("NumberFormatException", "IllegalArgumentException"),
   ("IllegalStateException", "RuntimeException"),
   ("IllegalMonitorStateException", "RuntimeException"),
   ("UnsupportedOperationException", "RuntimeException"),
   ("NoSuchElementException", "RuntimeException"),
   ("ConcurrentModificationException", "RuntimeException"),
   ("NullPointerException", "RuntimeException"),
   ("ArithmeticException", "RuntimeException"),
   ("ClassCastException", "RuntimeException"),
   ("IndexOutOfBoundsException", "RuntimeException"),
   ("ArrayIndexOutOfBoundsException", "IndexOutOfBoundsException"),
   ("NegativeArraySizeException", "RuntimeException"),
   ("MissingFormatArgumentException", "IllegalArgumentException"),
   ("IOException", "Exception"),
   ("FileNotFoundException", "IOException"),
   ("InterruptedException", "Exception"),
   ("SQLException", "Exception"),
   ("PrivilegedActionException", "Exception"),
   ("InvocationTargetException", "Exception"),
   ("PropertyVetoException", "Exception"),
   ("StackOverflowError", "Error")]

private def sequence : List String := ["List", "Collection", "Iterable"]

private def ordered : List String := ["Number", "Comparable"]

/-- Other types, each with everything it is a subtype of. -/
def types : List (String × List String) :=
  [("Object", []), ("Void", []), ("String", ["CharSequence", "Comparable"]), ("Integer", ordered),
   ("Long", ordered), ("Double", ordered), ("Float", ordered), ("Short", ordered), ("Byte", ordered),
   ("Character", ["Comparable"]), ("Boolean", ["Comparable"]), ("Number", []), ("CharSequence", []),
   ("Comparable", []), ("Math", []), ("System", []), ("Collections", []), ("Arrays", []),
   ("Objects", []), ("Thread", ["Runnable"]), ("EventQueue", []), ("AccessController", []),
   ("ArrayList", sequence), ("LinkedList", sequence), ("CopyOnWriteArrayList", sequence),
   ("Vector", sequence), ("List", ["Collection", "Iterable"]), ("Set", ["Collection", "Iterable"]),
   ("Collection", ["Iterable"]), ("Iterable", []), ("Iterator", []), ("HashMap", ["Map"]),
   ("LinkedHashMap", ["Map"]), ("TreeMap", ["Map"]), ("ConcurrentHashMap", ["Map"]), ("Map", []),
   ("ReentrantLock", ["Lock"]), ("ReentrantReadWriteLock", ["ReadWriteLock"]), ("Lock", []),
   ("ReadWriteLock", []), ("Condition", []), ("Runnable", []), ("PrivilegedAction", []),
   ("PrivilegedExceptionAction", [])]

/-- The class that a class of exceptions extends. A name that is not known tells by its ending. -/
def parent? (type : String) : Option String :=
  match exceptions.lookup type with
  | some parent => some parent
  | none =>
    if Text.endsWith type "Exception" then some "Exception"
    else if Text.endsWith type "Error" then some "Error"
    else none

/-- Whether a name is that of a class of exceptions. -/
def isThrowable (type : String) : Bool := (parent? type).isSome

def isKnown (type : String) : Bool := (types.lookup type).isSome || isThrowable type

/-- The classes above a class of exceptions; the number bounds how many. -/
def ancestors : Nat → String → List String
  | 0, _ => []
  | height + 1, type =>
    match parent? type with
    | some parent => parent :: ancestors height parent
    | none => []

/-- Whether a library class is a subtype of another. -/
def isSubtype (type target : String) : Bool :=
  type == target || target == "Object"
    || match types.lookup type with
      | some above => above.contains target
      | none => (ancestors (exceptions.length + 1) type).contains target

/-- Whether exceptions of a class have to be declared. -/
def isChecked (type : String) : Bool := !isSubtype type "RuntimeException" && !isSubtype type "Error"

end JavaWeave.Interpreter.Library
