import JavaWeave.Types.Table

namespace JavaWeave.TypeTable

open Syntax

private def t (name : String) : JavaType := .named name

private def of (name : String) (arguments : List String) : JavaType := (t name).apply (arguments.map t)

private def method (name : String) (returnType : JavaType) (parameters : List JavaType) : Signature :=
  { name, returnType, parameters }

/-- The methods of every collection. -/
def collectionMethods : List Signature :=
  [method "add" (t "boolean") [t "E"],
   method "addAll" (t "boolean") [of "java.util.Collection" ["E"]],
   method "size" (t "int") [],
   method "isEmpty" (t "boolean") [],
   method "iterator" (of "java.util.Iterator" ["E"]) [],
   method "clear" (t "void") []]

/-- The methods of every map. -/
def mapMethods : List Signature :=
  [method "put" (t "V") [t "K", t "V"],
   method "putAll" (t "void") [of "java.util.Map" ["K", "V"]],
   method "get" (t "V") [t "Object"],
   method "size" (t "int") [],
   method "clear" (t "void") []]

private def collection (kind : TypeKind) (name parent : String) : TypeInfo :=
  { qualifiedName := name, kind, typeParameters := ["E"], supertypes := [parent],
    methods := collectionMethods }

private def map (kind : TypeKind) (name : String) (parents : List String) : TypeInfo :=
  { qualifiedName := name, kind, typeParameters := ["K", "V"], supertypes := parents,
    methods := mapMethods }

private def throwable (name parent : String) : TypeInfo :=
  { qualifiedName := name, kind := .plain, supertypes := [parent] }

/-- The library types. -/
def libraryTypes : List TypeInfo :=
  [{ qualifiedName := "java.lang.Iterable", kind := .interface, typeParameters := ["E"],
     methods := [method "iterator" (of "java.util.Iterator" ["E"]) []] },
   { qualifiedName := "java.util.Iterator", kind := .interface, typeParameters := ["E"],
     methods := [method "hasNext" (t "boolean") [], method "next" (t "E") [],
       method "remove" (t "void") []] },
   collection .interface "java.util.Collection" "java.lang.Iterable",
   collection .interface "java.util.List" "java.util.Collection",
   collection .interface "java.util.Set" "java.util.Collection",
   collection .interface "java.util.Queue" "java.util.Collection",
   collection .interface "java.util.SortedSet" "java.util.Set",
   collection .interface "java.util.Deque" "java.util.Queue",
   collection .plain "java.util.ArrayList" "java.util.List",
   collection .plain "java.util.LinkedList" "java.util.List",
   collection .plain "java.util.concurrent.CopyOnWriteArrayList" "java.util.List",
   collection .plain "java.util.HashSet" "java.util.Set",
   collection .plain "java.util.LinkedHashSet" "java.util.Set",
   collection .plain "java.util.TreeSet" "java.util.SortedSet",
   collection .plain "java.util.ArrayDeque" "java.util.Deque",
   map .interface "java.util.Map" [],
   map .interface "java.util.SortedMap" ["java.util.Map"],
   map .plain "java.util.HashMap" ["java.util.Map"],
   map .plain "java.util.LinkedHashMap" ["java.util.HashMap"],
   map .plain "java.util.TreeMap" ["java.util.SortedMap"],
   map .plain "java.util.concurrent.ConcurrentHashMap" ["java.util.Map"],
   { qualifiedName := "java.util.EventListener", kind := .interface },
   { qualifiedName := "java.beans.PropertyChangeListener", kind := .interface,
     supertypes := ["java.util.EventListener"],
     methods := [method "propertyChange" (t "void") [t "java.beans.PropertyChangeEvent"]] },
   { qualifiedName := "java.lang.Runnable", kind := .interface, methods := [method "run" (t "void") []] },
   throwable "java.lang.Throwable" "java.lang.Object",
   throwable "java.lang.Exception" "java.lang.Throwable",
   throwable "java.lang.Error" "java.lang.Throwable",
   throwable "java.lang.RuntimeException" "java.lang.Exception",
   throwable "java.lang.InterruptedException" "java.lang.Exception",
   throwable "java.io.IOException" "java.lang.Exception",
   throwable "java.lang.IllegalArgumentException" "java.lang.RuntimeException",
   throwable "java.lang.IllegalStateException" "java.lang.RuntimeException",
   throwable "java.lang.UnsupportedOperationException" "java.lang.RuntimeException",
   throwable "java.util.NoSuchElementException" "java.lang.RuntimeException",
   throwable "java.util.ConcurrentModificationException" "java.lang.RuntimeException"]

/-- The library types by simple and by qualified name. -/
def library : TypeTable :=
  ⟨libraryTypes.flatMap fun info => [(info.qualifiedName, info), (info.simpleName, info)]⟩

/-- The types declared in source files, then those of the library. -/
def ofUnits (units : List CompilationUnit) : TypeTable :=
  (units.foldl addUnit {}).orElse library

end JavaWeave.TypeTable
