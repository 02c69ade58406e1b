import JavaWeave.Project.Program
import JavaWeave.Proofs.Text.Pieces
import Mathlib.Data.List.Nodup

namespace JavaWeave

namespace Path

/-- Whether a path ends where the name of a file can be put behind it. -/
def isOpen (path : String) : Bool := path.isEmpty || Text.endsWith path "/"

/-- A path up to its last slash, and the segment behind it. -/
def cutLast (path : String) : String × String :=
  (String.ofList (path.toList.reverse.dropWhile (· != '/')).reverse,
    String.ofList (path.toList.reverse.takeWhile (· != '/')).reverse)

theorem cutLast_append (path : String) : (cutLast path).1 ++ (cutLast path).2 = path := by
  apply String.ext
  simp [cutLast, ← List.reverse_append, List.takeWhile_append_dropWhile]

theorem isOpen_cutLast (path : String) : isOpen (cutLast path).1 = true := by
  cases kept : path.toList.reverse.dropWhile (· != '/') with
  | nil => simp [isOpen, cutLast, kept]
  | cons c rest =>
    have slash : c = '/' := by
      have stops := List.head?_dropWhile_not (· != '/') path.toList.reverse
      simpa [kept] using stops
    simp [isOpen, cutLast, kept, Text.endsWith, slash, List.isSuffixOf]

theorem slash_not_mem_cutLast (path : String) : '/' ∉ (cutLast path).2.toList := by
  simp only [cutLast, String.toList_ofList, List.mem_reverse]
  intro member
  have holds := List.all_eq_true.mp List.all_takeWhile _ member
  simp at holds

/-- A segment behind a directory is what is cut off. -/
theorem cutLast_of_isOpen {base name : String} (opened : isOpen base = true) (plain : '/' ∉ name.toList) :
    cutLast (base ++ name) = (base, name) := by
  have own : ∀ c ∈ name.toList.reverse, (c != '/') = true := by
    simp only [List.mem_reverse, bne_iff_ne]
    exact fun c member slash => plain (slash ▸ member)
  have stops : base.toList.reverse.takeWhile (· != '/') = [] := by
    cases letters : base.toList.reverse with
    | nil => rfl
    | cons c rest =>
      have nonempty : base ≠ "" := by rintro rfl; simp at letters
      have closed : Text.endsWith base "/" = true := by simpa [isOpen, nonempty] using opened
      have slash : c = '/' := by
        obtain ⟨front, whole⟩ := List.isSuffixOf_iff_suffix.mp closed
        rw [← whole] at letters
        simp at letters
        exact letters.1.symm
      simp [slash]
  have stays : base.toList.reverse.dropWhile (· != '/') = base.toList.reverse := by
    have whole : base.toList.reverse.takeWhile (· != '/') ++ base.toList.reverse.dropWhile (· != '/') =
        base.toList.reverse := List.takeWhile_append_dropWhile
    rwa [stops, List.nil_append] at whole
  simp [cutLast, List.takeWhile_append_of_pos own, List.dropWhile_append_of_pos own, stops, stays]

/-- A name that is a segment of its own. -/
structure IsName (name : String) : Prop where
  plain : '/' ∉ name.toList
  some : name ≠ ""
  current : name ≠ "."
  up : name ≠ ".."

theorem componentOf_name {name : String} (isName : IsName name) : componentOf name = .name name := by
  simp [componentOf, isName.up]

theorem isTrivial_name {name : String} (isName : IsName name) : isTrivial name = false := by
  simp [isTrivial, isName.some, isName.current]

theorem isAbsolute_name {name : String} (isName : IsName name) : isAbsolute name = false := by
  cases letters : name.toList with
  | nil => exact absurd (String.toList_eq_nil_iff.mp letters) isName.some
  | cons c rest =>
    have other : c ≠ '/' := fun slash => isName.plain (by simp [letters, slash])
    simp [isAbsolute, Text.startsWith, letters, List.isPrefixOf, Ne.symm other]

theorem components_name {name : String} (isName : IsName name) : components name = [.name name] := by
  unfold components
  rw [Text.split_of_not_mem isName.plain]
  simp [isAbsolute_name isName, isName.some, isName.current, componentOf_name isName]

theorem isAbsolute_append {base : String} (given : base ≠ "") (name : String) :
    isAbsolute (base ++ name) = isAbsolute base := by
  cases letters : base.toList with
  | nil => exact absurd (String.toList_eq_nil_iff.mp letters) given
  | cons c rest => simp [isAbsolute, Text.startsWith, letters, List.isPrefixOf]

/-- The file of a name in a directory is one component further. -/
theorem components_append_name {base name : String} (isOpen : isOpen base = true) (isName : IsName name) :
    components (base ++ name) = components base ++ [.name name] := by
  by_cases empty : base = ""
  · subst empty
    rw [String.empty_append, components_name isName]
    rfl
  · obtain ⟨front, ended⟩ : ∃ front, base.toList = front ++ ['/'] := by
      have closed : Text.endsWith base "/" = true := by simpa [Path.isOpen, empty] using isOpen
      obtain ⟨front, whole⟩ := List.isSuffixOf_iff_suffix.mp closed
      exact ⟨front, whole.symm⟩
    obtain ⟨first, rest, front⟩ := List.exists_cons_of_ne_nil (Text.pieces_ne_nil '/' front)
    have before : Text.split '/' base = (first :: (rest ++ [[]])).map String.ofList := by
      rw [Text.split, ended, Text.pieces_mark, front]
      rfl
    have after : Text.split '/' (base ++ name) = (first :: (rest ++ [name.toList])).map String.ofList := by
      rw [Text.split, String.toList_append, ended, List.append_assoc, List.singleton_append, Text.pieces_mark,
        front, Text.pieces_of_not_mem isName.plain]
      rfl
    unfold components
    rw [before, after, isAbsolute_append empty]
    have blank : isTrivial "" = true := rfl
    simp [isTrivial_name isName, componentOf_name isName, blank]

/-- A slash behind a path says nothing. -/
theorem components_append_slash {base : String} (given : base ≠ "") : components (base ++ "/") = components base := by
  obtain ⟨first, rest, parts⟩ := List.exists_cons_of_ne_nil (Text.pieces_ne_nil '/' base.toList)
  have before : Text.split '/' base = (first :: rest).map String.ofList := by rw [Text.split, parts]
  have after : Text.split '/' (base ++ "/") = (first :: (rest ++ [[]])).map String.ofList := by
    have mark : (base ++ "/").toList = base.toList ++ '/' :: [] := by simp
    rw [Text.split, mark, Text.pieces_mark, parts]
    rfl
  have blank : isTrivial "" = true := rfl
  unfold components
  rw [before, after, isAbsolute_append given]
  simp [blank]

theorem isAbsolute_withEnding (path : String) {ending : String} (plain : '/' ∉ ending.toList) :
    isAbsolute (path ++ ending) = isAbsolute path := by
  by_cases empty : path = ""
  · subst empty
    cases letters : ending.toList with
    | nil => simp [String.toList_eq_nil_iff.mp letters]
    | cons c rest =>
      have other : c ≠ '/' := fun slash => plain (by simp [letters, slash])
      simp [isAbsolute, Text.startsWith, letters, List.isPrefixOf, Ne.symm other]
  · exact isAbsolute_append empty ending

/-- An ending stays behind the path that it is put behind. -/
theorem join_withEnding (base path : String) {ending : String} (plain : '/' ∉ ending.toList) :
    join base (path ++ ending) = join base path ++ ending := by
  unfold join
  rw [isAbsolute_withEnding path plain]
  split
  · rfl
  · split <;> simp [String.append_assoc]

end Path

namespace Project

open Syntax

namespace Emission

variable (emission : Emission)

/-- Where the files of a unit go: their directory, and their name in it without an ending. -/
def place (unit : CompilationUnit) : List Path.Component × String :=
  let (directory, name) := Path.cutLast (Path.join (emission.directory unit) (outputStem unit))
  (Path.components directory, name)

theorem components_outputPath (unit : CompilationUnit) (ending : String) (plain : '/' ∉ ending.toList)
    (long : 2 < ending.length) :
    Path.components (emission.outputPath unit ending) =
      (emission.place unit).1 ++ [.name ((emission.place unit).2 ++ ending)] := by
  have cut := Path.cutLast_append (Path.join (emission.directory unit) (outputStem unit))
  have opened := Path.isOpen_cutLast (Path.join (emission.directory unit) (outputStem unit))
  have named := Path.slash_not_mem_cutLast (Path.join (emission.directory unit) (outputStem unit))
  unfold outputPath place
  rw [Path.join_withEnding _ _ plain]
  revert cut opened named
  generalize Path.cutLast (Path.join (emission.directory unit) (outputStem unit)) = parts
  obtain ⟨directory, name⟩ := parts
  intro cut opened named
  rw [← cut, String.append_assoc]
  have lengthy : 2 < (name ++ ending).length := by
    rw [String.length_append]
    omega
  refine Path.components_append_name opened ⟨?_, ?_, ?_, ?_⟩
  · rw [String.toList_append, List.mem_append]
    exact not_or.mpr ⟨named, plain⟩
  all_goals
    intro same
    rw [same] at lengthy
    exact absurd lengthy (by decide)

/-- The paths of the files written for a unit. -/
def paths (unit : CompilationUnit) : List String := (emission.outputs unit).map (·.path)

/-- The files that are written to a place. -/
def filesAt (place : List Path.Component × String) : List (List Path.Component) :=
  (place.1 ++ [.name (place.2 ++ ".java")]) ::
    if emission.withTree then [place.1 ++ [.name (place.2 ++ ".ast.json")]] else []

theorem components_paths (unit : CompilationUnit) :
    (emission.paths unit).map Path.components = emission.filesAt (emission.place unit) := by
  have source := emission.components_outputPath unit ".java" (by decide) (by decide)
  have tree := emission.components_outputPath unit ".ast.json" (by decide) (by decide)
  unfold paths outputs filesAt
  split <;> simp [source, tree]

theorem name_append_ne (first second : String) : first ++ ".java" ≠ second ++ ".ast.json" := by
  intro same
  have last := congrArg (fun text => text.toList.getLast?) same
  simp at last

theorem nodup_filesAt (place : List Path.Component × String) : (emission.filesAt place).Nodup := by
  unfold filesAt
  split
  · simp
  · simp

theorem mem_filesAt {place : List Path.Component × String} {file : List Path.Component}
    (listed : file ∈ emission.filesAt place) :
    ∃ ending, (ending = ".java" ∨ ending = ".ast.json") ∧ file = place.1 ++ [.name (place.2 ++ ending)] := by
  unfold filesAt at listed
  rcases List.mem_cons.mp listed with source | tree
  · exact ⟨".java", .inl rfl, source⟩
  · split at tree
    · exact ⟨".ast.json", .inr rfl, List.mem_singleton.mp tree⟩
    · exact absurd tree List.not_mem_nil

/-- A name and its ending are told from each other. -/
theorem name_append_inj {first second ending other : String} (known : ending = ".java" ∨ ending = ".ast.json")
    (known' : other = ".java" ∨ other = ".ast.json") (same : first ++ ending = second ++ other) :
    first = second := by
  have letters := congrArg String.toList same
  simp only [String.toList_append] at letters
  rcases known with rfl | rfl <;> rcases known' with rfl | rfl
  · exact String.toList_inj.mp (List.append_cancel_right letters)
  · exact absurd same (name_append_ne first second)
  · exact absurd same.symm (name_append_ne second first)
  · exact String.toList_inj.mp (List.append_cancel_right letters)

/-- Two places share a file only if they are one. -/
theorem disjoint_filesAt (first second : List Path.Component × String) :
    List.Disjoint (emission.filesAt first) (emission.filesAt second) ↔ first ≠ second := by
  constructor
  · rintro disjoint rfl
    exact disjoint List.mem_cons_self List.mem_cons_self
  · intro apart file here there
    obtain ⟨ending, known, rfl⟩ := emission.mem_filesAt here
    obtain ⟨other, known', same⟩ := emission.mem_filesAt there
    obtain ⟨directories, names⟩ := List.append_inj' same rfl
    have names : first.2 ++ ending = second.2 ++ other := by simpa using names
    exact apart (Prod.ext directories (name_append_inj known known' names))

/-- No two files written have one path exactly if no two units go to one place. -/
theorem nodup_paths (units : List CompilationUnit) :
    ((units.flatMap emission.paths).map Path.components).Nodup ↔ (units.map emission.place).Nodup := by
  have places : (units.map emission.place).Nodup ↔
      units.Pairwise fun first second => emission.place first ≠ emission.place second := List.pairwise_map
  rw [List.map_flatMap, List.nodup_flatMap, places]
  simp only [components_paths, nodup_filesAt, implies_true, true_and]
  exact List.Pairwise.iff fun first second => emission.disjoint_filesAt _ _

end Emission

/-- Steps that can only return one value. -/
def ReturnsOnly {m : Type → Type} [Monad m] (value : α) (action : m α) : Prop :=
  (fun _ => value) <$> action = action

section

variable {m : Type → Type} [Monad m] [LawfulMonad m]

theorem ReturnsOnly.bind_eq {value : α} {action : m α} (only : ReturnsOnly value action) (next : α → m β) :
    action >>= next = action >>= fun _ => next value := by
  rw [← only, bind_map_left, bind_map_left]

theorem ReturnsOnly.mapM {f : α → m β} {g : α → β} (each : ∀ item, ReturnsOnly (g item) (f item))
    (items : List α) :
    ReturnsOnly (items.map g) (items.mapM f) := by
  induction items with
  | nil => simp [ReturnsOnly]
  | cons item rest inductionHypothesis =>
    have whole : (item :: rest).mapM f =
        f item >>= fun _ => rest.mapM f >>= fun _ => pure (g item :: rest.map g) := by
      rw [List.mapM_cons, (each item).bind_eq]
      simp only [inductionHypothesis.bind_eq]
    unfold ReturnsOnly
    rw [whole]
    simp

variable (files : FileSystem m) (emission : Emission)

theorem writeUnit_returns (unit : CompilationUnit) :
    ReturnsOnly (emission.paths unit) (writeUnit files emission unit) := by
  simp [ReturnsOnly, writeUnit, Emission.paths]

/-- Writing says of every unit where its files went. -/
theorem write_returns (program : Program) :
    ReturnsOnly (program.units.flatMap emission.paths) (write files emission program) := by
  have each := ReturnsOnly.mapM (writeUnit_returns files emission) program.units
  unfold ReturnsOnly write
  rw [each.bind_eq]
  simp [List.flatMap]

end

/-- The written files have different paths exactly if no two units go to one place: to one directory, under one
name without ending. -/
theorem written_nodup_iff (emission : Emission) (program : Program) {tree after : FileTree} {written : List String}
    (ran : (write FileTree.fileSystem emission program).run tree = (.ok written, after)) :
    (written.map Path.components).Nodup ↔ (program.units.map emission.place).Nodup := by
  have named : written = program.units.flatMap emission.paths := by
    have returned := congrFun (write_returns FileTree.fileSystem emission program) tree
    change write FileTree.fileSystem emission program tree = _ at ran
    simp only [Functor.map, ExceptT.map, ExceptT.mk, bind, StateT.bind, ran] at returned
    have results : (Except.ok (program.units.flatMap emission.paths) : Except Failure _) = .ok written :=
      congrArg Prod.fst returned
    exact (Except.ok.inj results).symm
  rw [named]
  exact emission.nodup_paths program.units

/-- Two units that go to different directories although they are named alike. -/
theorem written_nodup_iff_packages :
    let units : List CompilationUnit := [{ fileName := "a/Foo", package := some "a" }, { fileName := "b/Foo" }]
    ∃ written after,
      (write FileTree.fileSystem { outDir := some "out", withTree := true } { units }).run {} = (.ok written, after) ∧
        (written.map Path.components).Nodup := by
  intro units
  cases ran : (write FileTree.fileSystem { outDir := some "out", withTree := true } { units }).run {} with
  | mk result after =>
    have works : ((write FileTree.fileSystem { outDir := some "out", withTree := true } { units }).run
        {}).1.isOk = true := by decide +kernel
    cases result with
    | ok written => exact ⟨written, after, rfl, (written_nodup_iff _ _ ran).mpr (by decide +kernel)⟩
    | error failure =>
      rw [ran] at works
      cases works

/-- Two units that have no name of their own, in files of one name. -/
def namesakes : FileTree :=
  let unit := "\x7b\"file_name\": \"\"\x7d"
  .ofFiles [("a/Foo.json", unit), ("b/Foo.json", unit)]

/-- Whether the namesakes have different names and are written over each other. -/
def namesakesMeet : Bool :=
  match (load FileTree.fileSystem { roots := ["a", "b"] }).run namesakes with
  | (.ok program, tree) =>
    match (write FileTree.fileSystem { outDir := some "out" } program).run tree with
    | (.ok written, _) => decide (program.units.map (·.fileName)).Nodup && !decide written.Nodup
    | (.error _, _) => false
  | (.error _, _) => false

/-- That all units have different names does not keep them from being written over each other. -/
theorem names_apart_paths_alike :
    ¬∀ (roots program : Program) (emission : Emission) (written : List String) (tree middle after : FileTree),
      (load FileTree.fileSystem roots).run tree = (.ok program, middle) →
      (program.units.map (·.fileName)).Nodup →
      (write FileTree.fileSystem emission program).run middle = (.ok written, after) → written.Nodup := by
  intro distinct
  have meet : namesakesMeet = true := by decide +kernel
  unfold namesakesMeet at meet
  split at meet
  · next program tree loaded =>
    split at meet
    · next written after ran =>
      obtain ⟨names, paths⟩ := Bool.and_eq_true_iff.mp meet
      have apart := distinct _ program _ written _ tree after loaded (of_decide_eq_true names) ran
      simp [apart] at paths
    · cases meet
  · cases meet

end Project

end JavaWeave
