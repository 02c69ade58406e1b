import JavaWeave.Proofs.Generator.Compiling
import Mathlib.Data.List.Nodup

namespace JavaWeave.Generator

open Syntax

theorem mem_routes_of_exitRoute? {exits : Exits} {nesting : Nesting} {s : Statement} {route : Route}
    (leaves : exitRoute? exits nesting s = some route) : route ∈ exits.routes := by
  have ofLabel {label : String} {exit : LabelExit} (found : exits.labels.find? (·.label == label) = some exit) :
      exit ∈ exits.labels := List.mem_of_find?_eq_some found
  simp only [Exits.routes, List.mem_append, List.mem_flatMap, List.mem_cons, Option.mem_toList,
    List.not_mem_nil, or_false]
  cases s with
  | breaks label =>
    cases label with
    | none =>
      simp only [exitRoute?] at leaves
      split at leaves
      · cases leaves
      · exact Or.inl (Or.inl (Or.inl leaves))
    | some label =>
      simp only [exitRoute?] at leaves
      split at leaves
      · cases leaves
      · obtain ⟨exit, found, rfl⟩ := Option.map_eq_some_iff.mp leaves
        exact Or.inl (Or.inr ⟨exit, ofLabel found, Or.inl rfl⟩)
  | continues label =>
    cases label with
    | none =>
      simp only [exitRoute?] at leaves
      split at leaves
      · cases leaves
      · exact Or.inl (Or.inl (Or.inr leaves))
    | some label =>
      simp only [exitRoute?] at leaves
      split at leaves
      · cases leaves
      · obtain ⟨exit, found, continues⟩ := Option.bind_eq_some_iff.mp leaves
        exact Or.inl (Or.inr ⟨exit, ofLabel found, Or.inr continues⟩)
  | returns value =>
    cases value with
    | none => exact Or.inr (Option.some.inj leaves).symm
    | some e => cases leaves
  | _ => cases leaves

-- What stands around a place of a body, as jumps see it: statements that they can leave, and try statements whose
-- finalizers run on their way.

/-- A transfer that runs the finalizer of a region first. -/
def Route.through (region entry : Nat) (route : Route) : Route where
  continuations := route.continuations ++ [(region, route.target)]
  target := .state entry

/-- A statement around a place of a body. -/
inductive Surround where
  /-- Jumps can leave the statement. -/
  | exit (label : Option String) (breakable continues : Bool)
  /-- The finalizer of the region follows the part of the try statement in which the place is. -/
  | guard (region : Nat)
  deriving DecidableEq, Repr

mutual

/-- The statements that are carried over whole, each with what stands around it, the innermost first. The label is
that of a loop or switch, the number that of the first region of the statement. -/
def sitesIn (label : Option String) (region : Nat) (around : List Surround) (s : Statement) :
    List (List Surround × Statement) :=
  if s.yields then
    match s with
    | .block body => sitesInAll region around body
    | .ifElse _ whenTrue whenFalse =>
      sitesIn none region around whenTrue
        ++ (match whenFalse with | some s => sitesIn none (region + regionsIn whenTrue) around s | none => [])
    | .labeled label body =>
      if takesLabel body then sitesIn (some label) region around body
      else sitesIn none region (.exit (some label) false false :: around) body
    | .whileLoop _ body | .doWhile body _ | .forEach _ _ body =>
      sitesIn none region (.exit label true true :: around) body
    | .forLoop start _ _ body =>
      sitesInAll region around start
        ++ sitesIn none (region + regionsInAll start) (.exit label true true :: around) body
    | .switch _ cases => sitesInCases region (.exit label true false :: around) cases
    | .tryCatch body catches none =>
      sitesInAll (region + 1) around body ++ sitesInCatches (region + 1 + regionsInAll body) around catches
    | .tryCatch body catches (some finalizer) =>
      sitesInAll (region + 1) (.guard region :: around) body
        ++ sitesInCatches (region + 1 + regionsInAll body) (.guard region :: around) catches
        ++ sitesInAll (region + 1 + regionsInAll body + regionsInCatches catches) around finalizer
    | other => if other.yielded?.isSome then [] else [(around, other)]
  else [(around, s)]

def sitesInAll (region : Nat) (around : List Surround) : List Statement → List (List Surround × Statement)
  | [] => []
  | s :: rest => sitesIn none region around s ++ sitesInAll (region + regionsIn s) around rest

def sitesInCases (region : Nat) (around : List Surround) : List SwitchCase → List (List Surround × Statement)
  | [] => []
  | ⟨_, body⟩ :: rest =>
    sitesInAll region around body ++ sitesInCases (region + regionsInAll body) around rest

def sitesInCatches (region : Nat) (around : List Surround) : List CatchClause → List (List Surround × Statement)
  | [] => []
  | ⟨_, body⟩ :: rest =>
    sitesInAll region around body ++ sitesInCatches (region + regionsInAll body) around rest

end

theorem sitesIn_quiet {label : Option String} {region : Nat} {around : List Surround} {s : Statement}
    (quiet : s.yields = false) : sitesIn label region around s = [(around, s)] := by
  have whole (sites : List (List Surround × Statement)) : (if s.yields then sites else [(around, s)]) = [(around, s)] :=
    if_neg (by simp [quiet])
  cases s with
  | ifElse _ _ whenFalse => cases whenFalse <;> exact whole _
  | tryCatch _ _ finalizer => cases finalizer <;> exact whole _
  | _ => exact whole _

/-- A statement around a place of a body that is compiled, with the states that jumps go to. -/
inductive Around where
  /-- Jumps can leave the statement. -/
  | exit (label : Option String) (onBreak : Nat) (onContinue : Option Nat) (breakable : Bool)
  /-- The finalizer of the region begins with the entry. Behind the try statement the body goes on in the exit. -/
  | guard (region entry exit : Nat)
  deriving DecidableEq, Repr

/-- What stands around a place, the innermost first. -/
abbrev Path := List Around

def Around.shape : Around → Surround
  | .exit label _ onContinue breakable => .exit label breakable onContinue.isSome
  | .guard region _ _ => .guard region

namespace Path

/-- The finalizers that jumps out of the whole run, the outermost first. -/
def finalizers : Path → List (Nat × Nat)
  | [] => []
  | .exit .. :: outer => finalizers outer
  | .guard region entry _ :: outer => finalizers outer ++ [(region, entry)]

def frames : Path → List Frame
  | [] => []
  | .exit label onBreak onContinue breakable :: outer =>
    ⟨label, onBreak, onContinue, breakable, (finalizers outer).length⟩ :: frames outer
  | .guard .. :: outer => frames outer

/-- A transfer from the inside of the path to the outside. -/
def leave (route : Route) : Path → Route
  | [] => route
  | .exit .. :: outer => leave route outer
  | .guard region entry _ :: outer => (leave route outer).through region entry

/-- The transfer of a jump that looks for its goal from the innermost statement outwards and runs the finalizers
that it comes by. -/
def jump? (goal : Frame → Option Nat) : Path → Option Route
  | [] => none
  | .exit label onBreak onContinue breakable :: outer =>
    match goal ⟨label, onBreak, onContinue, breakable, (finalizers outer).length⟩ with
    | some id => some (.direct (.state id))
    | none => jump? goal outer
  | .guard region entry _ :: outer => (jump? goal outer).map (·.through region entry)

/-- The labels of the statements around. -/
def labels (path : Path) : List String := path.frames.filterMap (·.label)

end Path

/-- Where a jump goes that looks for its goal from the place on outwards. -/
def Path.leaf? (path : Path) (nesting : Nesting) : Statement → Option Route
  | .breaks none =>
    if nesting.loops || nesting.switches then none
    else path.jump? fun frame => if frame.breakable then some frame.onBreak else none
  | .continues none => if nesting.loops then none else path.jump? (·.onContinue)
  | .breaks (some label) =>
    if nesting.labels.contains label then none
    else path.jump? fun frame => if frame.label == some label then some frame.onBreak else none
  | .continues (some label) =>
    if nesting.labels.contains label then none
    else path.jump? fun frame => if frame.label == some label then frame.onContinue else none
  | .returns none => some (path.leave (.direct .done))
  | _ => none

namespace Path

theorem finalizers_append (inner outer : Path) :
    (inner ++ outer).finalizers = outer.finalizers ++ inner.finalizers := by
  induction inner with
  | nil => simp [finalizers]
  | cons around rest ih => cases around <;> simp [finalizers, ih]

theorem leave_append (inner outer : Path) (route : Route) :
    leave route (inner ++ outer) = leave (leave route outer) inner := by
  induction inner with
  | nil => rfl
  | cons around rest ih => cases around <;> simp [leave, ih]

end Path

/-- The compilation stands at a place. -/
structure Compilation.At (c : Compilation) (path : Path) : Prop where
  frames : c.frames = path.frames
  finalizers : c.finalizers = path.finalizers

section

variable {c : Compilation}

/-- The route out of a part of the path runs the finalizers of the part. -/
theorem Compilation.At.route {inner outer : Path} (place : c.At (inner ++ outer)) (target : Target) :
    c.route target outer.finalizers.length = inner.leave (.direct target) := by
  rw [Compilation.route, place.finalizers, Path.finalizers_append, List.drop_left]
  clear place
  induction inner with
  | nil => rfl
  | cons around rest ih =>
    cases around with
    | exit => exact ih
    | guard region entry exit =>
      rw [Path.finalizers, List.foldl_append, ih]
      rfl

/-- A jump finds its goal among the statements around from the innermost outwards. -/
private theorem findSome?_route (goal : Frame → Option Nat) {inner path : Path} (place : c.At (inner ++ path)) :
    path.frames.findSome? (fun frame => (goal frame).map fun id => c.route (.state id) frame.depth) =
      (path.jump? goal).map (inner.leave ·) := by
  induction path generalizing inner with
  | nil => rfl
  | cons around outer ih =>
    have further : c.At ((inner ++ [around]) ++ outer) := by simpa using place
    cases around with
    | exit label onBreak onContinue breakable =>
      have here := further.route
      simp only [Path.frames, List.findSome?_cons, Path.jump?]
      split
      · next found =>
        cases aimed : goal ⟨label, onBreak, onContinue, breakable, (Path.finalizers outer).length⟩ with
        | none => simp [aimed] at found
        | some id =>
          simp only [aimed, Option.map_some, Option.some.injEq] at found ⊢
          rw [← found, here, Path.leave_append]
          rfl
      · next missed =>
        rw [Option.map_eq_none_iff.mp missed, ih further]
        simp [Path.leave_append, Path.leave]
    | guard region entry exit =>
      rw [Path.frames, ih further, Path.jump?, Option.map_map]
      congr 1
      funext route
      simp [Path.leave_append, Path.leave]

theorem Compilation.At.jump {path : Path} (place : c.At path) (goal : Frame → Option Nat) :
    c.frames.findSome? (fun frame => (goal frame).map fun id => c.route (.state id) frame.depth) =
      path.jump? goal := by
  have found := findSome?_route goal (show c.At ([] ++ path) from place)
  rw [place.frames, found]
  simp [Path.leave]

/-- Of things with names of their own the first of a name is the last. -/
private theorem find?_reverse {α : Type} (name : α → String) (wanted : String) {items : List α}
    (apart : (items.map name).Nodup) :
    items.reverse.find? (fun item => name item == wanted) = items.find? fun item => name item == wanted := by
  cases found : items.find? fun item => name item == wanted with
  | none => simpa using found
  | some item =>
    have member := List.mem_of_find?_eq_some found
    have named : name item = wanted := by simpa using List.find?_some found
    obtain ⟨other, there⟩ : ∃ other, items.reverse.find? (fun item => name item == wanted) = some other := by
      rw [← Option.isSome_iff_exists, List.find?_isSome]
      exact ⟨item, List.mem_reverse.mpr member, beq_iff_eq.mpr named⟩
    have named' : name other = wanted := by simpa using List.find?_some there
    rw [there, List.inj_on_of_nodup_map apart (List.mem_reverse.mp (List.mem_of_find?_eq_some there)) member
      (named'.trans named.symm)]

private theorem find?_map {α β : Type} (p : α → Bool) (f : α → β) (items : List α) :
    (items.find? p).map f = items.findSome? fun item => (if p item then some item else none).map f := by
  induction items with
  | nil => rfl
  | cons item rest ih =>
    rw [List.find?_cons, List.findSome?_cons, ← ih]
    cases p item <;> rfl

private theorem find?_bind {α β : Type} (name : α → Option String) (wanted : String) (g : α → Option β)
    {items : List α} (apart : (items.filterMap name).Nodup) :
    (items.find? fun item => name item == some wanted).bind g =
      items.findSome? fun item => if name item == some wanted then g item else none := by
  induction items with
  | nil => rfl
  | cons item rest ih =>
    rw [List.find?_cons, List.findSome?_cons]
    cases named : name item == some wanted with
    | false =>
      rw [ih (apart.sublist (List.Sublist.filterMap _ (List.sublist_cons_self _ _)))]
      rfl
    | true =>
      have here : name item = some wanted := beq_iff_eq.mp named
      rw [List.filterMap_cons_some here, List.nodup_cons] at apart
      have nothing : rest.findSome? (fun item => if name item == some wanted then g item else none) = none := by
        rw [List.findSome?_eq_none_iff]
        intro other member
        rw [if_neg]
        intro same
        exact apart.1 (List.mem_filterMap.mpr ⟨other, member, beq_iff_eq.mp same⟩)
      rw [nothing, if_pos rfl]
      cases given : g item <;> simp [given]

/-- What the exits say of a label, where the labels around the place differ. -/
private theorem find?_labels {path : Path} (place : c.At path) (apart : path.labels.Nodup) (label : String) :
    c.exits.labels.find? (·.label == label) =
      (path.frames.find? (·.label == some label)).map fun frame =>
        { label
          onBreak := c.route (.state frame.onBreak) frame.depth
          onContinue := frame.onContinue.map fun id => c.route (.state id) frame.depth } := by
  let exitAt (frame : Frame) : Option LabelExit := frame.label.map fun label =>
    { label
      onBreak := c.route (.state frame.onBreak) frame.depth
      onContinue := frame.onContinue.map fun id => c.route (.state id) frame.depth }
  have listed : c.exits.labels = (path.frames.filterMap exitAt).reverse := by
    rw [← place.frames, ← List.filterMap_reverse]
    rfl
  have names : (path.frames.filterMap exitAt).map (·.label) = path.labels := by
    rw [List.map_filterMap, Path.labels]
    congr 1
    funext ⟨named, _, _, _, _⟩
    cases named <;> rfl
  have asks : (fun frame : Frame => (exitAt frame).any (·.label == label)) = (·.label == some label) := by
    funext ⟨named, _, _, _, _⟩
    cases named <;> rfl
  rw [listed, find?_reverse LabelExit.label label (names.symm ▸ apart), List.find?_filterMap, asks]
  cases here : path.frames.find? (·.label == some label) with
  | none => rfl
  | some frame =>
    have named : frame.label = some label := by simpa using List.find?_some here
    simp [exitAt, named]

/-- Where the labels around a place differ, its exits lead every jump to where a search from the place outwards
leads it. -/
theorem Compilation.At.exitRoute? {path : Path} (place : c.At path) (apart : path.labels.Nodup) (nesting : Nesting)
    (s : Statement) : exitRoute? c.exits nesting s = path.leaf? nesting s := by
  have breaks (p : Frame → Bool) :
      (path.frames.find? p).map (fun frame => c.route (.state frame.onBreak) frame.depth) =
        path.jump? fun frame => if p frame then some frame.onBreak else none := by
    rw [← place.jump, find?_map, place.frames]
    congr 1
    funext frame
    cases p frame <;> rfl
  have continues : path.frames.findSome? (fun frame => frame.onContinue.map fun id => c.route (.state id) frame.depth) =
      path.jump? (·.onContinue) := by
    rw [← place.jump, place.frames]
  have outward : c.route .done 0 = path.leave (.direct .done) :=
    Compilation.At.route (show c.At (path ++ []) by simpa using place) .done
  cases s with
  | breaks label =>
    cases label with
    | none => rw [Generator.exitRoute?, Path.leaf?, ← breaks, ← place.frames]; rfl
    | some label =>
      rw [Generator.exitRoute?, Path.leaf?, find?_labels place apart, ← breaks, Option.map_map]
      rfl
  | continues label =>
    cases label with
    | none => rw [Generator.exitRoute?, Path.leaf?, ← continues, ← place.frames]; rfl
    | some label =>
      have chosen : (path.frames.find? (·.label == some label)).bind
          (fun frame => frame.onContinue.map fun id => c.route (.state id) frame.depth) =
          path.jump? fun frame => if frame.label == some label then frame.onContinue else none := by
        rw [find?_bind _ _ _ apart, ← place.jump, place.frames]
        congr 1
        funext frame
        split <;> rfl
      rw [Generator.exitRoute?, Path.leaf?, find?_labels place apart, ← chosen, Option.bind_map]
      rfl
  | returns value =>
    cases value with
    | none => exact congrArg some outward
    | some value => rfl
  | _ => rfl

end

/-- A variable that the compilation makes up. -/
def IsMade (name : String) : Prop :=
  ∃ start ∈ ["$array", "$index", "$iterator", "$finallyNext", "$pendingException"], ∃ number : Nat,
    name = start ++ toString number

section

variable (sites : List (List Surround × Statement)) (locals : List (String × JavaType))

/-- The operations that are added at a place. -/
inductive Added (path : Path) : Op → Prop
  | code {s : Statement} (stays : hasJumps s = false) : Added path (.code s)
  | leaving {s : Statement} {c : Compilation} (place : c.At path) (site : (path.map Around.shape, s) ∈ sites) :
    Added path (.leaving s c.exits)
  | branch (condition : Expression) (id : Nat) : Added path (.branch condition [.jump (.direct (.state id))])
  | jump (target : Target) : Added path (.jump (.direct target))
  /-- The end of a part of a try statement. -/
  | finish {region entry exit : Nat} {outer : Path} (inside : path = .guard region entry exit :: outer) :
    Added path (.jump ((Route.direct (.state exit)).through region entry))
  | yield (value : Expression) (resume : Nat) : Added path (.yield value (.state resume))
  | dispatch (selector : Expression) (arms : List (Option Expression × Target)) : Added path (.dispatch selector arms)
  | endFinalizer (region : Nat) : Added path (.endFinalizer region)

/-- Steps of a compilation at a place. The count is that of the regions that have been made. -/
inductive Trace : Path → Nat → Compilation → Compilation → Prop
  | refl {path : Path} {c : Compilation} : Trace path 0 c c
  | trans {path : Path} {count count' : Nat} {c c' c'' : Compilation} (first : Trace path count c c')
    (second : Trace path count' c' c'') : Trace path (count + count') c c''
  | state {path : Path} {c : Compilation} :
    Trace path 0 c { c with states := c.states ++ [{ context := c.context }] }
  | start {path : Path} {c : Compilation} (id : Nat) :
    Trace path 0 c { c with current := id, closed := false, layout := c.layout ++ [id] }
  | add {path : Path} {c : Compilation} {op : Op} (added : Added sites path op) : Trace path 0 c (c.added op)
  | close {path : Path} {c : Compilation} : Trace path 0 c { c with closed := true }
  | lift {path : Path} {c : Compilation} {name : String} (type : JavaType)
    (known : name ∈ locals.map (·.1) ∨ IsMade name) : Trace path 0 c { c with lifted := lift c.lifted name type }
  | loop {path : Path} {c : Compilation} : Trace path 0 c { c with loops := c.loops + 1 }
  | frame {path : Path} {c c' : Compilation} {count : Nat} {label : Option String} {onBreak : Nat}
    {onContinue : Option Nat} {breakable : Bool}
    (inside : Trace (.exit label onBreak onContinue breakable :: path) count
      { c with frames := ⟨label, onBreak, onContinue, breakable, c.finalizers.length⟩ :: c.frames } c') :
    Trace path count c { c' with frames := c.frames }
  | part {path : Path} {c c' : Compilation} {count region : Nat} {kind : Part}
    (inside : Trace path count { c with context := c.context ++ [(region, kind)] } c') :
    Trace path count c { c' with context := c.context }
  | region {path : Path} {c : Compilation} : Trace path 1 c { c with regions := c.regions ++ [{}] }
  | catches {path : Path} {c : Compilation} {region entry : Nat} {parameter : Parameter}
    (declared : c.Declares parameter.name) :
    Trace path 0 c { c with regions := c.regions.modify region fun r =>
      { r with catches := r.catches ++ [⟨parameter.type, parameter.name, .state entry⟩] } }
  | guard {path : Path} {c c' : Compilation} {count region entry exit : Nat} (fresh : c.regions[region]? = some {})
    (declared : c.Declares (pendingName region))
    (inside : Trace (.guard region entry exit :: path) count
      { c with
        finalizers := c.finalizers ++ [(region, entry)]
        regions := c.regions.modify region fun r => { r with finalizer := some (.state entry) } } c') :
    Trace path count c { c' with finalizers := c'.finalizers.take c.finalizers.length }

end

section

variable {sites : List (List Surround × Statement)} {locals : List (String × JavaType)} {path : Path}
  {count count' region : Nat} {c c' c'' : Compilation}

namespace Trace

/-- Steps that make no region do not count. -/
theorem after (second : Trace sites locals path count c' c'') (first : Trace sites locals path 0 c c') :
    Trace sites locals path count c c'' :=
  Nat.zero_add count ▸ first.trans second

theorem andThen (first : Trace sites locals path count c c') (second : Trace sites locals path 0 c' c'') :
    Trace sites locals path count c c'' := first.trans second

/-- The place is the same behind the steps. -/
theorem place (trace : Trace sites locals path count c c') (place : c.At path) : c'.At path := by
  induction trace with
  | refl | state | start | add | close | lift | loop | region | catches => exact ⟨place.frames, place.finalizers⟩
  | trans _ _ ih ih' => exact ih' (ih place)
  | frame _ ih =>
    exact ⟨place.frames, (ih ⟨by rw [Path.frames, ← place.finalizers, ← place.frames], place.finalizers⟩).finalizers⟩
  | part _ ih =>
    have inside := ih ⟨place.frames, place.finalizers⟩
    exact ⟨inside.frames, inside.finalizers⟩
  | guard _ _ _ ih =>
    have inside := ih ⟨place.frames, by rw [Path.finalizers, ← place.finalizers]⟩
    exact ⟨inside.frames, by simp [inside.finalizers, Path.finalizers, place.finalizers]⟩

theorem regions (trace : Trace sites locals path count c c') : c'.regions.length = c.regions.length + count := by
  induction trace with
  | refl | state | start | add | close | lift | loop => rfl
  | trans _ _ ih ih' => rw [ih', ih, Nat.add_assoc]
  | region | catches => simp
  | frame _ ih | part _ ih => exact ih
  | guard _ _ _ ih => simpa using ih

/-- What is declared stays declared. -/
theorem declares (trace : Trace sites locals path count c c') {name : String} (declared : c.Declares name) :
    c'.Declares name := by
  induction trace with
  | refl | state | start | add | close | loop | region | catches => exact declared
  | trans _ _ ih ih' => exact ih' (ih declared)
  | lift type known => exact (Compilation.isSome_lookup_lift _ _ type).2 name declared
  | frame _ ih | part _ ih | guard _ _ _ ih => exact ih declared

end Trace

end

end JavaWeave.Generator
