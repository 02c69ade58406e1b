import JavaWeave.Interpreter.Session
import JavaWeave.Proofs.Interpreter.Store
import JavaWeave.Proofs.Syntax.Straight
import Mathlib.Data.List.Forall2

/-! The classes of a program that is loaded. A class of the top level whose code declares no class is there as it
was written, with its member classes, and no other class of the program has a part in it. -/

namespace JavaWeave.Interpreter

open Syntax

namespace ClassTable

theorem leaves_placing : placing.Leaves where
  expression _ _ straight := by cases straight <;> rfl
  statement _ _ straight := by cases straight <;> rfl

/-- A class with its member classes whose code declares no class. -/
structure StraightClass (type : TypeDecl) : Prop where
  own : StraightType type
  members : ∀ member ∈ type.memberTypes, StraightType member ∧ member.memberTypes = []

/-- What becomes of a type when classes inside of code get their places. -/
structure Placed (type placed : TypeDecl) : Prop where
  name : placed.name = type.name
  straight : StraightClass type → placed = type

theorem placed_onType (type : TypeDecl) (next : Nat) :
    Placed type ((placing.onType () type).run next).1 where
  name := by
    cases type
    simp only [Reviser.onType, StateT.run_bind, StateT.run_pure]
    rfl
  straight straight := by
    have members := Reviser.onTypes_straight leaves_placing () straight.members
    have same : type.memberTypes.map (·.restamp (placing.origin ())) = type.memberTypes :=
      List.map_id'' (f := TypeDecl.restamp id) TypeDecl.restamp_id _
    rw [Reviser.onType_straight leaves_placing () straight.own, members, same]
    change { type.restamp id with memberTypes := type.memberTypes } = type
    rw [type.restamp_id]
    cases type
    rfl

theorem placed_onTypes (types : List TypeDecl) (next : Nat) :
    List.Forall₂ Placed types ((placing.onTypes () types).run next).1 := by
  induction types generalizing next with
  | nil => exact .nil
  | cons type rest inductionHypothesis => exact .cons (placed_onType type next) (inductionHypothesis _)

/-- The types of the top level with their packages. -/
def topLevel (units : List CompilationUnit) : List (Option String × TypeDecl) :=
  units.flatMap fun unit => unit.types.map (unit.package, ·)

theorem placed_placeAll (units : List CompilationUnit) (next : Nat) :
    List.Forall₂ (fun source placed => placed.1 = source.1 ∧ Placed source.2 placed.2) (topLevel units)
      (((placeAll units).run next).1.flatMap fun (package, types) => types.map (package, ·)) := by
  induction units generalizing next with
  | nil => exact .nil
  | cons unit rest inductionHypothesis =>
    rw [placeAll, List.mapM_cons]
    refine List.rel_append ?_ (inductionHypothesis _)
    rw [List.forall₂_map_left_iff, List.forall₂_map_right_iff]
    exact (placed_onTypes unit.types next).imp fun _ _ placed => ⟨rfl, placed⟩

/-- Adds a type of the top level. -/
def enroll (table : ClassTable) (entry : Option String × TypeDecl) : ClassTable :=
  table.register ((entry.1.map (· ++ ".")).getD "" ++ entry.2.name) .topLevel [] entry.2

/-- Finds out what each class extends. -/
def linkAll (table : ClassTable) : ClassTable :=
  ((List.range table.infos.size).map ClassId.mk).foldl link table

/-- A program is loaded type by type. -/
theorem load_eq (units : List CompilationUnit) : ∃ entries,
    List.Forall₂ (fun source placed => placed.1 = source.1 ∧ Placed source.2 placed.2) (topLevel units) entries ∧
      load units = (entries.foldl enroll {}).linkAll := by
  refine ⟨_, placed_placeAll units 1, ?_⟩
  rw [List.foldl_flatMap, load]
  simp only [linkAll, List.foldl_map]
  rfl

section

variable {table : ClassTable} {id other : ClassId}

theorem get_absent (absent : ¬ id.index < table.infos.size) : table.get id = default := by
  rw [get, Array.getElem?_eq_none (Nat.le_of_not_lt absent)]
  rfl

/-- A change of a class that is not there changes nothing. -/
theorem get_modify_cases (change : ClassInfo → ClassInfo) :
    (table.modify id change).get other =
      if other = id ∧ id.index < table.infos.size then change (table.get id) else table.get other := by
  simp only [get, modify, Array.getElem?_modify]
  by_cases same : other = id
  · subst same
    by_cases there : other.index < table.infos.size
    · simp [there]
    · simp [there]
  · have apart : id.index ≠ other.index := fun equal => same (by cases id; cases other; cases equal; rfl)
    simp [same, apart]

theorem get_modify (change : ClassInfo → ClassInfo) (there : id.index < table.infos.size) :
    (table.modify id change).get other = if other = id then change (table.get id) else table.get other := by
  simp [get_modify_cases, there]

@[simp] theorem size_modify (change : ClassInfo → ClassInfo) :
    (table.modify id change).infos.size = table.infos.size := by
  simp [modify]

@[simp] theorem names_modify (change : ClassInfo → ClassInfo) : (table.modify id change).names = table.names := rfl

@[simp] theorem size_add (info : ClassInfo) : (table.add info).infos.size = table.infos.size + 1 := by
  simp [add]

theorem get_add (info : ClassInfo) :
    (table.add info).get other = if other.index = table.infos.size then info else table.get other := by
  simp only [get, add, Array.getElem?_push]
  split <;> rfl

end

/-- What is added leaves the classes in front of a bound as they are, and simple names other than those that
are listed. -/
structure Keeps (bound : Nat) (taken : List String) (before after : ClassTable) : Prop where
  size : before.infos.size ≤ after.infos.size
  get : ∀ id : ClassId, id.index < bound → after.get id = before.get id
  names : ∀ name, '.' ∉ name.toList → name ∉ taken → after.names.lookup name = before.names.lookup name

namespace Keeps

variable {bound : Nat} {taken : List String} {first second third : ClassTable}

theorem refl : Keeps bound taken first first := ⟨Nat.le_refl _, fun _ _ => rfl, fun _ _ _ => rfl⟩

theorem trans (before : Keeps bound taken first second) (after : Keeps bound taken second third) :
    Keeps bound taken first third where
  size := Nat.le_trans before.size after.size
  get id below := (after.get id below).trans (before.get id below)
  names name plain free := (after.names name plain free).trans (before.names name plain free)

theorem mono {lower : Nat} {more : List String} (keeps : Keeps bound taken first second) (le : lower ≤ bound)
    (among : ∀ name ∈ taken, name ∈ more) : Keeps lower more first second where
  size := keeps.size
  get id below := keeps.get id (Nat.lt_of_lt_of_le below le)
  names name plain free := keeps.names name plain fun listed => free (among name listed)

theorem modify {id : ClassId} (change : ClassInfo → ClassInfo) (le : bound ≤ id.index)
    (there : id.index < first.infos.size) : Keeps bound taken first (first.modify id change) where
  size := by simp
  get other below := by rw [get_modify _ there, if_neg (by rintro rfl; omega)]
  names _ _ _ := rfl

/-- A member has a dotted name only. -/
theorem addMember (info : ClassInfo) (nesting : info.nesting = .member) (dotted : '.' ∈ info.qualifiedName.toList) :
    Keeps first.infos.size taken first (first.add info) where
  size := by simp
  get other below := by rw [get_add, if_neg (by omega)]
  names name plain _ := by
    have apart : name ≠ info.qualifiedName := fun same => plain (same ▸ dotted)
    simp [ClassTable.add, nesting, Bindings.lookup_entry, apart]

end Keeps

mutual

theorem keeps_registerMember (table : ClassTable) (qualifiedName : String) (enclosing : List ClassId)
    (dotted : '.' ∈ qualifiedName.toList) :
    (type : TypeDecl) → Keeps table.infos.size [] table (table.register qualifiedName .member enclosing type)
  | ⟨_, _, _, _, _, _, _, _, _, _, _, _, _, memberTypes, _, _⟩ => by
    rw [register]
    refine .trans (.addMember _ rfl dotted) (keeps_registerMembers _ ⟨table.infos.size⟩ qualifiedName _ (by simp) memberTypes)

theorem keeps_registerMembers (table : ClassTable) (owner : ClassId) (qualifiedName : String)
    (enclosing : List ClassId) (there : owner.index < table.infos.size) :
    (types : List TypeDecl) → Keeps owner.index [] table (table.registerMembers owner qualifiedName enclosing types)
  | [] => .refl
  | type :: rest => by
    rw [registerMembers]
    have registered := keeps_registerMember table (qualifiedName ++ "." ++ type.name) enclosing (by simp) type
    generalize table.register (qualifiedName ++ "." ++ type.name) .member enclosing type = added at registered
    have still : owner.index < added.infos.size := Nat.lt_of_lt_of_le there registered.size
    let listing : ClassInfo → ClassInfo := fun info =>
      { info with members := info.members.put type.name ⟨table.infos.size⟩ }
    have listed : Keeps owner.index [] added (added.modify owner listing) := .modify listing (Nat.le_refl _) still
    refine .trans (registered.mono (Nat.le_of_lt there) (fun _ => id)) (.trans listed ?_)
    exact keeps_registerMembers _ owner qualifiedName enclosing (by simpa using still) rest

end

theorem keeps_enroll (table : ClassTable) (entry : Option String × TypeDecl) :
    Keeps table.infos.size [entry.2.name] table (table.enroll entry) := by
  obtain ⟨package, type⟩ := entry
  rw [enroll]
  generalize qualified : (package.map (· ++ ".")).getD "" ++ type.name = qualifiedName
  have added : Keeps table.infos.size [type.name] table
      (table.add { decl := type, qualifiedName, nesting := .topLevel, enclosing := [] }) := by
    refine ⟨by simp, fun id below => by rw [get_add, if_neg (by omega)], fun name plain free => ?_⟩
    have apart : name ≠ type.name := by simpa using free
    have unqualified : name ≠ qualifiedName := by
      rintro rfl
      cases package with
      | none => exact apart (by simpa using qualified.symm)
      | some package => exact plain (by simp [← qualified])
    simp [add, Bindings.lookup_entry, apart, unqualified]
  cases type
  rw [register]
  refine added.trans ((keeps_registerMembers _ ⟨table.infos.size⟩ qualifiedName _ (by simp) _).mono (Nat.le_refl _) ?_)
  exact List.nil_subset _

theorem keeps_foldl_enroll (table : ClassTable) (entries : List (Option String × TypeDecl)) :
    Keeps table.infos.size (entries.map (·.2.name)) table (entries.foldl enroll table) := by
  induction entries generalizing table with
  | nil => exact .refl
  | cons entry rest inductionHypothesis =>
    have first := keeps_enroll table entry
    refine .trans (first.mono (Nat.le_refl _) (by simp)) ?_
    exact (inductionHypothesis (table.enroll entry)).mono first.size (by simp +contextual)

/-- A class that is there as it was written and extends no class. -/
structure Stands (table : ClassTable) (id : ClassId) (decl : TypeDecl) (nesting : Nesting)
    (enclosing : List ClassId) : Prop where
  there : id.index < table.infos.size
  decl : (table.get id).decl = decl
  nesting : (table.get id).nesting = nesting
  enclosing : (table.get id).enclosing = enclosing
  superclass : (table.get id).superclass = none

/-- A class of the top level with a member class that has no members. -/
structure Houses (table : ClassTable) (outer inner : ClassId) (type member : TypeDecl) : Prop where
  own : Stands table outer type .topLevel []
  last : Stands table inner member .member [outer]
  listed : (table.get outer).members.lookup member.name = some inner
  bare : (table.get inner).members = []
  named : table.names.lookup type.name = some outer

section

variable {before after : ClassTable} {outer inner id : ClassId} {type member decl : TypeDecl} {nesting : Nesting}
  {enclosing : List ClassId}

theorem registerMembers_append (table : ClassTable) (owner : ClassId) (qualifiedName : String)
    (enclosing : List ClassId) (first second : List TypeDecl) :
    table.registerMembers owner qualifiedName enclosing (first ++ second) =
      (table.registerMembers owner qualifiedName enclosing first).registerMembers owner qualifiedName enclosing
        second := by
  induction first generalizing table with
  | nil => simp [registerMembers]
  | cons type rest inductionHypothesis => simp only [List.cons_append, registerMembers, inductionHypothesis]

/-- A class as it is added, but for its members. -/
theorem get_registerMembers (table : ClassTable) (owner : ClassId) (qualifiedName : String)
    (enclosing : List ClassId) (there : owner.index < table.infos.size) (types : List TypeDecl) :
    ∃ members, (table.registerMembers owner qualifiedName enclosing types).get owner =
      { table.get owner with members } := by
  induction types generalizing table with
  | nil => exact ⟨(table.get owner).members, by rw [registerMembers]⟩
  | cons type rest inductionHypothesis =>
    rw [registerMembers]
    have registered := keeps_registerMember table (qualifiedName ++ "." ++ type.name) enclosing (by simp) type
    generalize table.register (qualifiedName ++ "." ++ type.name) .member enclosing type = added at registered
    have still : owner.index < added.infos.size := Nat.lt_of_lt_of_le there registered.size
    obtain ⟨members, same⟩ := inductionHypothesis (added.modify owner fun info =>
      { info with members := info.members.put type.name ⟨table.infos.size⟩ }) (by simpa using still)
    refine ⟨members, same.trans ?_⟩
    rw [get_modify _ still, if_pos rfl, registered.get owner there]

theorem register_bare (table : ClassTable) (qualifiedName : String) (nesting : Nesting) (enclosing : List ClassId)
    (bare : type.memberTypes = []) :
    table.register qualifiedName nesting enclosing type =
      table.add { decl := type, qualifiedName, nesting, enclosing } := by
  cases type
  cases bare
  rw [register, registerMembers]

/-- A class of the top level is added with its last member. -/
theorem houses_enroll (table : ClassTable) (package : Option String) {others : List TypeDecl}
    (memberTypes : type.memberTypes = others ++ [member]) (bare : member.memberTypes = [])
    (plain : '.' ∉ type.name.toList) :
    ∃ inner, Houses (table.enroll (package, type)) ⟨table.infos.size⟩ inner type member := by
  rw [enroll]
  generalize (package.map (· ++ ".")).getD "" ++ type.name = qualifiedName
  have registered : table.register qualifiedName .topLevel [] type =
      (table.add { decl := type, qualifiedName, nesting := .topLevel, enclosing := [] }).registerMembers
        ⟨table.infos.size⟩ qualifiedName [⟨table.infos.size⟩] (others ++ [member]) := by
    rw [← memberTypes]
    cases type
    rw [register]
  generalize first : table.add { decl := type, qualifiedName, nesting := .topLevel, enclosing := [] } = added
    at registered
  have there : table.infos.size < added.infos.size := by simp [← first]
  have fresh : added.get ⟨table.infos.size⟩ = { decl := type, qualifiedName, nesting := .topLevel } := by
    rw [← first, get_add, if_pos rfl]
  have named : added.names.lookup type.name = some ⟨table.infos.size⟩ := by
    simp [← first, add]
  have keeps := keeps_registerMembers added ⟨table.infos.size⟩ qualifiedName [⟨table.infos.size⟩] there others
  obtain ⟨members, earlier⟩ := get_registerMembers added ⟨table.infos.size⟩ qualifiedName [⟨table.infos.size⟩] there others
  rw [fresh] at earlier
  rw [registered, registerMembers_append, registerMembers, registerMembers, register_bare _ _ _ _ bare]
  generalize added.registerMembers ⟨table.infos.size⟩ qualifiedName [⟨table.infos.size⟩] others = middle
    at keeps earlier
  have room : table.infos.size < middle.infos.size := Nat.lt_of_lt_of_le there keeps.size
  have apart : table.infos.size ≠ middle.infos.size := Nat.ne_of_lt room
  generalize dotted : qualifiedName ++ "." ++ member.name = innerName
  replace dotted : '.' ∈ innerName.toList := by simp [← dotted]
  generalize info : (⟨member, innerName, .member, [⟨table.infos.size⟩], none, [], [], {}⟩ : ClassInfo) = inner
  have inside : (⟨table.infos.size⟩ : ClassId).index < (middle.add inner).infos.size := by
    rw [size_add]
    exact Nat.lt_succ_of_lt room
  have last : ((middle.add inner).modify ⟨table.infos.size⟩ fun info =>
      { info with members := info.members.put member.name ⟨middle.infos.size⟩ }).get ⟨middle.infos.size⟩ = inner := by
    rw [get_modify _ inside, if_neg (by simpa using apart.symm), get_add, if_pos rfl]
  have own : ((middle.add inner).modify ⟨table.infos.size⟩ fun info =>
      { info with members := info.members.put member.name ⟨middle.infos.size⟩ }).get ⟨table.infos.size⟩ =
        { decl := type, qualifiedName, nesting := .topLevel, members := members.put member.name ⟨middle.infos.size⟩ } := by
    rw [get_modify _ inside, if_pos rfl, get_add, if_neg apart, earlier]
  have dotted : '.' ∈ inner.qualifiedName.toList := by rwa [← info]
  have nested : inner.nesting = .member := by rw [← info]
  refine ⟨⟨middle.infos.size⟩, {
    own := ⟨by rwa [size_modify], by rw [own], by rw [own], by rw [own], by rw [own]⟩
    last := ⟨by simp, by rw [last, ← info], by rw [last, ← info], by rw [last, ← info], by rw [last, ← info]⟩
    listed := by simp [own]
    bare := by rw [last, ← info]
    named := ?_ }⟩
  have added : Keeps middle.infos.size [] middle (middle.add inner) := .addMember inner nested dotted
  rw [names_modify, added.names _ plain nofun, keeps.names _ plain nofun, named]

/-- Later classes leave it there. -/
theorem Houses.keeps {bound : Nat} {taken : List String} (houses : Houses before outer inner type member)
    (keeps : Keeps bound taken before after) (outside : outer.index < bound) (inside : inner.index < bound)
    (plain : '.' ∉ type.name.toList) (free : type.name ∉ taken) : Houses after outer inner type member := by
  have own := keeps.get outer outside
  have last := keeps.get inner inside
  exact {
    own := ⟨Nat.lt_of_lt_of_le houses.own.there keeps.size, own ▸ houses.own.decl, own ▸ houses.own.nesting,
      own ▸ houses.own.enclosing, own ▸ houses.own.superclass⟩
    last := ⟨Nat.lt_of_lt_of_le houses.last.there keeps.size, last ▸ houses.last.decl, last ▸ houses.last.nesting,
      last ▸ houses.last.enclosing, last ▸ houses.last.superclass⟩
    listed := own ▸ houses.listed
    bare := last ▸ houses.bare
    named := (keeps.names _ plain free).trans houses.named }

/-- A change of classes, one by one, that leaves what they declare. -/
structure Alike (before after : ClassTable) : Prop where
  size : after.infos.size = before.infos.size
  names : after.names = before.names
  get : ∀ id, ∃ superclass interfaces state,
    after.get id = { before.get id with superclass, interfaces, state } ∧
      ((before.get id).decl.superclass = none → (before.get id).superclass = none → superclass = none)

theorem Alike.refl (table : ClassTable) : Alike table table := ⟨rfl, rfl, fun _ => ⟨_, _, _, rfl, fun _ => id⟩⟩

theorem Alike.trans {middle : ClassTable} (first : Alike before middle) (second : Alike middle after) :
    Alike before after where
  size := second.size.trans first.size
  names := second.names.trans first.names
  get id := by
    obtain ⟨_, _, _, same, none⟩ := first.get id
    obtain ⟨superclass, interfaces, state, same', none'⟩ := second.get id
    rw [same] at same' none'
    exact ⟨superclass, interfaces, state, same', fun declared bare => none' declared (none declared bare)⟩

theorem alike_modify (table : ClassTable) (id : ClassId) {change : ClassInfo → ClassInfo}
    (kept : ∃ superclass interfaces state, change (table.get id) = { table.get id with superclass, interfaces, state } ∧
      ((table.get id).decl.superclass = none → (table.get id).superclass = none → superclass = none)) :
    Alike table (table.modify id change) where
  size := size_modify _
  names := rfl
  get other := by
    rw [get_modify_cases]
    split
    next both => exact both.1 ▸ kept
    next => exact ⟨_, _, _, rfl, fun _ bare => bare⟩

/-- A change of the state of one class. -/
structure Advanced (id : ClassId) (before after : ClassTable) : Prop extends Alike before after where
  others : ∀ other, other ≠ id → after.get other = before.get other

theorem Advanced.refl (id : ClassId) (table : ClassTable) : Advanced id table table := ⟨.refl table, fun _ _ => rfl⟩

theorem Advanced.trans {middle : ClassTable} (first : Advanced id before middle) (second : Advanced id middle after) :
    Advanced id before after :=
  ⟨first.toAlike.trans second.toAlike, fun other apart => (second.others other apart).trans (first.others other apart)⟩

theorem advanced_modifyState (table : ClassTable) (id : ClassId) (change : ClassState → ClassState) :
    Advanced id table (table.modifyState id change) where
  toAlike := alike_modify table id ⟨_, _, _, rfl, fun _ bare => bare⟩
  others other apart := by rw [modifyState, get_modify_cases, if_neg fun both => apart both.1]

theorem alike_linkAll (table : ClassTable) : Alike table table.linkAll := by
  refine List.foldlRecOn (motive := Alike table) _ _ (.refl table) fun linked alike id _ => alike.trans ?_
  refine alike_modify linked id ⟨_, _, _, rfl, fun declared _ => ?_⟩
  rw [declared]
  rfl

/-- What a class is and where it is found does not change. -/
theorem Houses.alike (houses : Houses before outer inner type member) (alike : Alike before after)
    (base : type.superclass = none) (base' : member.superclass = none) : Houses after outer inner type member := by
  have each {id : ClassId} {decl : TypeDecl} {nesting : Nesting} {enclosing : List ClassId}
      (stands : Stands before id decl nesting enclosing) (base : decl.superclass = none) :
      Stands after id decl nesting enclosing ∧ (after.get id).members = (before.get id).members := by
    obtain ⟨superclass, interfaces, state, same, none⟩ := alike.get id
    rw [stands.decl] at none
    exact ⟨⟨alike.size ▸ stands.there, same ▸ stands.decl, same ▸ stands.nesting, same ▸ stands.enclosing,
      same ▸ none base stands.superclass⟩, same ▸ rfl⟩
  obtain ⟨own, members⟩ := each houses.own base
  obtain ⟨last, bare⟩ := each houses.last base'
  exact ⟨own, last, members ▸ houses.listed, bare ▸ houses.bare, alike.names ▸ houses.named⟩

theorem forall₂_middle {α β : Type} {R : α → β → Prop} {earlier later : List α} {entry : α} {entries : List β}
    (related : List.Forall₂ R (earlier ++ entry :: later) entries) :
    ∃ before own after, entries = before ++ own :: after ∧ R entry own ∧ List.Forall₂ R later after := by
  have tail := List.forall₂_drop earlier.length related
  rw [List.drop_left] at tail
  obtain ⟨own, after, same, rest, tailed⟩ := List.forall₂_cons_left_iff.mp tail
  refine ⟨entries.take earlier.length, own, after, ?_, same, rest⟩
  rw [← tailed, List.take_append_drop]

theorem forall₂_mem {α β : Type} {R : α → β → Prop} {sources : List α} {entries : List β}
    (related : List.Forall₂ R sources entries) {entry : β} (listed : entry ∈ entries) : ∃ source ∈ sources, R source entry := by
  induction related with
  | nil => cases listed
  | cons own _ inductionHypothesis =>
    rcases List.mem_cons.mp listed with rfl | later
    · exact ⟨_, List.mem_cons_self, own⟩
    · obtain ⟨source, among, same⟩ := inductionHypothesis later
      exact ⟨source, List.mem_cons_of_mem _ among, same⟩

/-- A class of the top level is there when its program is loaded, with its last member. -/
theorem houses_load {units : List CompilationUnit} {package : Option String} {others : List TypeDecl}
    {earlier later : List (Option String × TypeDecl)} (there : topLevel units = earlier ++ (package, type) :: later)
    (straight : StraightClass type) (memberTypes : type.memberTypes = others ++ [member])
    (base : type.superclass = none) (base' : member.superclass = none) (plain : '.' ∉ type.name.toList)
    (alone : ∀ entry ∈ later, entry.2.name ≠ type.name) :
    ∃ outer inner, Houses (load units) outer inner type member := by
  obtain ⟨entries, placed, loaded⟩ := load_eq units
  rw [there] at placed
  obtain ⟨before, ⟨package', placedType⟩, after, rfl, ⟨same, own⟩, rest⟩ := forall₂_middle placed
  obtain rfl : package' = package := same
  obtain rfl : type = placedType := (own.straight straight).symm
  rw [loaded, List.foldl_append, List.foldl_cons]
  obtain ⟨inner, houses⟩ := houses_enroll (before.foldl enroll {}) package' memberTypes
    ((straight.members member (by simp [memberTypes])).2) plain
  have free : type.name ∉ after.map (·.2.name) := by
    intro taken
    obtain ⟨placed, listed, same⟩ := List.mem_map.mp taken
    obtain ⟨entry, among, -, own⟩ := forall₂_mem rest listed
    exact alone entry among (own.name.symm.trans same)
  have kept := houses.keeps (keeps_foldl_enroll _ after) houses.own.there houses.last.there plain free
  exact ⟨_, inner, kept.alike (alike_linkAll _) base base'⟩

end

section

variable {table : ClassTable} {outer inner id : ClassId} {type member decl : TypeDecl} {nesting : Nesting}
  {enclosing : List ClassId}

theorem Stands.chain (stands : Stands table id decl nesting enclosing) : table.chain id = [id] := by
  simp [ClassTable.chain, chainFrom, stands.superclass]

theorem Stands.member? (stands : Stands table id decl nesting enclosing) (name : String) :
    table.member? id name = (table.get id).members.lookup name := by
  rw [ClassTable.member?, stands.chain, List.findSome?_cons, List.findSome?_nil]
  cases (table.get id).members.lookup name <;> rfl

theorem Stands.method? (stands : Stands table id decl nesting enclosing) (name : String) (arity : Nat) :
    table.method? id name arity =
      (decl.methods.find? fun method => method.name == name && method.arity == arity && !method.isAbstract).map
        (id, ·) := by
  rw [ClassTable.method?, stands.chain, List.findSome?_cons, List.findSome?_nil, stands.decl]
  cases decl.methods.find? _ <;> rfl

theorem Stands.staticOwner? (stands : Stands table id decl nesting enclosing) {name : String}
    (other : ∀ field ∈ decl.fields, field.name ≠ name) (constants : decl.constants = []) :
    table.staticOwner? id name = none := by
  have free : (staticFields decl).any (·.name == name) = false := by
    rw [List.any_eq_false]
    intro field listed
    simpa using other field (List.mem_filter.mp listed).1
  simp [ClassTable.staticOwner?, stands.chain, stands.decl, free, constants]

variable (houses : Houses table outer inner type member)
include houses

theorem Houses.apart : inner ≠ outer := by
  rintro rfl
  exact nomatch houses.own.nesting.symm.trans houses.last.nesting

theorem Houses.resolve_top : table.resolve none type.name = some (.user outer) := by
  simp [resolve, houses.named]

theorem Houses.resolve_outer (simple : Text.split '.' type.name = [type.name]) (other : member.name ≠ type.name) :
    table.resolve (some inner) type.name = some (.user outer) := by
  have inside : table.resolveWithin type.name inner = none := by
    rw [resolveWithin, simple]
    simp [houses.last.decl, other, houses.last.member?, houses.bare]
  have around : table.resolveWithin type.name outer = some outer := by
    rw [resolveWithin, simple]
    simp [houses.own.decl]
  simp [resolve, lexical, houses.last.enclosing, inside, around]

theorem Houses.resolve_inner (simple : Text.split '.' member.name = [member.name]) (other : member.name ≠ type.name) :
    table.resolve (some outer) member.name = some (.user inner) := by
  have around : table.resolveWithin member.name outer = some inner := by
    rw [resolveWithin, simple]
    simp [houses.own.decl, other.symm, houses.own.member?, houses.listed]
  simp [resolve, lexical, houses.own.enclosing, around]

end

end ClassTable

end JavaWeave.Interpreter
