import JavaWeave.Proofs.Types.Declared
import Mathlib.Algebra.Order.BigOperators.Group.List
import Mathlib.Algebra.Order.Group.Nat
import Mathlib.Data.Set.Finite.Basic

/-! What the search for a supertype finds. Its loop over pending names is told without a bound; the fuel of the
search outlasts that loop for every table, whatever supertypes the types list. Where types of one qualified name
are one type, the answer is reachability: some name that the first leads to by listed supertypes is the wanted one. -/

namespace JavaWeave.TypeTable

/-- What a name leads to: itself, and what the supertypes of its type lead to. -/
inductive Leads (table : TypeTable) : String → String → Prop
  | self {name : String} : Leads table name name
  | supertype {name parent target : String} {info : TypeInfo} (resolved : table.resolve? name = some info)
      (listed : parent ∈ info.supertypes) (onward : Leads table parent target) : Leads table name target

/-- Whether a name is the ancestor. Of a type that is not known either name may be the longer one. -/
def Meets (table : TypeTable) (ancestor name : String) : Prop :=
  match table.resolve? name with
  | some info => Names.denotes info.qualifiedName ancestor
  | none => Names.denotes name ancestor ∨ Names.denotes ancestor name

/-- The loop from some pending names and some qualified names that were expanded, to its answer. Each rule but the
first two is one round. -/
inductive Searches (table : TypeTable) (ancestor : String) : List String → List String → Bool → Prop
  | drained {expanded : List String} : Searches table ancestor [] expanded false
  | found {current : String} {pending expanded : List String} (meets : table.Meets ancestor current) :
      Searches table ancestor (current :: pending) expanded true
  | unknown {current : String} {pending expanded : List String} {answer : Bool}
      (unresolved : table.resolve? current = none) (apart : ¬ table.Meets ancestor current)
      (onward : Searches table ancestor pending expanded answer) :
      Searches table ancestor (current :: pending) expanded answer
  | again {current : String} {pending expanded : List String} {info : TypeInfo} {answer : Bool}
      (resolved : table.resolve? current = some info) (apart : ¬ table.Meets ancestor current)
      (known : info.qualifiedName ∈ expanded) (onward : Searches table ancestor pending expanded answer) :
      Searches table ancestor (current :: pending) expanded answer
  | expand {current : String} {pending expanded : List String} {info : TypeInfo} {answer : Bool}
      (resolved : table.resolve? current = some info) (apart : ¬ table.Meets ancestor current)
      (fresh : info.qualifiedName ∉ expanded)
      (onward : Searches table ancestor (info.supertypes.reverse ++ pending) (info.qualifiedName :: expanded) answer) :
      Searches table ancestor (current :: pending) expanded answer

/-- One type for each qualified name. -/
def Consistent (table : TypeTable) : Prop :=
  ∀ (name name' : String) (info info' : TypeInfo), table.resolve? name = some info → table.resolve? name' = some info' →
    info.qualifiedName = info'.qualifiedName → info = info'

variable {table : TypeTable} {ancestor : String} {pending expanded : List String} {answer : Bool}

theorem meets_of_resolved (ancestor : String) {name : String} {info : TypeInfo} (resolved : table.resolve? name = some info) :
    table.Meets ancestor name ↔ Names.denotes info.qualifiedName ancestor := by
  rw [Meets, resolved]

theorem meets_of_unresolved (ancestor : String) {name : String} (unresolved : table.resolve? name = none) :
    table.Meets ancestor name ↔ Names.denotes name ancestor ∨ Names.denotes ancestor name := by
  rw [Meets, unresolved]

theorem mem_of_resolve? {name : String} {info : TypeInfo} (resolved : table.resolve? name = some info) :
    (name, info) ∈ table.entries := by
  obtain ⟨before, after, entries, _⟩ := List.lookup_eq_some_iff.mp resolved
  rw [entries]
  exact List.mem_append_right _ List.mem_cons_self

theorem consistent_of_entries
    (alike : ∀ entry ∈ table.entries, ∀ entry' ∈ table.entries,
      entry.2.qualifiedName = entry'.2.qualifiedName → entry.2 = entry'.2) : table.Consistent :=
  fun _ _ _ _ resolved resolved' => alike _ (mem_of_resolve? resolved) _ (mem_of_resolve? resolved')

/-- What resolves finitely many names is a table. -/
theorem exists_resolve?_eq (resolver : String → Option TypeInfo) (finite : {name | (resolver name).isSome}.Finite) :
    ∃ table : TypeTable, table.resolve? = resolver := by
  refine ⟨⟨finite.toFinset.toList.filterMap fun name => (resolver name).map (name, ·)⟩, funext fun name => ?_⟩
  have unambiguous : Unambiguous (finite.toFinset.toList.filterMap fun name => (resolver name).map (name, ·)) := by
    intro name first second one other
    simp only [List.mem_filterMap, Option.map_eq_some_iff, Prod.mk.injEq] at one other
    obtain ⟨_, _, _, first, rfl, rfl⟩ := one
    obtain ⟨_, _, _, second, rfl, rfl⟩ := other
    exact Option.some.inj (first.symm.trans second)
  refine Option.ext fun info => (lookup_eq_some_iff_mem unambiguous).trans ?_
  simp only [List.mem_filterMap, Finset.mem_toList, Set.Finite.mem_toFinset, Set.mem_ofPred_eq,
    Option.map_eq_some_iff, Prod.mk.injEq]
  constructor
  · rintro ⟨_, _, _, found, rfl, rfl⟩
    exact found
  · intro found
    exact ⟨name, Option.isSome_of_mem found, info, found, rfl, rfl⟩

/-- The loop has one answer. -/
theorem Searches.unique {answer' : Bool} (searches : Searches table ancestor pending expanded answer)
    (searches' : Searches table ancestor pending expanded answer') : answer = answer' := by
  induction searches with
  | drained => cases searches'; rfl
  | found meets =>
    cases searches' with
    | found => rfl
    | unknown _ apart | again _ apart | expand _ apart => exact absurd meets apart
  | unknown unresolved apart _ inductionHypothesis =>
    cases searches' with
    | found meets => exact absurd meets apart
    | unknown _ _ onward => exact inductionHypothesis onward
    | again resolved | expand resolved => rw [unresolved] at resolved; cases resolved
  | again resolved apart known _ inductionHypothesis =>
    cases searches' with
    | found meets => exact absurd meets apart
    | unknown unresolved => rw [resolved] at unresolved; cases unresolved
    | again _ _ _ onward => exact inductionHypothesis onward
    | expand resolved' _ fresh =>
      cases resolved.symm.trans resolved'
      exact absurd known fresh
  | expand resolved apart fresh _ inductionHypothesis =>
    cases searches' with
    | found meets => exact absurd meets apart
    | unknown unresolved => rw [resolved] at unresolved; cases unresolved
    | again resolved' _ known =>
      cases resolved.symm.trans resolved'
      exact absurd known fresh
    | expand resolved' _ _ onward =>
      cases resolved.symm.trans resolved'
      exact inductionHypothesis onward

/-- How many supertypes an entry may still add: none once its type was expanded. -/
def remaining (expanded : List String) (entry : String × TypeInfo) : Nat :=
  if entry.2.qualifiedName ∈ expanded then 0 else entry.2.supertypes.length

theorem remaining_cons_le (name : String) (expanded : List String) (entry : String × TypeInfo) :
    remaining (name :: expanded) entry ≤ remaining expanded entry := by
  unfold remaining
  split
  · exact Nat.zero_le _
  · rename_i fresh
    rw [if_neg fun known => fresh (List.mem_cons_of_mem _ known)]

/-- Expanding a type uses up what its entries could add. -/
theorem sum_remaining_expand {entries : List (String × TypeInfo)} {entry : String × TypeInfo} (listed : entry ∈ entries)
    (fresh : entry.2.qualifiedName ∉ expanded) :
    entry.2.supertypes.length + (entries.map (remaining (entry.2.qualifiedName :: expanded))).sum
      ≤ (entries.map (remaining expanded)).sum := by
  induction entries with
  | nil => cases listed
  | cons first rest inductionHypothesis =>
    simp only [List.map_cons, List.sum_cons]
    rcases List.mem_cons.mp listed with rfl | later
    · have used : remaining (entry.2.qualifiedName :: expanded) entry = 0 := if_pos List.mem_cons_self
      have whole : remaining expanded entry = entry.2.supertypes.length := if_neg fresh
      have others := List.sum_le_sum (l := rest) fun other _ => remaining_cons_le entry.2.qualifiedName expanded other
      omega
    · have first := remaining_cons_le entry.2.qualifiedName expanded first
      have rest := inductionHypothesis later
      omega

/-- With a step for each pending name and each supertype to come, the bounded search is the loop. -/
theorem searches_searchFrom {fuel : Nat}
    (enough : pending.length + (table.entries.map (remaining expanded)).sum < fuel) :
    Searches table ancestor pending expanded (table.searchFrom ancestor fuel pending expanded) := by
  induction fuel generalizing pending expanded with
  | zero => cases enough
  | succ fuel inductionHypothesis =>
    cases pending with
    | nil => exact .drained
    | cons current pending =>
      rw [List.length_cons] at enough
      rw [searchFrom]
      cases resolved : table.resolve? current with
      | none =>
        have meets := meets_of_unresolved ancestor resolved
        rw [← Bool.or_eq_true] at meets
        simp only
        cases denoted : Names.denotes current ancestor || Names.denotes ancestor current with
        | true => exact .found (meets.mpr denoted)
        | false =>
          rw [denoted] at meets
          exact .unknown resolved (meets.not.mpr Bool.false_ne_true) (inductionHypothesis (by omega))
      | some info =>
        have meets := meets_of_resolved ancestor resolved
        simp only
        split
        · rename_i denoted
          exact .found (meets.mpr denoted)
        · rename_i apart
          have apart := meets.not.mpr apart
          split
          · rename_i known
            exact .again resolved apart (List.contains_iff_mem.mp known) (inductionHypothesis (by omega))
          · rename_i fresh
            have fresh : info.qualifiedName ∉ expanded := fun known => fresh (List.contains_iff_mem.mpr known)
            have used := sum_remaining_expand (mem_of_resolve? resolved) fresh
            refine .expand resolved apart fresh (inductionHypothesis ?_)
            rw [List.length_append, List.length_reverse]
            dsimp only at used
            omega

/-- The search for a supertype runs to the end of the loop. -/
theorem searches_isSubtype (table : TypeTable) (name ancestor : String) :
    Searches table ancestor [name] [] (table.isSubtype name ancestor) := by
  refine searches_searchFrom ?_
  have whole : table.entries.map (remaining []) = table.entries.map fun entry => entry.2.supertypes.length :=
    List.map_congr_left fun entry _ => if_neg List.not_mem_nil
  rw [whole, ← edges_eq_sum, List.length_singleton]
  omega

/-- What the loop finds is led to from a pending name. -/
theorem Searches.leads (searches : Searches table ancestor pending expanded answer) (positive : answer = true) :
    ∃ name ∈ pending, ∃ target, table.Leads name target ∧ table.Meets ancestor target := by
  induction searches with
  | drained => cases positive
  | found meets => exact ⟨_, List.mem_cons_self, _, .self, meets⟩
  | unknown _ _ _ inductionHypothesis | again _ _ _ _ inductionHypothesis =>
    obtain ⟨name, listed, reached⟩ := inductionHypothesis positive
    exact ⟨name, List.mem_cons_of_mem _ listed, reached⟩
  | expand resolved _ _ _ inductionHypothesis =>
    obtain ⟨name, listed, target, leads, meets⟩ := inductionHypothesis positive
    rcases List.mem_append.mp listed with parent | listed
    · exact ⟨_, List.mem_cons_self, target, .supertype resolved (List.mem_reverse.mp parent) leads, meets⟩
    · exact ⟨name, List.mem_cons_of_mem _ listed, target, leads, meets⟩

/-- A name that is done with: it is not the ancestor, and its type, if it has one, was expanded. -/
structure Settled (table : TypeTable) (ancestor : String) (expanded : List String) (name : String) : Prop where
  apart : ¬ table.Meets ancestor name
  covered : ∀ info, table.resolve? name = some info → info.qualifiedName ∈ expanded

theorem Settled.of_unresolved {name : String} (unresolved : table.resolve? name = none)
    (apart : ¬ table.Meets ancestor name) : Settled table ancestor expanded name :=
  ⟨apart, fun _ resolved => by rw [unresolved] at resolved; cases resolved⟩

theorem Settled.of_resolved {name : String} {info : TypeInfo} (resolved : table.resolve? name = some info)
    (apart : ¬ table.Meets ancestor name) (known : info.qualifiedName ∈ expanded) :
    Settled table ancestor expanded name :=
  ⟨apart, fun _ found => by cases resolved.symm.trans found; exact known⟩

theorem Settled.mono {name : String} (added : String) (settled : Settled table ancestor expanded name) :
    Settled table ancestor (added :: expanded) name :=
  ⟨settled.apart, fun info resolved => List.mem_cons_of_mem _ (settled.covered info resolved)⟩

/-- What the loop keeps: no expanded type is the ancestor, and each supertype of one is pending or done with. -/
structure Explored (table : TypeTable) (ancestor : String) (pending expanded : List String) : Prop where
  apart : ∀ name info, table.resolve? name = some info → info.qualifiedName ∈ expanded → ¬ table.Meets ancestor name
  parents : ∀ name info, table.resolve? name = some info → info.qualifiedName ∈ expanded →
    ∀ parent ∈ info.supertypes, parent ∈ pending ∨ Settled table ancestor expanded parent

/-- A pending name that is done with can be dropped. -/
theorem pending_or_settled_of_cons {current name : String} (done : Settled table ancestor expanded current)
    (before : name ∈ current :: pending ∨ Settled table ancestor expanded name) :
    name ∈ pending ∨ Settled table ancestor expanded name := by
  rcases before with listed | settled
  · rcases List.mem_cons.mp listed with rfl | listed
    · exact .inr done
    · exact .inl listed
  · exact .inr settled

/-- A pending name that is expanded is done with, and its supertypes are pending. -/
theorem pending_or_settled_of_expand {current name : String} {info : TypeInfo}
    (resolved : table.resolve? current = some info) (apart : ¬ table.Meets ancestor current)
    (before : name ∈ current :: pending ∨ Settled table ancestor expanded name) :
    name ∈ info.supertypes.reverse ++ pending ∨ Settled table ancestor (info.qualifiedName :: expanded) name := by
  have done : Settled table ancestor (info.qualifiedName :: expanded) current :=
    .of_resolved resolved apart List.mem_cons_self
  have before := before.imp_right (Settled.mono info.qualifiedName)
  exact (pending_or_settled_of_cons done before).imp_left (List.mem_append_right _)

theorem Explored.drop {current : String} (explored : Explored table ancestor (current :: pending) expanded)
    (done : Settled table ancestor expanded current) : Explored table ancestor pending expanded :=
  ⟨explored.apart, fun name info resolved known parent listed =>
    pending_or_settled_of_cons done (explored.parents name info resolved known parent listed)⟩

theorem Explored.expand (consistent : table.Consistent) {current : String} {info : TypeInfo}
    (explored : Explored table ancestor (current :: pending) expanded) (resolved : table.resolve? current = some info)
    (apart : ¬ table.Meets ancestor current) :
    Explored table ancestor (info.supertypes.reverse ++ pending) (info.qualifiedName :: expanded) := by
  constructor
  · intro name other found known
    rcases List.mem_cons.mp known with same | known
    · rw [meets_of_resolved _ found, same, ← meets_of_resolved _ resolved]
      exact apart
    · exact explored.apart name other found known
  · intro name other found known parent listed
    rcases List.mem_cons.mp known with same | known
    · cases consistent name current other info found resolved same
      exact .inl (List.mem_append_left _ (List.mem_reverse.mpr listed))
    · exact pending_or_settled_of_expand resolved apart (explored.parents name other found known parent listed)

/-- Where nothing is pending, names that are done with lead to no ancestor. -/
theorem Explored.apart_of_leads {name target : String} (explored : Explored table ancestor [] expanded)
    (leads : table.Leads name target) (settled : Settled table ancestor expanded name) :
    ¬ table.Meets ancestor target := by
  induction leads with
  | self => exact settled.apart
  | supertype resolved listed _ inductionHypothesis =>
    have parent := explored.parents _ _ resolved (settled.covered _ resolved) _ listed
    exact inductionHypothesis (parent.resolve_left List.not_mem_nil)

/-- A loop that finds nothing has seen all that its names lead to. -/
theorem Searches.apart (consistent : table.Consistent) (searches : Searches table ancestor pending expanded answer)
    (negative : answer = false) (explored : Explored table ancestor pending expanded) {name target : String}
    (known : name ∈ pending ∨ Settled table ancestor expanded name) (leads : table.Leads name target) :
    ¬ table.Meets ancestor target := by
  induction searches with
  | drained => exact explored.apart_of_leads leads (known.resolve_left List.not_mem_nil)
  | found => cases negative
  | unknown unresolved apart _ inductionHypothesis =>
    exact inductionHypothesis negative (explored.drop (.of_unresolved unresolved apart))
      (pending_or_settled_of_cons (.of_unresolved unresolved apart) known)
  | again resolved apart known' _ inductionHypothesis =>
    have done := Settled.of_resolved resolved apart known'
    exact inductionHypothesis negative (explored.drop done) (pending_or_settled_of_cons done known)
  | expand resolved apart fresh _ inductionHypothesis =>
    exact inductionHypothesis negative (explored.expand consistent resolved apart)
      (pending_or_settled_of_expand resolved apart known)

/-- Being a subtype is reachability. The loop ends with the answer, and the answer is positive iff the name leads
to one that is the ancestor. -/
theorem isSubtype_iff_leads (consistent : table.Consistent) (name ancestor : String) :
    Searches table ancestor [name] [] (table.isSubtype name ancestor) ∧
      (table.isSubtype name ancestor = true ↔
        ∃ target, table.Leads name target ∧ table.Meets ancestor target) := by
  have searches := searches_isSubtype table name ancestor
  refine ⟨searches, fun positive => ?_, fun ⟨target, leads, meets⟩ => ?_⟩
  · obtain ⟨_, listed, reached⟩ := searches.leads positive
    exact List.mem_singleton.mp listed ▸ reached
  · have explored : Explored table ancestor [name] [] := ⟨nofun, nofun⟩
    by_contra negative
    have apart := searches.apart consistent (Bool.eq_false_iff.mpr negative) explored (.inl List.mem_cons_self) leads
    exact apart meets

/-- Two types that extend each other, one of them also itself and a type that is not known. -/
def knot : TypeTable :=
  let left : TypeInfo := { qualifiedName := "p.Left", kind := .plain, supertypes := ["Right"] }
  let right : TypeInfo := { qualifiedName := "p.Right", kind := .plain, supertypes := ["Left", "p.Right", "Gone"] }
  ⟨[("Left", left), ("p.Left", left), ("Right", right), ("p.Right", right)]⟩

theorem isSubtype_iff_leads_knot :
    knot.Consistent ∧ knot.isSubtype "p.Left" "q.Gone" = true ∧ knot.isSubtype "p.Left" "q.Right" = false ∧
      (∃ target, knot.Leads "p.Left" target ∧ knot.Meets "q.Gone" target) ∧
        ¬ ∃ target, knot.Leads "p.Left" target ∧ knot.Meets "q.Right" target := by
  have consistent : knot.Consistent := consistent_of_entries (by decide +kernel)
  have found : knot.isSubtype "p.Left" "q.Gone" = true := by decide +kernel
  have missed : knot.isSubtype "p.Left" "q.Right" = false := by decide +kernel
  refine ⟨consistent, found, missed, (isSubtype_iff_leads consistent _ _).2.mp found, fun reached => ?_⟩
  rw [(isSubtype_iff_leads consistent _ _).2.mpr reached] at missed
  cases missed

end JavaWeave.TypeTable
