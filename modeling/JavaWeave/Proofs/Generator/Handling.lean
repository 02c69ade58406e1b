import JavaWeave.Proofs.Generator.Rounds

namespace JavaWeave.Generator

open Syntax Interpreter

section

variable {α κ : Type} [BEq κ] (key : α → κ)

/-- One item more in its group. -/
private def grow (groups : List (κ × List α)) (item : α) : List (κ × List α) :=
  if groups.any (·.1 == key item) then
    groups.map fun (k, members) => if k == key item then (k, members ++ [item]) else (k, members)
  else groups ++ [(key item, [item])]

private theorem groupBy_eq (items : List α) : groupBy key items = items.foldl (grow key) [] := rfl

private theorem key_of_mem_grow [LawfulBEq κ] {groups : List (κ × List α)} {item : α}
    (keyed : ∀ group ∈ groups, ∀ x ∈ group.2, key x = group.1) :
    ∀ group ∈ grow key groups item, ∀ x ∈ group.2, key x = group.1 := by
  intro group member x inside
  rw [grow] at member
  split at member
  · obtain ⟨⟨k, members⟩, old, rfl⟩ := List.mem_map.mp member
    have before := keyed _ old
    by_cases same : k = key item
    · simp only [same, beq_self_eq_true, if_true] at inside ⊢
      rcases List.mem_append.mp inside with earlier | now
      · exact (before x earlier).trans same
      · rw [List.mem_singleton.mp now]
    · have different : (k == key item) = false := by simpa using same
      simp only [different, Bool.false_eq_true, if_false] at inside ⊢
      exact before x inside
  · rcases List.mem_append.mp member with old | new
    · exact keyed group old x inside
    · obtain rfl := List.mem_singleton.mp new
      rw [List.mem_singleton.mp inside]

/-- The members of a group have its key. -/
theorem key_of_mem_groupBy [LawfulBEq κ] (items : List α) :
    ∀ group ∈ groupBy key items, ∀ x ∈ group.2, key x = group.1 := by
  have keyed (groups : List (κ × List α)) (start : ∀ group ∈ groups, ∀ x ∈ group.2, key x = group.1) :
      ∀ group ∈ items.foldl (grow key) groups, ∀ x ∈ group.2, key x = group.1 := by
    induction items generalizing groups with
    | nil => exact start
    | cons item rest ih => exact ih _ (key_of_mem_grow key start)
  exact keyed [] fun _ member => by simp at member

private theorem mem_grow (groups : List (κ × List α)) (item x : α) :
    x ∈ (grow key groups item).flatMap (·.2) ↔ x ∈ groups.flatMap (·.2) ∨ x = item := by
  rw [grow]
  split
  · next present =>
    obtain ⟨group, inside, same⟩ := List.any_eq_true.mp present
    have members (group : κ × List α) :
        (if group.1 == key item then (group.1, group.2 ++ [item]) else (group.1, group.2)).2 =
          if group.1 == key item then group.2 ++ [item] else group.2 := by
      split <;> rfl
    simp only [List.mem_flatMap, List.mem_map]
    constructor
    · rintro ⟨_, ⟨old, before, rfl⟩, member⟩
      rw [members] at member
      split at member
      · rcases List.mem_append.mp member with earlier | now
        · exact Or.inl ⟨old, before, earlier⟩
        · exact Or.inr (List.mem_singleton.mp now)
      · exact Or.inl ⟨old, before, member⟩
    · rintro (⟨old, before, member⟩ | rfl)
      · refine ⟨_, ⟨old, before, rfl⟩, ?_⟩
        rw [members]
        split
        · exact List.mem_append_left _ member
        · exact member
      · refine ⟨_, ⟨group, inside, rfl⟩, ?_⟩
        rw [members, if_pos same]
        exact List.mem_append_right _ List.mem_cons_self
  · simp

/-- Every item is in a group, and nothing else is. -/
theorem mem_groupBy (items : List α) (x : α) : x ∈ (groupBy key items).flatMap (·.2) ↔ x ∈ items := by
  have grown (groups : List (κ × List α)) :
      x ∈ (items.foldl (grow key) groups).flatMap (·.2) ↔ x ∈ groups.flatMap (·.2) ∨ x ∈ items := by
    induction items generalizing groups with
    | nil => simp
    | cons item rest ih => rw [List.foldl_cons, ih, mem_grow, List.mem_cons, or_assoc]
  rw [groupBy_eq, grown]
  simp

end

/-- The try statements around a target. -/
def Machine.contextAt (machine : Machine) : Target → Context
  | .done => []
  | .state id => (machine.state id).context

/-- What is done where no handler is found. -/
def giveUp : List Statement :=
  [assignName stateName (.int (-1)),
    .throws (.make (.named "java.util.ConcurrentModificationException") [.name caughtName])]

section

variable (machine : Machine) (numbering : Numbering)

/-- Groups that share a body: all but the last run on into it. -/
def sharing (body : List Statement) : List Nat → List SwitchCase
  | [] => []
  | [id] => [⟨some (numbering.literal (.state id)), body⟩]
  | id :: other :: rest => ⟨some (numbering.literal (.state id)), []⟩ :: sharing body (other :: rest)

private theorem sharing_eq (body : List Statement) (ids : List Nat) :
    ids.dropLast.map (fun id => (⟨some (numbering.literal (.state id)), []⟩ : SwitchCase)) ++
        ids.getLast?.toList.map (fun id => ⟨some (numbering.literal (.state id)), body⟩) =
      sharing numbering body ids := by
  induction ids with
  | nil => rfl
  | cons id rest ih =>
    cases rest with
    | nil => rfl
    | cons other rest =>
      rw [sharing, ← ih]
      rfl

/-- The search for the states in a context, and the end of the switch where it finds nothing. -/
def searchGroup (context : Context) : List Statement :=
  let search := handlerSearch machine numbering context.reverse
  if endsInReturn search then search else search ++ [.breaks none]

theorem handlerCases_eq (context : Context) (ids : List Nat) :
    handlerCases machine numbering context ids =
      if (handlerSearch machine numbering context.reverse).isEmpty then []
      else sharing numbering (searchGroup machine numbering context) ids := by
  simp only [handlerCases, sharing_eq, searchGroup]

theorem isNumbered_sharing (body : List Statement) (ids : List Nat) :
    ∀ group ∈ sharing numbering body ids, ∃ number, group.label = some (.int number) := by
  induction ids with
  | nil => intro _ member; simp [sharing] at member
  | cons id rest ih =>
    intro group member
    cases rest with
    | nil =>
      rw [sharing, List.mem_singleton] at member
      exact ⟨_, by rw [member]; rfl⟩
    | cons other rest =>
      rcases List.mem_cons.mp member with rfl | later
      · exact ⟨_, rfl⟩
      · exact ih group later

end

/-- Code that ends normally or returns, unless it ends abruptly. -/
def EndsPlainly (code : Code Flow) : Prop :=
  ∀ point flow after, outcome code point = (.ok flow, after) → flow = .normal ∨ ∃ value, flow = .returns value

section

variable (meaning : Meaning) (fuel : Nat)

theorem endsPlainly_expression (e : Expression) : EndsPlainly (exec meaning fuel none (.expression e)) := by
  intro point flow after ends
  simp only [exec_expression, outcome_bind, outcome_discard] at ends
  generalize outcome (meaning.eval e) point = ending at ends
  rcases ending with ⟨_ | _, _⟩ <;> cases ends
  exact Or.inl rfl

theorem endsPlainly_returns (e : Expression) : EndsPlainly (exec meaning fuel none (.returns (some e))) := by
  intro point flow after ends
  simp only [exec_returns, outcome_map] at ends
  generalize outcome (meaning.eval e) point = ending at ends
  rcases ending with ⟨_ | _, _⟩ <;> cases ends
  exact Or.inr ⟨_, rfl⟩

theorem endsPlainly_execAll {body : List Statement}
    (plain : ∀ s ∈ body, EndsPlainly (exec meaning fuel none s)) : EndsPlainly (execAll meaning fuel body) := by
  induction body with
  | nil =>
    intro point flow after ends
    rw [outcome_execAll_nil] at ends
    cases ends
    exact Or.inl rfl
  | cons s rest ih =>
    intro point flow after ends
    rw [outcome_execAll_cons] at ends
    have here := plain s List.mem_cons_self point
    rcases ended : outcome (exec meaning fuel none s) point with ⟨unwind | value, middle⟩ <;>
      rw [ended] at ends
    · cases ends
    · rcases here value middle ended with rfl | ⟨_, rfl⟩
      · exact ih (fun s member => plain s (List.mem_cons_of_mem _ member)) middle flow after ends
      · cases ends
        exact Or.inr ⟨_, rfl⟩

theorem endsPlainly_whenever {condition : Expression} {body : List Statement}
    (plain : ∀ s ∈ body, EndsPlainly (exec meaning fuel none s)) :
    EndsPlainly (exec meaning fuel none (.whenever condition (.block body))) := by
  intro point flow after ends
  simp only [Statement.whenever, exec_ifElse_none, exec_block, outcome_bind] at ends
  generalize outcome (truth (meaning.eval condition)) point = ending at ends
  rcases ending with ⟨_ | _ | _, middle⟩
  · cases ends
  · cases ends
    exact Or.inl rfl
  · simp only [proceed_ok, if_true, outcome_inScope] at ends
    have inside := endsPlainly_execAll meaning fuel plain middle.push
    generalize outcome (execAll meaning fuel body) middle.push = ending at ends inside
    obtain ⟨result, last⟩ := ending
    exact inside flow last (by rw [show result = .ok flow from congrArg Prod.fst ends])

variable (machine : Machine) (numbering : Numbering)

theorem endsPlainly_offerTo (entry : CatchEntry) :
    EndsPlainly (exec meaning fuel none (offerTo numbering entry)) := by
  refine endsPlainly_whenever meaning fuel fun s member => ?_
  simp only [List.mem_cons, List.not_mem_nil, or_false] at member
  rcases member with rfl | rfl
  · exact endsPlainly_expression meaning fuel _
  · exact endsPlainly_returns meaning fuel _

/-- What a search is made of. -/
theorem mem_handlerSearch {context : Context} {s : Statement}
    (member : s ∈ handlerSearch machine numbering context) :
    (∃ entry, s = offerTo numbering entry) ∨ (∃ e, s = .expression e) ∨ ∃ e, s = .returns (some e) := by
  induction context with
  | nil => simp [handlerSearch] at member
  | cons place outer ih =>
    obtain ⟨index, part⟩ := place
    have ofOffers (inside : s ∈ if part = .body then (machine.region index).catches.map (offerTo numbering)
        else []) : ∃ entry, s = offerTo numbering entry := by
      split at inside
      · obtain ⟨entry, _, rfl⟩ := List.mem_map.mp inside
        exact ⟨entry, rfl⟩
      · simp at inside
    simp only [handlerSearch] at member
    split at member
    · rcases List.mem_append.mp member with offer | later
      · exact Or.inl (ofOffers offer)
      · exact ih later
    · rcases List.mem_append.mp member with offer | later
      · exact Or.inl (ofOffers offer)
      · exact ih later
    · rcases List.mem_append.mp member with offer | later
      · exact Or.inl (ofOffers offer)
      · simp only [List.mem_cons, List.not_mem_nil, or_false] at later
        rcases later with rfl | rfl
        · exact Or.inr (Or.inl ⟨_, rfl⟩)
        · exact Or.inr (Or.inr ⟨_, rfl⟩)

theorem endsPlainly_search (context : Context) :
    EndsPlainly (execAll meaning fuel (handlerSearch machine numbering context)) := by
  refine endsPlainly_execAll meaning fuel fun s member => ?_
  rcases mem_handlerSearch machine numbering member with ⟨entry, rfl⟩ | ⟨e, rfl⟩ | ⟨e, rfl⟩
  · exact endsPlainly_offerTo meaning fuel numbering entry
  · exact endsPlainly_expression meaning fuel e
  · exact endsPlainly_returns meaning fuel e

/-- A search that ends in a return does not end normally. -/
private theorem search_returns {context : Context} {point after : Point}
    (returns : endsInReturn (handlerSearch machine numbering context) = true) :
    outcome (execAll meaning fuel (handlerSearch machine numbering context)) point ≠ (.ok .normal, after) := by
  intro ends
  obtain ⟨init, value, split⟩ : ∃ init value, handlerSearch machine numbering context = init ++ [.returns value] := by
    unfold endsInReturn at returns
    split at returns
    · next value last =>
      obtain ⟨init, split⟩ := List.getLast?_eq_some_iff.mp last
      exact ⟨init, value, split⟩
    · cases returns
  obtain ⟨e, rfl⟩ : ∃ e, value = some e := by
    have member : .returns value ∈ handlerSearch machine numbering context := by simp [split]
    rcases mem_handlerSearch machine numbering member with ⟨entry, same⟩ | ⟨e, same⟩ | ⟨e, same⟩
    · cases same
    · cases same
    · cases same
      exact ⟨e, rfl⟩
  rw [split, outcome_execAll_append] at ends
  generalize outcome (execAll meaning fuel init) point = ending at ends
  rcases ending with ⟨_ | _ | _ | _ | _, middle⟩
  case ok.normal =>
    rw [andThen_normal, outcome_execAll_single] at ends
    simp only [exec_returns, outcome_map] at ends
    generalize outcome (meaning.eval e) middle = ending at ends
    rcases ending with ⟨_ | _, _⟩ <;> cases ends
  all_goals cases ends

/-- A group of the switch over states is the search in its context. -/
theorem afterGroup_searchGroup (context : Context) (point : Point)
    (next : Point → Except Unwind Flow × Point) :
    afterGroup (outcome (execAll meaning fuel (searchGroup machine numbering context)) point) next =
      outcome (execAll meaning fuel (handlerSearch machine numbering context.reverse)) point := by
  have plain := endsPlainly_search meaning fuel machine numbering context.reverse point
  have never := @search_returns meaning fuel machine numbering context.reverse point
  simp only [searchGroup]
  cases returns : endsInReturn (handlerSearch machine numbering context.reverse) with
  | true =>
    simp only [if_true]
    rcases ends : outcome (execAll meaning fuel (handlerSearch machine numbering context.reverse)) point with
      ⟨unwind | flow, after⟩
    · rfl
    · rcases plain flow after ends with rfl | ⟨_, rfl⟩
      · exact absurd ends (never returns)
      · rfl
  | false =>
    simp only [Bool.false_eq_true, if_false, outcome_execAll_append]
    rcases ends : outcome (execAll meaning fuel (handlerSearch machine numbering context.reverse)) point with
      ⟨unwind | flow, after⟩
    · rfl
    · rcases plain flow after ends with rfl | ⟨_, rfl⟩
      · simp [exec_breaks, afterGroup]
      · rfl

end

section

variable (meaning : Meaning) (fuel : Nat) (machine : Machine) (numbering : Numbering) (number : Int32)

/-- The groups from that of a number on. -/
def groupsFrom (cases : List SwitchCase) : List SwitchCase :=
  cases.dropWhile fun group => caseNumber group != some number

private theorem outcome_sharing {body : List Statement} {ids : List Nat} (some : ids ≠ [])
    (rest : List SwitchCase) (point : Point) :
    outcome (execCases meaning fuel 0 (sharing numbering body ids ++ rest)) point =
      afterGroup (outcome (execAll meaning fuel body) point) (outcome (execCases meaning fuel 0 rest)) := by
  induction ids with
  | nil => exact absurd rfl some
  | cons id ids ih =>
    cases ids with
    | nil => rw [sharing, List.singleton_append, outcome_execCases_cons]
    | cons other ids =>
      rw [sharing, List.cons_append, outcome_execCases_cons, outcome_execAll_nil, ← ih (by simp)]
      rfl

/-- Groups that share a body run it from any of them on. -/
private theorem outcome_groupsFrom_sharing {body : List Statement} {ids : List Nat}
    (member : number ∈ ids.map fun id => numbering.number (.state id)) (rest : List SwitchCase)
    (point : Point) :
    outcome (execCases meaning fuel 0 (groupsFrom number (sharing numbering body ids ++ rest))) point =
      afterGroup (outcome (execAll meaning fuel body) point) (outcome (execCases meaning fuel 0 rest)) := by
  induction ids with
  | nil => simp at member
  | cons id ids ih =>
    have numbered (body : List Statement) : caseNumber ⟨some (numbering.literal (.state id)), body⟩ =
        some (numbering.number (.state id)) := rfl
    by_cases here : numbering.number (.state id) = number
    · have whole : groupsFrom number (sharing numbering body (id :: ids) ++ rest) =
          sharing numbering body (id :: ids) ++ rest := by
        cases ids with
        | nil => simp [groupsFrom, sharing, numbered, here]
        | cons other ids => simp [groupsFrom, sharing, numbered, here]
      rw [whole, outcome_sharing meaning fuel numbering (by simp)]
    · have later : number ∈ ids.map fun id => numbering.number (.state id) := by
        rcases List.mem_cons.mp member with same | later
        · exact absurd same.symm here
        · exact later
      cases ids with
      | nil => simp at later
      | cons other ids =>
        rw [← ih later]
        simp [groupsFrom, sharing, numbered, here]

private theorem groupsFrom_sharing_of_not_mem {body : List Statement} {ids : List Nat}
    (absent : number ∉ ids.map fun id => numbering.number (.state id)) (rest : List SwitchCase) :
    groupsFrom number (sharing numbering body ids ++ rest) = groupsFrom number rest := by
  induction ids with
  | nil => rfl
  | cons id ids ih =>
    have numbered (body : List Statement) : caseNumber ⟨some (numbering.literal (.state id)), body⟩ =
        some (numbering.number (.state id)) := rfl
    have elsewhere : numbering.number (.state id) ≠ number := fun same => absent (by simp [same])
    have onward := ih fun member => absent (List.mem_cons_of_mem _ member)
    cases ids with
    | nil => simp [groupsFrom, sharing, numbered, elsewhere]
    | cons other ids =>
      rw [← onward]
      simp [groupsFrom, sharing, numbered, elsewhere]

/-- The groups of all contexts run the search in the context of the states of a number. -/
private theorem outcome_handlerCases {context : Context} (groups : List (Context × List Nat))
    (keyed : ∀ group ∈ groups, ∀ id ∈ group.2, numbering.number (.state id) = number → group.1 = context)
    (point : Point) :
    outcome (execCases meaning fuel 0 (groupsFrom number
        (groups.flatMap fun group => handlerCases machine numbering group.1 group.2))) point =
      if number ∈ (groups.flatMap (·.2)).map fun id => numbering.number (.state id) then
        outcome (execAll meaning fuel (handlerSearch machine numbering context.reverse)) point
      else (.ok .normal, point) := by
  induction groups with
  | nil => simp [groupsFrom]
  | cons group rest ih =>
    obtain ⟨key, ids⟩ := group
    have onward := ih fun group member => keyed group (List.mem_cons_of_mem _ member)
    simp only [List.flatMap_cons, List.map_append, List.mem_append]
    rw [handlerCases_eq machine numbering key ids]
    by_cases here : number ∈ ids.map fun id => numbering.number (.state id)
    · obtain ⟨id, inside, same⟩ := List.mem_map.mp here
      obtain rfl : key = context := keyed _ List.mem_cons_self id inside same
      rw [if_pos (Or.inl here)]
      split
      · next empty =>
        have nothing := List.isEmpty_iff.mp empty
        rw [List.nil_append, onward, nothing, outcome_execAll_nil, ite_self]
      · rw [outcome_groupsFrom_sharing meaning fuel numbering number here, afterGroup_searchGroup]
    · simp only [here, false_or]
      rw [← onward]
      split
      · rfl
      · rw [groupsFrom_sharing_of_not_mem numbering number here]

/-- The states that stand in a try statement, by their contexts. -/
def Machine.contextGroups (machine : Machine) : List (Context × List Nat) :=
  groupBy (fun id => (machine.state id).context)
    (machine.layout.filter fun id => !(machine.state id).context.isEmpty)

/-- The groups of the switch that leads to the searches. -/
def searchCases : List SwitchCase :=
  machine.contextGroups.flatMap fun group => handlerCases machine numbering group.1 group.2

theorem handlerMethod_body :
    (handlerMethod machine numbering).body =
      (if (searchCases machine numbering).isEmpty then []
        else [.switch (.name stateName) (searchCases machine numbering)]) ++ giveUp := rfl

private theorem labeled_searchCases :
    ∀ group ∈ searchCases machine numbering, ∃ number, group.label = some (.int number) := by
  intro group member
  obtain ⟨shared, _, inside⟩ := List.mem_flatMap.mp member
  rw [handlerCases_eq] at inside
  split at inside
  · cases inside
  · exact isNumbered_sharing numbering _ shared.2 group inside

private theorem outcome_searchCases (same : numbering.layout = machine.layout) (fits : numbering.Fits)
    (point : Point) :
    outcome (execCases meaning fuel 0 (groupsFrom number (searchCases machine numbering))) point =
      outcome (execAll meaning fuel (handlerSearch machine numbering
        (machine.contextAt (numbering.denotes number)).reverse)) point := by
  have grouped (id : Nat) : id ∈ machine.contextGroups.flatMap (·.2) ↔
      id ∈ machine.layout ∧ (machine.state id).context ≠ [] := by
    rw [Machine.contextGroups, mem_groupBy, List.mem_filter]
    simp
  have denoted {id : Nat} (member : id ∈ machine.layout) (here : numbering.number (.state id) = number) :
      numbering.denotes number = .state id := by
    rw [← here, Numbering.denotes_of_mem fits (same ▸ member)]
  have keyed : ∀ group ∈ machine.contextGroups, ∀ id ∈ group.2, numbering.number (.state id) = number →
      group.1 = machine.contextAt (numbering.denotes number) := by
    intro group member id inside here
    have known := (grouped id).mp (List.mem_flatMap.mpr ⟨group, member, inside⟩)
    rw [denoted known.1 here]
    exact (key_of_mem_groupBy _ _ group member id inside).symm
  rw [searchCases, outcome_handlerCases meaning fuel machine numbering number _ keyed]
  split
  · rfl
  · next absent =>
    -- The state is in no try statement, so the search in its context does nothing.
    have empty : machine.contextAt (numbering.denotes number) = [] := by
      cases found : numbering.denotes number with
      | done => rfl
      | state id =>
        obtain ⟨member, here⟩ := Numbering.mem_of_denotes found
        refine Decidable.byContradiction fun guarded => absent ?_
        exact List.mem_map.mpr ⟨id, (grouped id).mpr ⟨same ▸ member, guarded⟩, here⟩
    rw [empty]
    simp [handlerSearch]

variable {meaning fuel machine numbering number} {point : Point} (literal : ReadsNumbers meaning)
  (selected : outcome (meaning.eval (.name stateName)) point = (.ok (.int number), point))

include literal selected

private theorem outcome_searchSwitch :
    outcome (execAll meaning fuel (if (searchCases machine numbering).isEmpty then []
        else [.switch (.name stateName) (searchCases machine numbering)])) point =
      outcome (inScope (execCases meaning fuel 0 (groupsFrom number (searchCases machine numbering)))) point := by
  have labeled := labeled_searchCases machine numbering
  generalize searchCases machine numbering = cases at labeled ⊢
  split
  · next empty =>
    rw [List.isEmpty_iff.mp empty]
    simp [groupsFrom]
  · have numbered : ∀ group ∈ cases, IsNumbered group := fun group member => Or.inr (labeled group member)
    have noDefault : cases.findIdx? (·.label.isNone) = none := by
      rw [List.findIdx?_eq_none_iff]
      intro group member
      obtain ⟨number, label⟩ := labeled group member
      rw [label]
      rfl
    rw [outcome_execAll_single, outcome_numberSwitch literal numbered selected, noDefault, Option.or_none,
      groupsFrom, List.dropWhile_eq_drop_findIdx_not]
    simp only [bne, Bool.not_not]
    cases found : cases.findIdx? fun group => caseNumber group == some number with
    | none =>
      rw [List.findIdx?_eq_none_iff_findIdx_eq.mp found, List.drop_length]
      simp
    | some place =>
      rw [(List.findIdx?_eq_some_iff_findIdx_eq.mp found).2, ← execCases_drop]

/-- Where an exception is handled is found by the search in the context of the current state. -/
theorem outcome_handlerMethod (same : numbering.layout = machine.layout) (fits : numbering.Fits) :
    outcome (execAll meaning fuel (handlerMethod machine numbering).body) point =
      andThen (outcome (inScope (execAll meaning fuel (handlerSearch machine numbering
          (machine.contextAt (numbering.denotes number)).reverse))) point)
        (outcome (execAll meaning fuel giveUp)) := by
  rw [handlerMethod_body, outcome_execAll_append, outcome_searchSwitch literal selected, outcome_inScope,
    outcome_searchCases meaning fuel machine numbering number same fits, ← outcome_inScope]

end

end JavaWeave.Generator
