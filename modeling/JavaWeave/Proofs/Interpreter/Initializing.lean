import JavaWeave.Proofs.Interpreter.Answering
import JavaWeave.Proofs.Interpreter.Constants
import JavaWeave.Proofs.Interpreter.Making

/-! Classes are initialized at most once. What is known of a class that was begun stays as it is, whatever else is run,
and its constants are made one by one, in the order in which they are declared. -/

namespace JavaWeave.Interpreter

open Syntax

/-- A run during which one class may be initialized: what happens to that class is left open. -/
def Begins (id : ClassId) (before after : World) : Prop :=
  before.Orderly →
    after.Orderly ∧ ∀ other, other ≠ id → before.stage other ≠ .pending → before.Rests other after

theorem Advances.begins {id : ClassId} {before after : World} (advances : Advances before after) :
    Begins id before after := fun orderly => ⟨(advances orderly).1, fun other _ => (advances orderly).2 other⟩

/-- For a class that was not begun before, nothing is left open. -/
theorem Begins.advances {id : ClassId} {before after : World} (begins : Begins id before after)
    (pending : before.stage id = .pending) : Advances before after := by
  intro orderly
  obtain ⟨final, rests⟩ := begins orderly
  refine ⟨final, fun other begun => rests other ?_ begun⟩
  rintro rfl
  exact begun pending

instance (id : ClassId) : Tolerant (Begins id) where
  refl world := Advances.begins (Tolerant.refl world)
  trans first second orderly := by
    obtain ⟨between, rests⟩ := first orderly
    obtain ⟨final, rests'⟩ := second between
    refine ⟨final, fun other apart begun => (rests other apart begun).trans (rests' other apart ?_)⟩
    rwa [(rests other apart begun).stage]
  grown world object plain := Advances.begins (Tolerant.grown world object plain)
  stored there new same := Advances.begins (Tolerant.stored there new same)
  printed world text := Advances.begins (Tolerant.printed world text)
  assigned world owner name value := Advances.begins (Tolerant.assigned world owner name value)
  entered world decl outer base := Advances.begins (Tolerant.entered world decl outer base)

namespace World

variable {world : World} {id : ClassId}

theorem stage_withState_self (begun : world.stage id ≠ .pending) (change : ClassState → ClassState) :
    (world.withState id change).stage id = (change (world.classes.get id).state).stage := by
  rw [stage, state_withState, if_pos ⟨rfl, there_of_begun begun⟩]

theorem constants_withState_self (begun : world.stage id ≠ .pending) (change : ClassState → ClassState) :
    (world.withState id change).constants id = (change (world.classes.get id).state).constants := by
  rw [constants, state_withState, if_pos ⟨rfl, there_of_begun begun⟩]

theorem rests_withState {other : ClassId} (apart : other ≠ id) (change : ClassState → ClassState) :
    world.Rests other (world.withState id change) where
  stage := by rw [stage, state_withState, if_neg fun both => apart both.1]; rfl
  constants := by rw [constants, state_withState, if_neg fun both => apart both.1]; rfl
  made := made_withState id other change
  declared := declared_withState id other change

end World

theorem begins_setStage {id : ClassId} {world : World} {stage : Stage} (begun : stage ≠ .pending)
    (complete : stage = .done → world.Complete id) : Keeps (Begins id) (setStage id stage) world := by
  intro orderly
  let change : ClassState → ClassState := fun state => { state with stage }
  have others (other : ClassId) (apart : other ≠ id) := world.rests_withState apart change
  have declared : (world.withState id change).declared id = world.declared id := World.declared_withState id id change
  have listed : (world.withState id change).constants id = world.constants id := by
    simp only [World.constants, World.state_withState]
    split <;> rfl
  have staged : (world.withState id change).stage id =
      if id.index < world.classes.infos.size then stage else world.stage id := by
    simp only [World.stage, World.state_withState, true_and]
    split <;> rfl
  refine ⟨orderly.update others ?_, fun other apart _ => others other apart⟩
  refine ⟨declared ▸ (orderly id).made, listed ▸ (orderly id).listed, fun pending => ?_, fun done => ?_⟩
  · change (world.withState id change).stage id = .pending at pending
    rw [staged] at pending
    split at pending
    · exact absurd pending begun
    · exact (orderly id).untouched pending
  · change (world.withState id change).stage id = .done at done
    rw [staged] at done
    have completed : world.Complete id := by
      split at done
      · exact complete done
      · exact (orderly id).complete done
    exact ⟨declared ▸ completed.made, listed ▸ completed.listed⟩

theorem World.OrderlyAt.undone_of_next {world : World} {id : ClassId} {constant : String × Int32}
    (orderly : world.OrderlyAt id) (next : (world.declared id)[(world.made id).length]? = some constant) :
    world.stage id ≠ .done := by
  intro done
  rw [← (orderly.complete done).made] at next
  simp at next

/-- The next constant of a class comes behind those that were made for it. -/
theorem World.Orderly.grown_next {world : World} {id : ClassId} {object : Object} {constant : String × Int32}
    (orderly : world.Orderly) (begun : world.stage id ≠ .pending)
    (next : (world.declared id)[(world.made id).length]? = some constant)
    (own : object.identity = some (id, some constant)) :
    (world.grown object).Orderly ∧ (∀ other, other ≠ id → world.Rests other (world.grown object)) ∧
      (world.grown object).made id = world.made id ++ [(world.frontier, constant)] := by
  have made : (world.grown object).made id = world.made id ++ [(world.frontier, constant)] := by
    simp [made_grown, own, constantOf?]
  have others (other : ClassId) (apart : other ≠ id) : world.Rests other (world.grown object) :=
    ⟨rfl, rfl, by simp [made_grown, own, constantOf?, Ne.symm apart], rfl⟩
  refine ⟨orderly.update others ⟨?_, ?_, fun pending => absurd pending begun, fun done => ?_⟩, others, made⟩
  · obtain ⟨rest, whole⟩ := (orderly id).made
    have length : (world.made id).length = ((world.made id).map (·.2)).length := by simp
    have declared : (world.grown object).declared id = world.declared id := rfl
    rw [← whole, length, List.getElem?_append_right (Nat.le_refl _), Nat.sub_self] at next
    obtain ⟨later, rfl⟩ : ∃ later, rest = constant :: later := by
      cases rest with
      | nil => simp at next
      | cons first later => exact ⟨later, by simpa using next⟩
    exact ⟨later, by rw [made, declared, ← whole]; simp⟩
  · rw [made, List.map_append]
    exact (orderly id).listed.trans (List.prefix_append ..)
  · exact absurd done ((orderly id).undone_of_next next)

/-- What becomes of a request for the next constant of a class. -/
structure Constructs (id : ClassId) (constant : String × Int32) (before : World)
    (ending : Except Unwind Value × World) : Prop where
  begins : Begins id before ending.2
  stage : ending.2.stage id = before.stage id
  constants : ending.2.constants id = before.constants id
  declared : ending.2.declared id = before.declared id
  made : ∀ value, ending.1 = .ok value → ∃ address, value = .ref address ∧
    ending.2.made id = before.made id ++ [(address, constant)]

/-- Whatever is asked for, classes are initialized at most once. -/
structure Performer.Initializes (perform : Performer) : Prop where
  ordinary : perform.Keeps Advances
  constant : ∀ id arguments creation constant world, creation.constant = some constant → world.Orderly →
    world.stage id ≠ .pending → (world.declared id)[(world.made id).length]? = some constant →
    Constructs id constant world (perform (.construct id arguments creation) world)

section

variable {perform : Performer} (initializes : perform.Initializes)

/-- Steps before the constant is made. -/
theorem Constructs.bind {id : ClassId} {constant : String × Int32} {world : World} {action : Run α}
    {rest : α → Run Value} (orderly : world.Orderly) (begun : world.stage id ≠ .pending)
    (keeps : Keeps Advances action world)
    (onward : ∀ value after, after.Orderly → world.Rests id after → Constructs id constant after (rest value after)) :
    Constructs id constant world ((action >>= rest) world) := by
  unfold Keeps at keeps
  rw [run_bind]
  generalize action world = ending at keeps
  obtain ⟨unwind | value, after⟩ := ending
  · have rests := (keeps orderly).2 id begun
    exact ⟨keeps.begins, rests.stage, rests.constants, rests.declared, by simp⟩
  · obtain ⟨between, rests⟩ := keeps orderly
    have last := onward value after between (rests id begun)
    exact {
      begins := Tolerant.trans keeps.begins last.begins
      stage := last.stage.trans (rests id begun).stage
      constants := last.constants.trans (rests id begun).constants
      declared := last.declared.trans (rests id begun).declared
      made := fun value same => (rests id begun).made ▸ last.made value same }

include initializes

theorem constructs_allocate {id : ClassId} {arguments : List Value} {object : Object} {constant : String × Int32}
    {world : World} (orderly : world.Orderly) (begun : world.stage id ≠ .pending)
    (next : (world.declared id)[(world.made id).length]? = some constant)
    (own : object.identity = some (id, some constant)) :
    Constructs id constant world ((do
      let address ← allocateAt object
      perform (.runConstructor id address arguments)
      return .ref address : Run Value) world) := by
  obtain ⟨between, others, made⟩ := orderly.grown_next begun next own
  have allocated : Begins id world (world.grown object) := fun _ => ⟨between, fun other apart _ => others other apart⟩
  have run := initializes.ordinary (.runConstructor id world.frontier arguments) trivial (world.grown object)
  unfold Keeps at run
  simp only [run_bind, run_allocateAt]
  generalize perform (.runConstructor id world.frontier arguments) (world.grown object) = ending at run ⊢
  have rests := (run between).2 id begun
  obtain ⟨unwind | value, after⟩ := ending
  · exact ⟨Tolerant.trans allocated run.begins, rests.stage, rests.constants, rests.declared, nofun⟩
  · refine ⟨Tolerant.trans allocated run.begins, rests.stage, rests.constants, rests.declared, fun value same => ?_⟩
    exact ⟨world.frontier, (Except.ok.inj same).symm, rests.made.trans made⟩

theorem constructs_construct {id : ClassId} {arguments : List Value} {creation : Creation}
    {constant : String × Int32} {world : World} (tagged : creation.constant = some constant)
    (orderly : world.Orderly) (begun : world.stage id ≠ .pending)
    (next : (world.declared id)[(world.made id).length]? = some constant) :
    Constructs id constant world (construct perform id arguments creation world) := by
  unfold construct
  refine .bind orderly begun (keeps_classInfo id) fun info after orderly same => ?_
  dsimp only
  rw [← same.stage] at begun
  rw [← same.declared, ← same.made] at next
  split
  · exact ⟨Tolerant.refl after, rfl, rfl, rfl, nofun⟩
  · refine .bind orderly begun (initializes.ordinary (.prepare id) trivial after) fun _ ready orderly same => ?_
    rw [← same.stage] at begun
    rw [← same.declared, ← same.made] at next
    refine .bind orderly begun keeps_classes fun classes ready orderly same => ?_
    rw [← same.stage] at begun
    rw [← same.declared, ← same.made] at next
    exact constructs_allocate initializes orderly begun next (by rw [← tagged]; rfl)

end

/-- What is left to be made of the constants of a class, all others of which are listed. -/
structure World.Lacks (world : World) (id : ClassId) (rest : List (String × Int32)) : Prop where
  orderly : world.Orderly
  begun : world.stage id ≠ .pending
  declared : world.declared id = (world.made id).map (·.2) ++ rest
  listed : world.constants id = (world.made id).map fun entry => .ref entry.1

namespace World.Lacks

variable {world after : World} {id : ClassId} {constant : String × Int32} {rest : List (String × Int32)}

theorem next (lacks : world.Lacks id (constant :: rest)) :
    (world.declared id)[(world.made id).length]? = some constant := by
  rw [lacks.declared, List.getElem?_append_right (by simp)]
  simp

theorem keep (lacks : world.Lacks id rest) (advances : Advances world after) : after.Lacks id rest := by
  obtain ⟨orderly, rests⟩ := advances lacks.orderly
  obtain ⟨stage, constants, made, declared⟩ := rests id lacks.begun
  exact ⟨orderly, stage ▸ lacks.begun, by rw [declared, made, lacks.declared], by rw [constants, made, lacks.listed]⟩

/-- A constant is made, and then it is listed. -/
theorem add (lacks : world.Lacks id (constant :: rest)) {ending : Except Unwind Value × World} {value : Value}
    (constructs : Constructs id constant world ending) (succeeds : ending.1 = .ok value) (name : String) :
    Keeps (Begins id) (addConstant id name value) ending.2 ∧
      (addConstant id name value ending.2).2.Lacks id rest := by
  obtain ⟨between, -⟩ := constructs.begins lacks.orderly
  obtain ⟨address, rfl, made⟩ := constructs.made value succeeds
  have stays := constructs.stage
  have listed := constructs.constants
  have declares := constructs.declared
  generalize ending.2 = after at between made stays listed declares ⊢
  let change : ClassState → ClassState := fun state =>
    { state with statics := state.statics.put name (.ref address), constants := state.constants ++ [.ref address] }
  have begun : after.stage id ≠ .pending := stays ▸ lacks.begun
  have listed : (after.withState id change).constants id = (after.made id).map fun entry => .ref entry.1 := by
    rw [World.constants_withState_self begun, made, List.map_append, ← lacks.listed, ← listed]
    rfl
  have undone : after.stage id ≠ .done := stays ▸ (lacks.orderly id).undone_of_next lacks.next
  have stage : (after.withState id change).stage id = after.stage id := World.stage_withState_self begun change
  have whole : (after.withState id change).declared id = (after.made id).map (·.2) ++ rest := by
    rw [World.declared_withState, declares, made, lacks.declared]
    simp
  have others (other : ClassId) (apart : other ≠ id) := after.rests_withState apart change
  have orderly : (after.withState id change).Orderly := by
    refine between.update others ⟨?_, ?_, fun pending => ?_, fun done => ?_⟩
    · exact ⟨rest, whole.symm⟩
    · rw [listed]
      exact List.prefix_rfl
    · exact absurd (stage.symm.trans pending) begun
    · exact absurd (stage.symm.trans done) undone
  exact ⟨fun _ => ⟨orderly, fun other apart _ => others other apart⟩, orderly, stage.symm ▸ begun, whole, listed⟩

theorem complete (lacks : world.Lacks id []) : world.Complete id :=
  ⟨by rw [lacks.declared, List.append_nil], lacks.listed⟩

end World.Lacks

/-- A class that is just begun lacks all its constants. -/
theorem World.Orderly.lacks_started {world : World} {id : ClassId} (orderly : world.Orderly)
    (pending : world.stage id = .pending) (there : id.index < world.classes.infos.size) :
    (world.withState id fun state => { state with stage := .running }).Lacks id (world.declared id) := by
  let change : ClassState → ClassState := fun state => { state with stage := .running }
  have state : ((world.withState id change).classes.get id).state = change (world.classes.get id).state := by
    rw [World.state_withState, if_pos ⟨rfl, there⟩]
  have unmade : (world.withState id change).made id = [] := (orderly id).untouched pending
  have starts : Keeps (Begins id) (setStage id .running) world := begins_setStage (by decide) fun done => by cases done
  refine ⟨(starts orderly).1, ?_, ?_, ?_⟩
  · rw [World.stage, state]
    exact (by decide : Stage.running ≠ .pending)
  · rw [World.declared_withState, unmade]
    rfl
  · rw [World.constants, state, unmade]
    exact (orderly id).constants_of_pending pending

theorem Moves.begins {skipped : Nat} {id : ClassId} {code : Code α} {point : Point}
    (moves : Moves Advances skipped code point) : Moves (Begins id) skipped code point :=
  ⟨moves.frame, moves.world.begins⟩

/-- Steps of a body that move, and lead to a world of some kind unless they end abruptly. -/
structure Leads (kept : World → World → Prop) (code : Code α) (point : Point) (goal : World → Prop) : Prop where
  moves : Moves kept 1 code point
  reaches : ∀ value after, outcome code point = (.ok value, after) → goal after.2

theorem Leads.bind {kept : World → World → Prop} [Tolerant kept] {code : Code α} {rest : α → Code β} {point : Point}
    {goal : World → Prop} (first : Moves kept 1 code point)
    (next : ∀ value after, outcome code point = (.ok value, after) → Leads kept (rest value) after goal) :
    Leads kept (code >>= rest) point goal where
  moves := first.bindAfter fun value after ended => (next value after ended).moves
  reaches value after ended := by
    rw [outcome_bind] at ended
    generalize reached : outcome code point = ending at ended
    obtain ⟨unwind | first, between⟩ := ending
    · cases ended
    · exact (next first between reached).reaches value after ended

section

variable {perform : Performer} (initializes : perform.Initializes)

include initializes

/-- The constants of a class are made one by one, in their order. -/
theorem leads_makeConstants {id : ClassId} {constants : List EnumConstant} {point : Point}
    (lacks : point.2.Lacks id (constants.zipIdx.map fun (constant, ordinal) => (constant.name, Int32.ofNat ordinal))) :
    Leads (Begins id) (makeConstants perform id constants) point (·.Lacks id []) := by
  unfold makeConstants
  generalize constants.zipIdx = entries at lacks
  induction entries generalizing point with
  | nil =>
    refine ⟨.pure (), fun value after ended => ?_⟩
    cases ended
    exact lacks
  | cons entry rest inductionHypothesis =>
    obtain ⟨constant, ordinal⟩ := entry
    have evaluates : Moves Advances 1 (evalAll perform constant.arguments) point :=
      moves_evalAll initializes.ordinary 1 point _
    simp only [List.forM_eq_forM, List.forM_cons, bind_assoc] at inductionHypothesis ⊢
    refine .bind evaluates.begins fun arguments ready ended => ?_
    have lacks := lacks.keep (evaluates.reached ended)
    have constructs := initializes.constant id arguments { constant := some (constant.name, Int32.ofNat ordinal) } _ _
      rfl lacks.orderly lacks.begun lacks.next
    have keeps : Keeps (Begins id) (perform (.construct id arguments _)) ready.2 := constructs.begins
    refine .bind (.lift keeps) fun value made ended => ?_
    rw [outcome_liftM] at ended
    obtain ⟨succeeds, rfl⟩ := Prod.mk.inj ended
    obtain ⟨adds, lacks⟩ := lacks.add constructs succeeds constant.name
    refine .bind (.lift adds) fun _ added ended => ?_
    rw [outcome_liftM] at ended
    obtain ⟨-, rfl⟩ := Prod.mk.inj ended
    exact inductionHypothesis lacks

/-- When the static part of a class is initialized, all its constants are made. -/
theorem leads_initialize (fuel : Nat) {id : ClassId} {decl : TypeDecl} {point : Point}
    (lacks : point.2.Lacks id
      (decl.constants.zipIdx.map fun (constant, ordinal) => (constant.name, Int32.ofNat ordinal))) :
    Leads (Begins id) (do
      makeConstants perform id decl.constants
      evalFields perform (staticFields decl) (setStatic id)
      runInitializers perform fuel (decl.initializers.filter (·.isStatic))) point (·.Lacks id []) := by
  have makes := leads_makeConstants initializes lacks
  refine .bind makes.moves fun _ made ended => ?_
  have lacks := makes.reaches _ _ ended
  have evaluates : Moves Advances 1 (evalFields perform (staticFields decl) (setStatic id)) made :=
    moves_evalFields initializes.ordinary _ fun _ _ _ => keeps_setStatic ..
  refine .bind evaluates.begins fun _ evaluated ended => ?_
  have lacks := lacks.keep (evaluates.reached ended)
  have runs : Moves Advances 1 (runInitializers perform fuel (decl.initializers.filter (·.isStatic))) evaluated :=
    moves_runInitializers initializes.ordinary fuel _
  exact ⟨runs.begins, fun _ after ended => lacks.keep (runs.reached ended)⟩

omit initializes in
/-- A class that is not there has nothing to initialize. -/
theorem prepare_absent (fuel : Nat) {id : ClassId} {world : World}
    (absent : ¬ id.index < world.classes.infos.size) :
    prepare perform fuel id world = (.ok (), (world.withState id fun state => { state with stage := .running
      }).withState id fun state => { state with stage := .done }) := by
  simp only [prepare, run_bind, run_classInfo, ClassTable.get_absent absent]
  rfl

theorem begins_prepare (fuel : Nat) {id : ClassId} {world : World} (orderly : world.Orderly)
    (pending : world.stage id = .pending) (there : id.index < world.classes.infos.size) :
    Keeps (Begins id) (prepare perform fuel id) world := by
  unfold prepare
  refine (keeps_classInfo id).bind fun info after read => ?_
  rw [run_classInfo] at read
  cases read
  split
  · exact .pure _
  · extract_lets fields finish
    have finished (value : PUnit) (ready : World) (lacks : ready.Lacks id (world.declared id)) :
        Keeps (Begins id) (finish value) ready := by
      have assigns : Keeps Advances (fields.forM fun field => setStatic id field.name (.zero field.type)) ready :=
        .forM fun field _ => keeps_setStatic ..
      refine Keeps.bind assigns.begins fun _ assigned ended => ?_
      have body : Leads (Begins id) _ (({ type := id }, assigned) : Point) (·.Lacks id []) :=
        leads_initialize initializes fuel (lacks.keep (assigns.reached ended))
      refine (keeps_within body.moves).bind fun value after ended => begins_setStage nofun fun _ => ?_
      rw [within_eq] at ended
      obtain ⟨succeeds, rfl⟩ := Prod.mk.inj ended
      exact (body.reaches value _ (Prod.ext succeeds rfl)).complete
    refine Keeps.bind (begins_setStage nofun nofun) fun _ started ended => ?_
    cases ended
    have lacks := orderly.lacks_started pending there
    split
    · next above _ =>
      have prepares := initializes.ordinary (.prepare above) trivial
      refine Keeps.bind (prepares _).begins fun value ready ended => finished value ready ?_
      exact lacks.keep ((prepares _).reached ended)
    · exact finished () _ lacks

omit initializes in
theorem advances_absent {id : ClassId} {world : World} (absent : ¬ id.index < world.classes.infos.size)
    (change : ClassState → ClassState) : Advances world (world.withState id change) := by
  have state (other : ClassId) : ((world.withState id change).classes.get other).state =
      (world.classes.get other).state := by
    rw [World.state_withState, if_neg fun both => absent both.2]
  exact advances_of_rests fun other => ⟨congrArg ClassState.stage (state other),
    congrArg ClassState.constants (state other), rfl, World.declared_withState id other change⟩

theorem advances_prepare (fuel : Nat) (id : ClassId) (world : World) :
    Keeps Advances (prepare perform fuel id) world := by
  by_cases there : id.index < world.classes.infos.size
  · by_cases pending : world.stage id = .pending
    · exact fun orderly => (begins_prepare initializes fuel orderly pending there).advances pending orderly
    · rw [Keeps, prepare_again perform fuel pending]
      exact Tolerant.refl world
  · rw [Keeps, prepare_absent fuel there]
    refine Tolerant.trans (advances_absent there _) (advances_absent ?_ _)
    simpa [World.withState, ClassTable.modifyState] using there

theorem advances_construct (id : ClassId) (arguments : List Value) {creation : Creation}
    (plain : creation.constant = none) (world : World) :
    Keeps Advances (construct perform id arguments creation) world := by
  unfold construct
  refine (keeps_classInfo id).bind fun info after _ => ?_
  extract_lets make
  have made (value : PUnit) (world : World) : Keeps Advances (make value) world := by
    refine (initializes.ordinary (.prepare id) trivial world).bind fun _ ready _ => ?_
    refine keeps_classes.bind fun _ ready _ => ?_
    refine Keeps.bind (advances_grown ready _ fun other => ?_) fun address after _ => ?_
    · simp [Object.identity, World.constantOf?, plain]
    · exact (initializes.ordinary (.runConstructor id address arguments) trivial after).bind fun _ _ _ => .pure _
  split
  · exact (keeps_fail _).bind fun value after _ => made value after
  · exact made () after

theorem initializes_answer (fuel : Nat) : (answer perform fuel).Initializes where
  ordinary request ordinary world := by
    cases request with
    | invoke owner method self arguments =>
      refine keeps_invoke initializes.ordinary (fun before after inside => ?_) fuel owner method self arguments
      exact Tolerant.trans (advances_atDepth before _) (Tolerant.trans inside (advances_atDepth after _))
    | construct id arguments creation => exact advances_construct initializes id arguments ordinary world
    | runConstructor id self arguments => exact keeps_runConstructor initializes.ordinary fuel id self arguments
    | prepare id => exact advances_prepare initializes fuel id world
    | text value => exact keeps_textOf initializes.ordinary value
  constant _ _ _ _ _ tagged orderly begun next := constructs_construct initializes tagged orderly begun next

end

/-- However much fuel there is, what is asked for initializes no class twice. -/
theorem initializes_performer (fuel : Nat) : (performer fuel).Initializes := by
  induction fuel with
  | zero => exact ⟨fun request _ world => .throw _, fun _ _ _ _ _ _ _ _ _ => ⟨Tolerant.refl _, rfl, rfl, rfl, nofun⟩⟩
  | succ fuel inductionHypothesis => exact initializes_answer inductionHypothesis fuel

/-- What a program is asked for from outside. -/
inductive Inquiry where
  | instantiate (type : String) (arguments : List Value)
  | callStatic (type method : String) (arguments : List Value)
  | callMethod (receiver : Value) (method : String) (arguments : List Value)
  | readField (target : Value) (name : String)
  | readStatic (type name : String)
  | showText (value : Value)
  | drain (source : Value) (limit : Nat)
  | takeOutput

/-- The world when an inquiry is answered, which may fail. -/
def Inquiry.after (fuel : Nat) (world : World) : Inquiry → World
  | .instantiate type arguments => (Interpreter.instantiate fuel type arguments world).2
  | .callStatic type method arguments => (Interpreter.callStatic fuel type method arguments world).2
  | .callMethod receiver method arguments => (Interpreter.callMethod fuel receiver method arguments world).2
  | .readField target name => (Interpreter.readField fuel target name world).2
  | .readStatic type name => (Interpreter.readStatic fuel type name world).2
  | .showText value => (Interpreter.showText fuel value world).2
  | .drain source limit => (Interpreter.drain fuel source limit world).2
  | .takeOutput => (Interpreter.takeOutput world).2

/-- The world of a program after inquiries, each of which is given some fuel. -/
def World.inquired (world : World) (inquiries : List (Nat × Inquiry)) : World :=
  inquiries.foldl (fun world (fuel, inquiry) => inquiry.after fuel world) world

section

variable {kept : World → World → Prop} [Tolerant kept] {world : World}

omit [Tolerant kept] in
theorem settled {action : Run α} (keeps : Keeps kept action world) : kept world (settle action world).2 := keeps

theorem keeps_classNamed (name : String) : Keeps kept (classNamed name) world := by
  refine keeps_classes.bind fun classes after _ => ?_
  split
  · exact .pure _
  · exact keeps_fail _

variable {fuel : Nat} (answers : (performer fuel).Keeps kept)

include answers

theorem keeps_take (iterator : Value) (limit : Nat) : Keeps kept (take fuel iterator limit) world := by
  induction limit generalizing world with
  | zero => exact .pure _
  | succ limit inductionHypothesis =>
    unfold take
    refine (keeps_dispatch answers ..).bind fun more after _ => (keeps_needed ..).bind fun goesOn after _ => ?_
    split
    · exact (keeps_dispatch answers ..).bind fun item after _ => inductionHypothesis.bind fun _ _ _ => .pure _
    · exact .pure _

theorem keeps_inquiry (inquiry : Inquiry) (outputs : ∀ world : World, kept world { world with output := "" }) :
    kept world (inquiry.after fuel world) := by
  cases inquiry with
  | instantiate type arguments =>
    exact settled ((keeps_classNamed type).bind fun id after _ => answers (.construct id arguments {}) rfl after)
  | callStatic type method arguments =>
    exact settled ((keeps_classNamed type).bind fun id after _ => keeps_invokeStatic answers ..)
  | callMethod receiver method arguments => exact settled (keeps_dispatch answers ..)
  | readField target name => exact settled (keeps_fieldOf answers ..)
  | readStatic type name =>
    exact settled ((keeps_classNamed type).bind fun id after _ => keeps_staticField answers ..)
  | showText value => exact settled (answers (.text value) trivial world)
  | drain source limit =>
    refine settled (keeps_heap.bind fun heap after _ => ?_)
    split
    · exact .pure _
    · refine keeps_get.bind fun _ after _ => ?_
      split
      · exact (Keeps.pure source).bind fun iterator after _ => keeps_take answers iterator limit
      · exact (keeps_dispatch answers ..).bind fun iterator after _ => keeps_take answers iterator limit
  | takeOutput => exact outputs world

end

theorem World.orderly_load (units : List CompilationUnit) : (load units).Orderly := by
  intro id
  have fresh : ((load units).classes.get id).state = {} := (ClassTable.extends_load units).state id
  exact orderlyAt_of_pending (congrArg ClassState.stage fresh) rfl (congrArg ClassState.constants fresh)

theorem advances_inquired (world : World) (inquiries : List (Nat × Inquiry)) :
    Advances world (world.inquired inquiries) := by
  induction inquiries generalizing world with
  | nil => exact Tolerant.refl world
  | cons first rest inductionHypothesis =>
    refine Tolerant.trans ?_ (inductionHypothesis _)
    refine keeps_inquiry (initializes_performer first.1).ordinary first.2 fun world => ?_
    exact advances_of_rests fun _ => ⟨rfl, rfl, rfl, rfl⟩

/-- Whatever a program is asked for, the constants of each class are made in the order in which they are declared, each
once, and the class lists the first of them; when it is done, it lists all. Once a class was begun, it is not begun
again, and whatever the program is asked for later, nothing of that changes any more. -/
theorem initialized_once (units : List CompilationUnit) (inquiries later : List (Nat × Inquiry)) (id : ClassId) :
    let world := (World.load units).inquired inquiries
    (world.made id).map (·.2) <+: world.declared id ∧
      world.constants id <+: (world.made id).map (fun entry => .ref entry.1) ∧
      (world.stage id = .done → world.Complete id) ∧
      (world.stage id ≠ .pending → world.Rests id (world.inquired later) ∧
        ∀ perform fuel, prepare perform fuel id world = (.ok (), world)) := by
  intro world
  have orderly : world.Orderly := (advances_inquired _ inquiries (World.orderly_load units)).1
  obtain ⟨made, listed, -, complete⟩ := orderly id
  refine ⟨made, listed, complete, fun begun => ⟨?_, ?_⟩⟩
  · exact (advances_inquired world later orderly).2 id begun
  · exact fun perform fuel => prepare_again perform fuel begun

end JavaWeave.Interpreter
