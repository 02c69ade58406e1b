import JavaWeave.Names
import Mathlib.Data.List.Nodup
import Mathlib.Data.List.Perm.Subperm
import Mathlib.Data.Nat.Find
import Mathlib.Order.Bounds.Basic

/-! What a pool of names hands out over its life. Each name is unlike all that are in use by then, those given at the
start, those reserved and those handed out, also where a wanted name looks like one with a number. -/

namespace JavaWeave.Names.Pool

variable {pool : Pool} {base name : String} {used : List String}

theorem isTaken_iff : pool.isTaken name = true ↔ name ∈ pool.taken := List.contains_iff_mem

theorem numbered_injective (base : String) : Function.Injective (numbered base) := by
  intro m n same
  have texts : toString m = toString n := (String.append_right_inj _).mp same
  have digits : Nat.toDigits 10 m = Nat.toDigits 10 n := String.ofList_injective texts
  simpa using congrArg (Nat.ofDigitChars 10 · 0) digits

theorem numbered_ne (base : String) (n : Nat) : numbered base n ≠ base := by
  intro same
  have lengths := congrArg String.length same
  simp only [numbered, String.length_append] at lengths
  have dollar : "$".length = 1 := rfl
  omega

/-- The numbers, from one on, under which a base is not in use. -/
def freeNumbers (used : List String) (base : String) : Set Nat := {n | 1 ≤ n ∧ numbered base n ∉ used}

/-- A base that is in use leaves too few names for all numbers up to the count of those in use. -/
theorem exists_free (inUse : base ∈ used) : ∃ n ∈ freeNumbers used base, n ≤ used.length := by
  by_contra none
  have taken (n : Nat) (few : n < used.length) : numbered base (n + 1) ∈ used := by
    by_contra free
    exact none ⟨n + 1, ⟨Nat.le_add_left 1 n, free⟩, few⟩
  let candidates := base :: (List.range used.length).map fun n => numbered base (n + 1)
  have apart : candidates.Nodup := by
    refine List.nodup_cons.mpr ⟨fun member => ?_, ?_⟩
    · obtain ⟨n, _, same⟩ := List.mem_map.mp member
      exact numbered_ne base (n + 1) same
    · exact (List.nodup_map_iff fun _ _ same => Nat.succ.inj (numbered_injective base same)).mpr List.nodup_range
  have covered : candidates ⊆ used := by
    refine List.cons_subset.mpr ⟨inUse, fun name member => ?_⟩
    obtain ⟨n, inside, rfl⟩ := List.mem_map.mp member
    exact taken n (List.mem_range.mp inside)
  have few := (apart.subperm covered).length_le
  simp only [candidates, List.length_cons, List.length_map, List.length_range] at few
  omega

theorem exists_isLeast (inUse : base ∈ used) : ∃ n, IsLeast (freeNumbers used base) n := by
  classical
  have free : ∃ n, n ∈ freeNumbers used base := (exists_free inUse).imp fun _ => And.left
  exact ⟨Nat.find free, Nat.find_spec free, fun _ => Nat.find_min' free⟩

/-- The tries that precede the first free number are no more than the names in use. -/
theorem le_length_of_isLeast {n : Nat} (inUse : base ∈ used) (first : IsLeast (freeNumbers used base) n) :
    n ≤ used.length := by
  obtain ⟨m, free, few⟩ := exists_free inUse
  exact (first.2 free).trans few

theorem freshName_of_taken (taken : base ∈ pool.taken) :
    ∃ n, IsLeast (freeNumbers pool.taken base) n ∧ pool.freshName base = numbered base n := by
  obtain ⟨n, first⟩ := exists_isLeast taken
  refine ⟨n, first, ?_⟩
  have few := le_length_of_isLeast taken first
  obtain ⟨⟨positive, unused⟩, least⟩ := first
  -- candidates are counted from zero, numbers from one
  obtain ⟨k, rfl⟩ : ∃ k, n = k + 1 := ⟨n - 1, by omega⟩
  have found : (List.range (pool.taken.length + 1)).find? (fun k => !pool.isTaken (numbered base (k + 1))) = some k := by
    refine List.find?_range_eq_some.mpr ⟨by simpa [isTaken] using unused, List.mem_range.mpr (by omega), fun j earlier => ?_⟩
    by_contra missed
    have sooner : k + 1 ≤ j + 1 := least ⟨Nat.le_add_left 1 j, by simpa [isTaken] using missed⟩
    omega
  simp only [freshName, if_pos (isTaken_iff.mpr taken), List.find?_map, Function.comp_def, found, Option.map_some,
    Option.getD_some]

/-- What is handed out is the wanted name if that is unused, and otherwise that one with the first number for which it
is unused. -/
theorem freshName_cases (pool : Pool) (base : String) :
    (base ∉ pool.taken ∧ pool.freshName base = base) ∨
      (base ∈ pool.taken ∧ ∃ n, IsLeast (freeNumbers pool.taken base) n ∧ pool.freshName base = numbered base n) := by
  by_cases taken : base ∈ pool.taken
  · exact .inr ⟨taken, freshName_of_taken taken⟩
  · exact .inl ⟨taken, by rw [freshName, if_neg (mt isTaken_iff.mp taken)]⟩

theorem freshName_not_mem (pool : Pool) (base : String) : pool.freshName base ∉ pool.taken := by
  rcases freshName_cases pool base with ⟨free, same⟩ | ⟨_, n, first, same⟩
  · rwa [same]
  · rw [same]
    exact first.1.2

theorem mem_reserve_iff {other : String} : other ∈ (pool.reserve name).taken ↔ other ∈ pool.taken ∨ other = name := by
  rw [reserve]
  split
  next taken =>
    refine ⟨.inl, fun cases => cases.elim id fun same => ?_⟩
    rw [same]
    exact isTaken_iff.mp taken
  next => rw [List.mem_cons, or_comm]

theorem mem_reserve : name ∈ (pool.reserve name).taken := mem_reserve_iff.mpr (.inr rfl)

theorem subset_reserve : pool.taken ⊆ (pool.reserve name).taken := fun _ member => mem_reserve_iff.mpr (.inl member)

theorem mem_ofList {names : List String} : name ∈ (ofList names).taken ↔ name ∈ names := by
  suffices all : ∀ pool : Pool, name ∈ (names.foldl reserve pool).taken ↔ name ∈ pool.taken ∨ name ∈ names by
    exact (all {}).trans (by simp)
  induction names with
  | nil => simp
  | cons first rest ih =>
    intro pool
    rw [List.foldl_cons, ih, mem_reserve_iff, List.mem_cons, or_assoc]

/-- What a pool is asked. -/
inductive Request where
  | fresh (base : String)
  | reserve (name : String)
  | isTaken (name : String)
  deriving DecidableEq, Repr

/-- A request and its answer. -/
inductive Event where
  | handedOut (base name : String)
  | reserved (name : String)
  | told (name : String) (taken : Bool)
  deriving DecidableEq, Repr

namespace Event

def request : Event → Request
  | .handedOut base _ => .fresh base
  | .reserved name => .reserve name
  | .told name _ => .isTaken name

def handedOut? : Event → Option String
  | .handedOut _ name => some name
  | .reserved _ | .told .. => none

/-- The name that is in use from then on. -/
def taken? : Event → Option String
  | .handedOut _ name | .reserved name => some name
  | .told .. => none

/-- An answer that is right while some names are in use. The tries until a number is free are counted. -/
def Right (used : List String) : Event → Prop
  | .handedOut base name =>
    name ∉ used ∧ (name = base ↔ base ∉ used) ∧
      (base ∈ used → ∃ n ≤ used.length, IsLeast (freeNumbers used base) n ∧ name = numbered base n)
  | .reserved _ => True
  | .told name taken => taken = true ↔ name ∈ used

end Event

/-- The answer to a request and the pool afterwards. -/
def serve (pool : Pool) : Request → Event × Pool
  | .fresh base => (.handedOut base (pool.fresh base).1, (pool.fresh base).2)
  | .reserve name => (.reserved name, pool.reserve name)
  | .isTaken name => (.told name (pool.isTaken name), pool)

/-- The answers to requests that are made in turn. -/
def log (pool : Pool) : List Request → List Event
  | [] => []
  | request :: rest => (pool.serve request).1 :: log (pool.serve request).2 rest

/-- The names in use after some events, where some were in use before. -/
def inUse (names : List String) (events : List Event) : List String := names ++ events.filterMap Event.taken?

/-- A pool that knows the names in use and no others. -/
def Knows (pool : Pool) (used : List String) : Prop := ∀ name, name ∈ pool.taken ↔ name ∈ used

theorem Knows.freeNumbers_eq (knows : pool.Knows used) (base : String) :
    freeNumbers pool.taken base = freeNumbers used base :=
  Set.ext fun _ => and_congr_right fun _ => not_congr (knows _)

theorem Knows.reserve (knows : pool.Knows used) (name : String) : (pool.reserve name).Knows (used ++ [name]) := by
  intro other
  rw [mem_reserve_iff, knows, List.mem_append, List.mem_singleton]

/-- A request is answered rightly, and the pool knows the names in use afterwards. -/
theorem Knows.serve (knows : pool.Knows used) (request : Request) :
    (pool.serve request).1.Right used ∧
      (pool.serve request).2.Knows (used ++ (pool.serve request).1.taken?.toList) := by
  cases request with
  | fresh base =>
    refine ⟨⟨mt (knows _).mpr (pool.freshName_not_mem base), ?_⟩, knows.reserve _⟩
    rcases pool.freshName_cases base with ⟨free, same⟩ | ⟨taken, n, first, same⟩
    · rw [knows] at free
      exact ⟨iff_of_true same free, fun inUse => absurd inUse free⟩
    · rw [knows] at taken
      rw [knows.freeNumbers_eq] at first
      refine ⟨iff_of_false (fun wanted => numbered_ne base n (same.symm.trans wanted)) (not_not_intro taken), fun _ => ?_⟩
      exact ⟨n, le_length_of_isLeast taken first, first, same⟩
  | reserve name => exact ⟨trivial, knows.reserve name⟩
  | isTaken name => exact ⟨isTaken_iff.trans (knows name), (List.append_nil used).symm ▸ knows⟩

/-- Events each of which is right after those before it. -/
inductive Sound : List String → List Event → Prop
  | nil {used : List String} : Sound used []
  | cons {used : List String} {event : Event} {events : List Event} (right : event.Right used)
      (onward : Sound (used ++ event.taken?.toList) events) : Sound used (event :: events)

theorem Knows.sound (knows : pool.Knows used) (requests : List Request) : Sound used (pool.log requests) := by
  induction requests generalizing pool used with
  | nil => exact .nil
  | cons request rest ih =>
    obtain ⟨right, after⟩ := knows.serve request
    exact .cons right (ih after)

theorem Sound.right {earlier later : List Event} {event : Event} (sound : Sound used (earlier ++ event :: later)) :
    event.Right (inUse used earlier) := by
  induction earlier generalizing used with
  | nil =>
    obtain _ | ⟨right, _⟩ := sound
    simpa [inUse] using right
  | cons first rest ih =>
    obtain _ | ⟨_, onward⟩ := sound
    have right := ih onward
    cases taken : first.taken? <;> simpa [inUse, taken] using right

/-- Names that are handed out are apart from each other and from those that were in use before. -/
theorem Sound.apart {events : List Event} (sound : Sound used events) :
    (events.filterMap Event.handedOut?).Nodup ∧ ∀ name ∈ events.filterMap Event.handedOut?, name ∉ used := by
  induction sound with
  | nil => exact ⟨List.nodup_nil, nofun⟩
  | @cons used event events right _ ih =>
    obtain ⟨apart, unused⟩ := ih
    have unused' (name : String) (member : name ∈ events.filterMap Event.handedOut?) : name ∉ used :=
      fun inUse => unused name member (List.mem_append_left _ inUse)
    cases event with
    | handedOut base first =>
      have once : first ∉ events.filterMap Event.handedOut? := fun again => unused first again (by simp [Event.taken?])
      refine ⟨List.nodup_cons.mpr ⟨once, apart⟩, fun name member => ?_⟩
      rcases List.mem_cons.mp member with rfl | later
      · exact right.1
      · exact unused' name later
    | reserved | told => exact ⟨apart, unused'⟩

theorem map_request_log (pool : Pool) (requests : List Request) : (pool.log requests).map Event.request = requests := by
  induction requests generalizing pool with
  | nil => rfl
  | cons request rest ih =>
    rw [log, List.map_cons, ih]
    cases request <;> rfl

/-- Fresh names are fresh. A pool that starts with some names answers all requests; the names that it hands out are
pairwise distinct; and each answer is right for the names that are in use by then. -/
theorem log_fresh (names : List String) (requests : List Request) :
    ((ofList names).log requests).map Event.request = requests ∧
      (((ofList names).log requests).filterMap Event.handedOut?).Nodup ∧
      ∀ earlier event later, (ofList names).log requests = earlier ++ event :: later →
        event.Right (inUse names earlier) := by
  have sound : Sound names ((ofList names).log requests) := Knows.sound (fun _ => mem_ofList) requests
  exact ⟨map_request_log _ _, sound.apart.1, fun _ _ _ split => (split ▸ sound).right⟩

/-- A reserved name and a wanted one look like numbered ones, and both numbers are passed over. -/
theorem log_fresh_lookalikes :
    (ofList ["i"]).log [.reserve "i$1", .fresh "i$2", .isTaken "i$2", .fresh "i"] =
        [.reserved "i$1", .handedOut "i$2" "i$2", .told "i$2" true, .handedOut "i" "i$3"] ∧
      (Event.handedOut "i" "i$3").Right
        (inUse ["i"] [.reserved "i$1", .handedOut "i$2" "i$2", .told "i$2" true]) := by
  have answers : (ofList ["i"]).log [.reserve "i$1", .fresh "i$2", .isTaken "i$2", .fresh "i"] =
      [.reserved "i$1", .handedOut "i$2" "i$2", .told "i$2" true, .handedOut "i" "i$3"] := by
    decide +kernel
  exact ⟨answers, (log_fresh _ _).2.2 [.reserved "i$1", .handedOut "i$2" "i$2", .told "i$2" true] _ [] answers⟩

end JavaWeave.Names.Pool
