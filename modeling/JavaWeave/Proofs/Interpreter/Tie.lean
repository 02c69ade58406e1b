import JavaWeave.Proofs.Interpreter.Outcome

namespace JavaWeave.Interpreter

/-- How the ends of two runs correspond: both come to a result, or both end abruptly. -/
def Matched (unwound : Unwind → Unwind → Point → Point → Prop) (ended : α → β → Point → Point → Prop) :
    Except Unwind α × Point → Except Unwind β × Point → Prop
  | (.ok x, a), (.ok y, b) => ended x y a b
  | (.error u, a), (.error v, b) => unwound u v a b
  | _, _ => False

/-- Two steps correspond: from corresponding points they come to corresponding ends. -/
def Tied (before : Point → Point → Prop) (unwound : Unwind → Unwind → Point → Point → Prop)
    (ended : α → β → Point → Point → Prop) (first : Code α) (second : Code β) : Prop :=
  ∀ a b, before a b → Matched unwound ended (outcome first a) (outcome second b)

/-- Values that are like each other at corresponding points. -/
def Paired (tied : Point → Point → Prop) (like : α → β → Prop) (x : α) (y : β) (a b : Point) : Prop :=
  tied a b ∧ like x y

/-- A pass of a loop goes on on both sides, or ends the loop on both. -/
def Passing (tied : Point → Point → Prop) (ended : Flow → Flow → Point → Point → Prop) :
    Option Flow → Option Flow → Point → Point → Prop
  | none, none, a, b => tied a b
  | some f, some g, a, b => ended f g a b
  | _, _, _, _ => False

section

variable {before : Point → Point → Prop} {unwound : Unwind → Unwind → Point → Point → Prop}

namespace Matched

variable {ended : α → β → Point → Point → Prop}

theorem of_ok {x : α} {a : Point} {other : Except Unwind β × Point}
    (matched : Matched unwound ended (.ok x, a) other) : ∃ y b, other = (.ok y, b) ∧ ended x y a b := by
  rcases other with ⟨_ | y, b⟩
  · exact matched.elim
  · exact ⟨y, b, rfl, matched⟩

theorem of_error {u : Unwind} {a : Point} {other : Except Unwind β × Point}
    (matched : Matched unwound ended (.error u, a) other) : ∃ v b, other = (.error v, b) ∧ unwound u v a b := by
  rcases other with ⟨v | _, b⟩
  · exact ⟨v, b, rfl, matched⟩
  · exact matched.elim

theorem mono {unwound' : Unwind → Unwind → Point → Point → Prop} {ended' : α → β → Point → Point → Prop}
    {one : Except Unwind α × Point} {other : Except Unwind β × Point} (matched : Matched unwound ended one other)
    (onUnwound : ∀ u v a b, unwound u v a b → unwound' u v a b)
    (onEnded : ∀ x y a b, ended x y a b → ended' x y a b) : Matched unwound' ended' one other := by
  rcases one with ⟨u | x, a⟩
  · obtain ⟨v, b, rfl, related⟩ := matched.of_error
    exact onUnwound _ _ _ _ related
  · obtain ⟨y, b, rfl, related⟩ := matched.of_ok
    exact onEnded _ _ _ _ related

/-- What follows two ends corresponds when it does after every pair of corresponding results. -/
theorem proceed {ended' : γ → δ → Point → Point → Prop} {one : Except Unwind α × Point}
    {other : Except Unwind β × Point} {next : α → Point → Except Unwind γ × Point}
    {next' : β → Point → Except Unwind δ × Point} (matched : Matched unwound ended one other)
    (onward : ∀ x y a b, ended x y a b → Matched unwound ended' (next x a) (next' y b)) :
    Matched unwound ended' (proceed one next) (proceed other next') := by
  rcases one with ⟨u | x, a⟩
  · obtain ⟨v, b, rfl, related⟩ := matched.of_error
    exact related
  · obtain ⟨y, b, rfl, related⟩ := matched.of_ok
    exact onward _ _ _ _ related

end Matched

variable {ended : α → β → Point → Point → Prop} {first : Code α} {second : Code β}

theorem tied_pure {x : α} {y : β} (related : ∀ a b, before a b → ended x y a b) :
    Tied before unwound ended (pure x : Code α) (pure y : Code β) := by
  intro a b start
  exact related a b start

theorem tied_throw {u v : Unwind} (related : ∀ a b, before a b → unwound u v a b) :
    Tied before unwound ended (throw u : Code α) (throw v : Code β) := by
  intro a b start
  exact related a b start

theorem Tied.mono {before' : Point → Point → Prop} {unwound' : Unwind → Unwind → Point → Point → Prop}
    {ended' : α → β → Point → Point → Prop} (steps : Tied before unwound ended first second)
    (onBefore : ∀ a b, before' a b → before a b) (onUnwound : ∀ u v a b, unwound u v a b → unwound' u v a b)
    (onEnded : ∀ x y a b, ended x y a b → ended' x y a b) : Tied before' unwound' ended' first second := by
  intro a b start
  exact (steps a b (onBefore a b start)).mono onUnwound onEnded

theorem tied_bind {ended' : γ → δ → Point → Point → Prop} {next : α → Code γ} {next' : β → Code δ}
    (steps : Tied before unwound ended first second)
    (onward : ∀ x y, Tied (ended x y) unwound ended' (next x) (next' y)) :
    Tied before unwound ended' (first >>= next) (second >>= next') := by
  intro a b start
  simp only [outcome_bind]
  exact (steps a b start).proceed fun x y a b related => onward x y a b related

theorem tied_map {ended' : γ → δ → Point → Point → Prop} {f : α → γ} {g : β → δ}
    (steps : Tied before unwound ended first second)
    (onward : ∀ x y a b, ended x y a b → ended' (f x) (g y) a b) :
    Tied before unwound ended' (f <$> first) (g <$> second) := by
  intro a b start
  simp only [outcome_map]
  exact (steps a b start).proceed fun x y a b related => onward x y a b related

theorem tied_discard {after : Point → Point → Prop} (steps : Tied before unwound ended first second)
    (onward : ∀ x y a b, ended x y a b → after a b) :
    Tied before unwound (fun _ _ => after) (discard first) (discard second) := by
  intro a b start
  simp only [outcome_discard]
  exact (steps a b start).proceed fun x y a b related => onward x y a b related

/-- A scope of its own on both sides. -/
theorem tied_inScope {inside : Point → Point → Prop} {unwound' : Unwind → Unwind → Point → Point → Prop}
    {ended' : α → β → Point → Point → Prop} (steps : Tied inside unwound' ended' first second)
    (push : ∀ a b, before a b → inside a.push b.push)
    (popUnwound : ∀ u v a b, unwound' u v a b → unwound u v a.pop b.pop)
    (popEnded : ∀ x y a b, ended' x y a b → ended x y a.pop b.pop) :
    Tied before unwound ended (inScope first) (inScope second) := by
  intro a b start
  have matched := steps _ _ (push a b start)
  simp only [outcome_inScope]
  rcases leftEnd : outcome first a.push with ⟨u | x, a'⟩ <;> rw [leftEnd] at matched
  · obtain ⟨v, b', rightEnd, related⟩ := matched.of_error
    rw [rightEnd]
    exact popUnwound _ _ _ _ related
  · obtain ⟨y, b', rightEnd, related⟩ := matched.of_ok
    rw [rightEnd]
    exact popEnded _ _ _ _ related

end

section Loops

variable {before tied : Point → Point → Prop} {unwound : Unwind → Unwind → Point → Point → Prop}
  {ended : Flow → Flow → Point → Point → Prop}

/-- Loops that make corresponding passes. -/
theorem tied_repeatWhile {condition condition' : Code Bool} {pass pass' : Code (Option Flow)}
    (holds : Tied tied unwound (Paired tied Eq) condition condition')
    (passes : Tied tied unwound (Passing tied ended) pass pass')
    (stops : ∀ a b, tied a b → unwound .outOfFuel .outOfFuel a b)
    (ends : ∀ a b, tied a b → ended .normal .normal a b) (fuel : Nat) :
    Tied tied unwound ended (repeatWhile condition pass fuel) (repeatWhile condition' pass' fuel) := by
  induction fuel with
  | zero => exact tied_throw stops
  | succ fuel ih =>
    simp only [repeatWhile]
    refine tied_bind holds fun x y => ?_
    rintro a b ⟨related, rfl⟩
    cases x with
    | false => exact ends a b related
    | true =>
      refine tied_bind passes (fun more more' => ?_) a b related
      intro a b related
      match more, more', related with
      | none, none, related => exact ih a b related
      | some _, some _, related => exact related

/-- Loops that make corresponding passes for the same items. -/
theorem tied_repeatEach {pass pass' : Value → Code (Option Flow)} (items : List Value)
    (passes : ∀ item, Tied tied unwound (Passing tied ended) (pass item) (pass' item))
    (ends : ∀ a b, tied a b → ended .normal .normal a b) :
    Tied tied unwound ended (repeatEach pass items) (repeatEach pass' items) := by
  induction items with
  | nil => exact tied_pure ends
  | cons item rest ih =>
    simp only [repeatEach]
    refine tied_bind (passes item) fun more more' => ?_
    intro a b related
    match more, more', related with
    | none, none, related => exact ih a b related
    | some _, some _, related => exact related

variable {unwound' : Unwind → Unwind → Point → Point → Prop}

/-- Handlers of exceptions that correspond. -/
theorem tied_guarded {body body' : Code Flow} {handler handler' : Value → Code Flow}
    (steps : Tied before unwound' ended body body')
    (handles : ∀ thrown thrown',
      Tied (unwound' (.thrown thrown) (.thrown thrown')) unwound ended (handler thrown) (handler' thrown'))
    (sorts : ∀ u v a b, unwound' u v a b → ((∃ thrown, u = .thrown thrown) ↔ ∃ thrown, v = .thrown thrown))
    (passes : ∀ u v a b, unwound' u v a b → (∀ thrown, u ≠ .thrown thrown) → unwound u v a b) :
    Tied before unwound ended (guarded body handler) (guarded body' handler') := by
  intro a b start
  have matched := steps a b start
  simp only [outcome_guarded]
  rcases leftEnd : outcome body a with ⟨u | x, a'⟩ <;> rw [leftEnd] at matched
  · obtain ⟨v, b', rightEnd, related⟩ := matched.of_error
    rw [rightEnd]
    by_cases thrown : ∃ thrown, u = .thrown thrown
    · obtain ⟨thrown', rfl⟩ := (sorts u v a' b' related).mp thrown
      obtain ⟨thrown, rfl⟩ := thrown
      exact handles thrown thrown' a' b' related
    · have unthrown : ¬∃ thrown, v = .thrown thrown := fun other => thrown ((sorts u v a' b' related).mpr other)
      have onward := passes u v a' b' related fun other equal => thrown ⟨other, equal⟩
      cases u with
      | thrown thrown' => exact absurd ⟨thrown', rfl⟩ thrown
      | failed _ | outOfFuel =>
        cases v with
        | thrown thrown' => exact absurd ⟨thrown', rfl⟩ unthrown
        | failed _ | outOfFuel => exact onward
  · obtain ⟨y, b', rightEnd, related⟩ := matched.of_ok
    rw [rightEnd]
    exact related

/-- A finalizer that ends normally leaves either end of the body, and any other end of it is that of both. An end
rests on what the finalizer keeps. -/
theorem tied_ensuring {ι : Type} {kept : ι → Point → Point → Prop} {body body' finalizer finalizer' : Code Flow}
    (steps : Tied before unwound ended body body')
    (finishes : ∀ i, Tied (kept i) unwound (fun f g a b => ended f g a b ∧ (f = .normal → kept i a b)) finalizer
      finalizer')
    (rests : ∀ f g a b, ended f g a b → ∃ i, kept i a b ∧ ∀ a' b', kept i a' b' → ended f g a' b')
    (restsUnwound : ∀ u v a b, unwound u v a b → ∃ i, kept i a b ∧ ∀ a' b', kept i a' b' → unwound u v a' b')
    (ends : ∀ f g a b, ended f g a b → (f = .normal ↔ g = .normal))
    (stops : ∀ u v a b, unwound u v a b → (u = .outOfFuel ↔ v = .outOfFuel)) :
    Tied before unwound ended (ensuring body finalizer) (ensuring body' finalizer') := by
  have concludes (i : ι) (result result' : Except Unwind Flow)
      (fits : ∀ a b, kept i a b → Matched unwound ended (result, a) (result', b)) :
      Tied (kept i) unwound ended (finalizer >>= concluding result) (finalizer' >>= concluding result') := by
    refine tied_bind (finishes i) fun f g => ?_
    rintro a b ⟨related, still⟩
    by_cases normal : f = .normal
    · obtain rfl := (ends f g a b related).mp normal
      subst normal
      exact fits a b (still rfl)
    · have abrupt : g ≠ .normal := fun other => normal ((ends f g a b related).mpr other)
      cases f <;> cases g <;> first | exact absurd rfl normal | exact absurd rfl abrupt | exact related
  intro a b start
  have matched := steps a b start
  simp only [ensuring, outcome_bind, outcome_attempt, proceed_ok]
  rcases leftEnd : outcome body a with ⟨u | x, a'⟩ <;> rw [leftEnd] at matched
  · obtain ⟨v, b', rightEnd, related⟩ := matched.of_error
    rw [rightEnd]
    by_cases out : u = .outOfFuel
    · obtain rfl := (stops u v a' b' related).mp out
      subst out
      exact related
    · have running : v ≠ .outOfFuel := fun other => out ((stops u v a' b' related).mpr other)
      obtain ⟨i, here, again⟩ := restsUnwound u v a' b' related
      have onward := concludes i (.error u) (.error v) again a' b' here
      cases u <;> cases v <;> first | exact absurd rfl out | exact absurd rfl running | exact onward
  · obtain ⟨y, b', rightEnd, related⟩ := matched.of_ok
    rw [rightEnd]
    obtain ⟨i, here, again⟩ := rests x y a' b' related
    exact concludes i (.ok x) (.ok y) again a' b' here

end Loops

end JavaWeave.Interpreter
