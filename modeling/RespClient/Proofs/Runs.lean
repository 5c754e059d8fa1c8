import RespClient.Proofs.Exchanges

set_option autoImplicit false

namespace RespClient.Session
variable {σ κ : Type} {link : Link σ κ} {keeps : Session σ κ → Prop}

def advance (link : Link σ κ) : Session σ κ → List Turn → Session σ κ
  | session, [] => session
  | session, turn :: turns => advance link (session.take link turn).session turns

theorem play_append (before later : List Turn) (session : Session σ κ) :
    session.play link (before ++ later) =
      session.play link before ++ (session.advance link before).play link later := by
  induction before generalizing session with
  | nil => rfl
  | cons turn before ih => exact congrArg (List.cons _) (ih _)

theorem advance_append (before later : List Turn) (session : Session σ κ) :
    session.advance link (before ++ later) = (session.advance link before).advance link later := by
  induction before generalizing session with
  | nil => rfl
  | cons turn before ih => exact ih _

theorem advance_follows (follows : Session σ κ → Session σ κ → Prop)
    (step : ∀ session turn, keeps session →
      keeps (session.take link turn).session ∧ follows session (session.take link turn).session)
    (reflexive : ∀ session, keeps session → follows session session)
    (transitive : ∀ first second third, follows first second → follows second third →
      follows first third)
    (turns : List Turn) (session : Session σ κ) (start : keeps session) :
    follows session (session.advance link turns) := by
  induction turns generalizing session with
  | nil => exact reflexive session start
  | cons turn turns ih =>
      obtain ⟨kept, next⟩ := step session turn start
      exact transitive _ _ _ next (ih _ kept)

theorem advance_keeps
    (step : ∀ session turn, keeps session → keeps (session.take link turn).session)
    (turns : List Turn) (session : Session σ κ) (start : keeps session) :
    keeps (session.advance link turns) := by
  refine advance_follows (fun _ later => keeps later) ?_ (fun _ kept => kept) (fun _ _ _ _ kept => kept)
    turns session start
  intro session turn kept
  have next := step session turn kept
  exact ⟨next, next⟩

theorem advance_holding (link : Link σ κ) (turns : List Turn) (session : Session σ κ) :
    ∃ held network, session.advance link turns = session.holding held network := by
  refine @advance_follows σ κ link (fun _ => True)
    (fun earlier later => ∃ held network, later = earlier.holding held network) ?_ ?_ ?_ turns session
    trivial
  · intro session turn _
    exact ⟨trivial, taken_holding link session turn _ (take_cases link session turn)⟩
  · intro session _
    exact ⟨session.client.held, session.network, rfl⟩
  · rintro first _ _ ⟨_, _, rfl⟩ ⟨held, network, rfl⟩
    exact ⟨held, network, rfl⟩

inductive Along (holds : Session σ κ → Turn → Step σ κ → Prop) :
    Session σ κ → List Turn → List (Step σ κ) → Prop where
  | nil {session : Session σ κ} : Along holds session [] []
  | cons {session : Session σ κ} {turn : Turn} {turns : List Turn} {step : Step σ κ}
      {steps : List (Step σ κ)} :
      holds session turn step → Along holds step.session turns steps →
      Along holds session (turn :: turns) (step :: steps)

theorem play_along (holds : Session σ κ → Turn → Step σ κ → Prop)
    (step : ∀ session turn, holds session turn (session.take link turn)) (turns : List Turn)
    (session : Session σ κ) : Along holds session turns (session.play link turns) := by
  induction turns generalizing session with
  | nil => exact .nil
  | cons turn turns ih => exact .cons (step session turn) (ih _)

theorem play_each (holds : Turn → Step σ κ → Prop)
    (step : ∀ session turn, keeps session →
      keeps (session.take link turn).session ∧ holds turn (session.take link turn))
    (turns : List Turn) (session : Session σ κ) (start : keeps session) :
    ∀ pair ∈ turns.zip (session.play link turns), holds pair.1 pair.2 := by
  induction turns generalizing session with
  | nil => simp
  | cons turn turns ih =>
      obtain ⟨kept, held⟩ := step session turn start
      intro pair member
      rw [play, List.zip_cons_cons, List.mem_cons] at member
      rcases member with rfl | later
      · exact held
      · exact ih _ kept pair later

theorem play_follows (follows : Session σ κ → Session σ κ → Prop)
    (step : ∀ session turn, keeps session →
      keeps (session.take link turn).session ∧ follows session (session.take link turn).session)
    (transitive : ∀ first second third, follows first second → follows second third →
      follows first third)
    (turns : List Turn) (session : Session σ κ) (start : keeps session) :
    ∀ later ∈ session.play link turns, follows session later.session := by
  induction turns generalizing session with
  | nil => simp [play]
  | cons turn turns ih =>
      obtain ⟨kept, next⟩ := step session turn start
      intro later member
      rw [play, List.mem_cons] at member
      rcases member with rfl | rest
      · exact next
      · exact transitive _ _ _ next (ih _ kept later rest)

theorem play_keeps
    (step : ∀ session turn, keeps session → keeps (session.take link turn).session)
    (turns : List Turn) (session : Session σ κ) (start : keeps session) :
    ∀ later ∈ session.play link turns, keeps later.session := by
  refine play_follows (fun _ later => keeps later) ?_ (fun _ _ _ _ kept => kept) turns session start
  intro session turn kept
  have next := step session turn kept
  exact ⟨next, next⟩

theorem play_pairwise (follows : Session σ κ → Session σ κ → Prop)
    (step : ∀ session turn, keeps session →
      keeps (session.take link turn).session ∧ follows session (session.take link turn).session)
    (transitive : ∀ first second third, follows first second → follows second third →
      follows first third)
    (turns : List Turn) (session : Session σ κ) (start : keeps session) :
    (session.play link turns).Pairwise fun earlier later => follows earlier.session later.session := by
  induction turns generalizing session with
  | nil => exact .nil
  | cons turn turns ih =>
      obtain ⟨kept, _⟩ := step session turn start
      exact .cons (play_follows follows step transitive turns _ kept) (ih _ kept)

end RespClient.Session
