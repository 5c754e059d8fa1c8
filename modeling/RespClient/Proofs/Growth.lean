import RespClient.Proofs.Alignment

set_option autoImplicit false

namespace RespClient.Alignment
open ByteStream

def Grows (earlier later : Ledger) : Prop :=
  ∀ (number : Nat) (account : Account), earlier.accounts[number]? = some account →
    ∃ grown : Account, later.accounts[number]? = some grown ∧ account.readings <+: grown.readings

theorem grows_refl (ledger : Ledger) : Grows ledger ledger := by
  intro number account found
  exact ⟨account, found, List.prefix_refl _⟩

theorem grows_trans (first second third : Ledger) (one : Grows first second)
    (two : Grows second third) : Grows first third := by
  intro number account found
  obtain ⟨middle, there, longer⟩ := one number account found
  obtain ⟨last, still, longest⟩ := two number middle there
  exact ⟨last, still, longer.trans longest⟩

section
variable (shortage : Shortage) (network : Network)

theorem exchange_found (command : Command) (session : Books) (kept : Kept network session)
    (account : Account) (held : session.client.held = some account) :
    ((Ledger.link shortage).run command account session.network).2.accounts[account.number]? =
      some (account.exchange shortage command).2 := by
  obtain ⟨front, accounts, place⟩ := held_last network session kept account held
  rw [link_run, Ledger.enter, accounts]
  have number : (account.exchange shortage command).2.number = front.length := place
  simp [number, place]

theorem run_grows (command : Command) (session : Books) (kept : Kept network session)
    (account : Account) (held : session.client.held = some account) :
    Grows session.network ((Ledger.link shortage).run command account session.network).2 := by
  intro number other found
  by_cases same : number = account.number
  · subst same
    refine ⟨_, exchange_found shortage network command session kept account held, ?_⟩
    obtain ⟨front, accounts, place⟩ := held_last network session kept account held
    obtain rfl : account = other := by simpa [accounts, place] using found
    exact List.prefix_append account.readings _
  · refine ⟨other, ?_, List.prefix_refl _⟩
    rw [link_run, Ledger.enter, List.getElem?_set_ne]
    · exact found
    · exact fun own => same own.symm

theorem dial_grows (ledger after : Ledger) (outcome : Except LinkError Account)
    (dialed : ledger.dial shortage = (outcome, after)) : Grows ledger after := by
  rcases dial_cases shortage _ _ _ dialed with ⟨_, _, rfl⟩ | ⟨_, _, _, _, rfl⟩
  · exact grows_refl after
  · intro number account found
    obtain ⟨inside, _⟩ := List.getElem?_eq_some_iff.mp found
    exact ⟨account, by rw [List.getElem?_append_left inside, found], List.prefix_refl _⟩

theorem obtained_grows (session : Books) (account : Account) (events : List Event) (before : Ledger)
    (obtains : session.Obtains (Ledger.link shortage) account events before) :
    Grows session.network before := by
  cases obtains with
  | held held => exact grows_refl _
  | dialed idle dialed => exact dial_grows shortage _ _ _ dialed

theorem ran_grows (session : Books) (kept : Kept network session) (account : Account)
    (events : List Event) (before after : Ledger) (command : Command)
    (outcome : Except LinkError (Reply × Account))
    (obtains : session.Obtains (Ledger.link shortage) account events before)
    (ran : (Ledger.link shortage).run command account before = (outcome, after)) :
    Grows session.network after := by
  have opened := (obtained_kept shortage network session kept account events before obtains).1
  have longer := run_grows shortage network command _ opened account rfl
  simp only [Session.holding, ran] at longer
  exact grows_trans _ _ _ (obtained_grows shortage session account events before obtains) longer

theorem exchanged_grows (command : Command) (session : Books) (kept : Kept network session)
    (result : Exchange Ledger Account)
    (exchanges : session.Exchanges (Ledger.link shortage) command result) :
    Grows session.network result.session.network := by
  cases exchanges with
  | unreachable idle dialed => exact dial_grows shortage _ _ _ dialed
  | broken obtains ran => exact ran_grows shortage network session kept _ _ _ _ command _ obtains ran
  | replied obtains ran => exact ran_grows shortage network session kept _ _ _ _ command _ obtains ran

theorem take_grows (session : Books) (turn : Turn) (kept : Kept network session) :
    Grows session.network (session.take (Ledger.link shortage) turn).session.network := by
  have takes := Session.take_cases (Ledger.link shortage) session turn
  generalize session.take (Ledger.link shortage) turn = step at takes
  cases takes with
  | disconnected => exact grows_refl _
  | refused made => exact grows_refl _
  | performed made exchanges => exact exchanged_grows shortage network _ session kept _ exchanges

theorem advance_grows (turns : List Turn) (session : Books) (kept : Kept network session) :
    Grows session.network (session.advance (Ledger.link shortage) turns).network := by
  refine Session.advance_follows (fun earlier later => Grows earlier.network later.network) ?_
    (fun session _ => grows_refl session.network)
    (fun first second third => grows_trans first.network second.network third.network) turns session kept
  intro session turn kept
  exact ⟨(take_kept shortage network session turn kept).1, take_grows shortage network session turn kept⟩

theorem advance_kept (turns : List Turn) (session : Books) (kept : Kept network session) :
    Kept network (session.advance (Ledger.link shortage) turns) := by
  refine Session.advance_keeps ?_ turns session kept
  intro session turn kept
  exact (take_kept shortage network session turn kept).1

theorem advance_continues (turns : List Turn) (session : Books) (kept : Kept network session) :
    Continues session (session.advance (Ledger.link shortage) turns) := by
  refine Session.advance_follows Continues ?_ ?_ continues_trans turns session kept
  · intro session turn kept
    obtain ⟨next, continues, _⟩ := take_kept shortage network session turn kept
    exact ⟨next, continues⟩
  · intro session _
    exact continues_same session session rfl (Or.inr rfl)

end
end RespClient.Alignment
