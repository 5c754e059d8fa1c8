import RespClient.Proofs.Accounts
import RespClient.Proofs.Lockstep

set_option autoImplicit false

namespace RespClient.Alignment
open ByteStream

abbrev Books := Session Ledger Account

def Released (session : Books) (number : Nat) : Prop :=
  ∀ account : Account, session.client.held = some account → account.number ≠ number

structure Balanced (network : Network) (session : Books) : Prop where
  aligned : ∀ account ∈ session.network.accounts, account.Aligned
  numbered : ∀ number (account : Account), session.network.accounts[number]? = some account →
    account.number = number
  newest : ∀ account : Account, session.client.held = some account →
    session.network.accounts.getLast? = some account
  failed : ∀ account ∈ session.network.accounts, ∀ reading ∈ account.readings,
    ¬ reading.Answered → Released session account.number
  deliveries : session.network.accounts.map Account.deliveries ++ session.network.network = network

-- A connection that is out of the client's hands stays so, and its books stay as they are.
def Continues (earlier later : Books) : Prop :=
  ∀ number (account : Account), earlier.network.accounts[number]? = some account → Released earlier number →
    later.network.accounts[number]? = some account ∧ Released later number

structure Served (turn : Turn) (step : Step Ledger Account) : Prop where
  answered : ∀ command, .sent command ∈ step.events →
    ∃ call account reading, turn.action = .call call ∧
      step.session.network.accounts.getLast? = some account ∧
      account.readings.getLast? = some reading ∧ reading.command = command ∧
      step.response = call.respond (reading.outcome.mapError .broken)
  dropped : turn.action = .disconnect → step.session.client.held = none

theorem found_snoc (front : List Account) (last account : Account) (number : Nat)
    (found : (front ++ [last])[number]? = some account) :
    front[number]? = some account ∨ number = front.length ∧ account = last := by
  rcases Nat.lt_or_ge number front.length with inside | outside
  · rw [List.getElem?_append_left inside] at found
    exact Or.inl found
  · rw [List.getElem?_append_right outside, List.getElem?_singleton] at found
    split at found
    · cases found
      exact Or.inr ⟨by omega, rfl⟩
    · cases found

theorem continues_trans (first second third : Books) (one : Continues first second)
    (two : Continues second third) : Continues first third := by
  intro number account found released
  obtain ⟨still, out⟩ := one number account found released
  exact two number account still out

theorem continues_same (earlier later : Books) (same : later.network = earlier.network)
    (held : later.client.held = none ∨ later.client.held = earlier.client.held) :
    Continues earlier later := by
  intro number account found released
  refine ⟨same ▸ found, ?_⟩
  intro other inHand
  rcases held with none | kept
  · exact nomatch none.symm.trans inHand
  · exact released other (kept ▸ inHand)

theorem continues_snoc (earlier later : Books) (front : List Account) (last : Account)
    (before : ∀ number (account : Account), earlier.network.accounts[number]? = some account →
      Released earlier number → front[number]? = some account)
    (after : later.network.accounts = front ++ [last])
    (inHand : ∀ account : Account, later.client.held = some account → account.number = front.length) :
    Continues earlier later := by
  intro number account found released
  have inFront := before number account found released
  obtain ⟨bound, _⟩ := List.getElem?_eq_some_iff.mp inFront
  refine ⟨?_, ?_⟩
  · rw [after, List.getElem?_append_left bound, inFront]
  · intro other held same
    have newest := inHand other held
    omega

-- What a run keeps: the books, and an open account for the connection in hand.
structure Kept (network : Network) (session : Books) : Prop where
  balanced : Balanced network session
  inHand : ∀ account : Account, session.client.held = some account → account.Open

theorem kept_snoc (network : Network) (session : Books) (front : List Account) (last : Account)
    (accounts : session.network.accounts = front ++ [last])
    (aligned : ∀ account ∈ front, account.Aligned)
    (numbered : ∀ number (account : Account), front[number]? = some account → account.number = number)
    (lastAligned : last.Aligned) (lastNumber : last.number = front.length)
    (inHand : ∀ account : Account, session.client.held = some account → account = last ∧ last.Open)
    (deliveries : front.map Account.deliveries ++ (last.deliveries :: session.network.network) =
      network) :
    Kept network session where
  balanced :=
    { aligned := by
        rw [accounts]
        intro account member
        rcases List.mem_append.mp member with earlier | newest
        · exact aligned account earlier
        · obtain rfl : account = last := by simpa using newest
          exact lastAligned
      numbered := by
        rw [accounts]
        intro number account found
        rcases found_snoc front last account number found with earlier | ⟨newest, rfl⟩
        · exact numbered number account earlier
        · rw [newest, lastNumber]
      newest := by
        intro account held
        rw [accounts, (inHand account held).1]
        simp
      failed := by
        intro account member reading read failed other held same
        obtain ⟨rfl, isOpen⟩ := inHand other held
        rw [accounts, List.mem_append] at member
        rcases member with earlier | newest
        · obtain ⟨number, found⟩ := List.getElem?_of_mem earlier
          obtain ⟨bound, _⟩ := List.getElem?_eq_some_iff.mp found
          have own := numbered number account found
          omega
        · obtain rfl : account = other := by simpa using newest
          exact failed (isOpen.answered reading read)
      deliveries := by
        rw [accounts, List.map_append, List.append_assoc]
        exact deliveries }
  inHand account held := by
    obtain ⟨rfl, isOpen⟩ := inHand account held
    exact isOpen

theorem kept_released (network : Network) (session : Books) (kept : Kept network session) :
    Kept network (session.holding none session.network) where
  balanced :=
    { kept.balanced with
      newest := by simp [Session.holding]
      failed := by simp [Session.holding, Released] }
  inHand := by simp [Session.holding]

theorem start_kept (address : Address) (connectTimeout : Span) (network : Network) :
    Kept network ⟨{ address, connectTimeout }, { network }⟩ where
  balanced :=
    { aligned := by simp
      numbered := by simp
      newest := by simp
      failed := by simp
      deliveries := by simp }
  inHand := by simp

theorem held_last (network : Network) (session : Books) (kept : Kept network session)
    (account : Account) (held : session.client.held = some account) :
    ∃ front, session.network.accounts = front ++ [account] ∧ account.number = front.length := by
  obtain ⟨front, accounts⟩ := List.getLast?_eq_some_iff.mp (kept.balanced.newest account held)
  refine ⟨front, accounts, kept.balanced.numbered front.length account ?_⟩
  rw [accounts]
  simp

theorem holding_same (session : Books) (account : Account)
    (held : session.client.held = some account) :
    session.holding (some account) session.network = session := by
  obtain ⟨⟨address, timeout, inHand⟩, ledger⟩ := session
  obtain rfl : inHand = some account := held
  rfl

theorem dial_cases (shortage : Shortage) (ledger after : Ledger) (outcome : Except LinkError Account)
    (dialed : ledger.dial shortage = (outcome, after)) :
    (∃ cause, outcome = .error cause ∧ after = ledger) ∨
      ∃ pending rest, ledger.network = pending :: rest ∧
        outcome = .ok { number := ledger.accounts.length, connection := { pending } } ∧
        after = ⟨rest, ledger.accounts ++
          [{ number := ledger.accounts.length, connection := { pending } }]⟩ := by
  unfold Ledger.dial at dialed
  split at dialed
  · cases dialed
    exact Or.inl ⟨_, rfl, rfl⟩
  · rename_i pending rest found
    cases dialed
    exact Or.inr ⟨pending, rest, found, rfl, rfl⟩

theorem opened_kept (network : Network) (session : Books) (kept : Kept network session)
    (pending : List Delivery) (rest : Network)
    (found : session.network.network = pending :: rest) (fresh : Account)
    (opened : fresh = { number := session.network.accounts.length, connection := { pending } }) :
    Kept network (session.holding (some fresh) ⟨rest, session.network.accounts ++ [fresh]⟩) ∧
      Continues session (session.holding (some fresh) ⟨rest, session.network.accounts ++ [fresh]⟩) := by
  have isOpen : fresh.Open := opened ▸ Account.fresh_open _ pending
  have number : fresh.number = session.network.accounts.length := by rw [opened]
  have own : fresh.deliveries = pending := by rw [opened]; rfl
  refine ⟨?_, ?_⟩
  · refine kept_snoc network _ session.network.accounts fresh rfl kept.balanced.aligned
      kept.balanced.numbered (Account.open_aligned fresh isOpen) number ?_ ?_
    · intro account held
      cases held
      exact ⟨rfl, isOpen⟩
    · rw [own, ← kept.balanced.deliveries, found]
      rfl
  · refine continues_snoc session _ session.network.accounts fresh (fun _ _ found _ => found) rfl ?_
    intro account held
    cases held
    exact number

theorem obtained_kept (shortage : Shortage) (network : Network) (session : Books)
    (kept : Kept network session) (account : Account) (events : List Event) (before : Ledger)
    (obtains : session.Obtains (Ledger.link shortage) account events before) :
    Kept network (session.holding (some account) before) ∧
      Continues session (session.holding (some account) before) ∧
      ∀ command, .sent command ∉ events := by
  cases obtains with
  | held held =>
      rw [holding_same session account held]
      exact ⟨kept, continues_same session session rfl (Or.inr rfl), by simp⟩
  | dialed _ dialed =>
      rcases dial_cases shortage _ _ _ dialed with ⟨cause, failed, _⟩ | ⟨pending, rest, found, opened, rfl⟩
      · cases failed
      · obtain rfl := Except.ok.inj opened
        obtain ⟨after, continues⟩ := opened_kept network session kept pending rest found _ rfl
        exact ⟨after, continues, by simp⟩

theorem entered_kept (network : Network) (session : Books) (kept : Kept network session)
    (account last : Account) (held : session.client.held = some account)
    (number : last.number = account.number) (deliveries : last.deliveries = account.deliveries)
    (aligned : last.Aligned) (next : Option Account)
    (inHand : ∀ other, next = some other → other = last ∧ last.Open) :
    Kept network (session.holding next (session.network.enter last)) ∧
      Continues session (session.holding next (session.network.enter last)) ∧
      (session.network.enter last).accounts.getLast? = some last := by
  obtain ⟨front, accounts, place⟩ := held_last network session kept account held
  have entered : (session.network.enter last).accounts = front ++ [last] := by
    simp [Ledger.enter, accounts, number, place]
  refine ⟨?_, ?_, by simp [entered]⟩
  · refine kept_snoc network _ front last entered ?_ ?_ aligned (number.trans place) inHand ?_
    · intro other member
      exact kept.balanced.aligned other (by simp [accounts, member])
    · intro position other found
      obtain ⟨bound, _⟩ := List.getElem?_eq_some_iff.mp found
      exact kept.balanced.numbered position other (by
        rw [accounts, List.getElem?_append_left bound, found])
    · rw [deliveries, ← kept.balanced.deliveries, accounts]
      simp [Session.holding, Ledger.enter]
  · refine continues_snoc session _ front last ?_ entered ?_
    · intro position other found released
      have elsewhere : account.number ≠ position := released account held
      rw [accounts] at found
      rcases found_snoc front account other position found with earlier | ⟨newest, _⟩
      · exact earlier
      · omega
    · intro other holds
      rw [(inHand other holds).1, number, place]

theorem link_run (shortage : Shortage) (command : Command) (account : Account) (ledger : Ledger) :
    (Ledger.link shortage).run command account ledger =
      ((account.exchange shortage command).1.map fun reply =>
          (reply, (account.exchange shortage command).2),
        ledger.enter (account.exchange shortage command).2) := by
  rfl

theorem ran_kept (shortage : Shortage) (network : Network) (session : Books)
    (kept : Kept network session) (account : Account) (held : session.client.held = some account)
    (command : Command) (outcome : Except LinkError (Reply × Account)) (after : Ledger)
    (ran : (Ledger.link shortage).run command account session.network = (outcome, after)) :
    Kept network (session.holding (outcome.toOption.map Prod.snd) after) ∧
      Continues session (session.holding (outcome.toOption.map Prod.snd) after) ∧
      ∃ last reading, after.accounts.getLast? = some last ∧ last.readings.getLast? = some reading ∧
        reading.command = command ∧ reading.outcome = outcome.map Prod.fst := by
  obtain ⟨ending, used, unread, result, read, taken, exchanged⟩ :=
    Account.exchange_after shortage command account
  have isOpen := kept.inHand account held
  rw [link_run, exchanged, Prod.mk.injEq] at ran
  obtain ⟨rfl, rfl⟩ := ran
  dsimp only
  have deliveries := Account.after_deliveries account command used unread result
  cases result with
  | ok reply =>
      have opened : (account.after command used unread (.ok reply)).Open :=
        Account.after_open isOpen ending reply taken read
      obtain ⟨keeps, continues, newest⟩ := entered_kept network session kept account
        (account.after command used unread (.ok reply)) held rfl deliveries
        (Account.open_aligned _ opened) (some (account.after command used unread (.ok reply)))
        fun other same => ⟨(Option.some.inj same).symm, opened⟩
      exact ⟨keeps, continues, _, _, newest, List.getLast?_concat, rfl, rfl⟩
  | error cause =>
      have aligned : (account.after command used unread (.error cause)).Aligned :=
        Account.after_aligned isOpen cause taken
      obtain ⟨keeps, continues, newest⟩ := entered_kept network session kept account
        (account.after command used unread (.error cause)) held rfl deliveries aligned none
        fun other impossible => nomatch impossible
      exact ⟨keeps, continues, _, _, newest, List.getLast?_concat, rfl, rfl⟩

theorem not_sent (step : Step Ledger Account) (silent : ∀ command, .sent command ∉ step.events)
    (turn : Turn) (dropped : turn.action = .disconnect → step.session.client.held = none) :
    Served turn step where
  answered command sent := absurd sent (silent command)
  dropped := dropped

theorem newest_served (now : Instant) (call : Call) (events : List Event) (command : Command)
    (silent : ∀ other, .sent other ∉ events) (session : Books) (reply : Except Failure Reply)
    (last : Account) (reading : Reading)
    (newest : session.network.accounts.getLast? = some last)
    (entry : last.readings.getLast? = some reading) (own : reading.command = command)
    (outcome : reading.outcome.mapError .broken = reply) :
    Served ⟨now, .call call⟩
      { response := call.respond reply, events := events ++ [.sent command], session } where
  answered other sent := by
    obtain rfl : other = command := by simpa [silent] using sent
    exact ⟨call, last, reading, rfl, newest, entry, own, by rw [outcome]⟩
  dropped := by simp

theorem exchanged_kept (shortage : Shortage) (network : Network) (session : Books)
    (kept : Kept network session) (command : Command) (result : Exchange Ledger Account)
    (exchanges : session.Exchanges (Ledger.link shortage) command result) (now : Instant) (call : Call) :
    Kept network result.session ∧ Continues session result.session ∧
      Served ⟨now, .call call⟩
        { response := call.respond result.reply, events := result.events, session := result.session } := by
  cases exchanges with
  | unreachable _ dialed =>
      rcases dial_cases shortage _ _ _ dialed with ⟨_, _, rfl⟩ | ⟨_, _, _, opened, _⟩
      · refine ⟨kept_released network session kept, continues_same _ _ rfl (Or.inl rfl), ?_⟩
        exact not_sent _ (by simp) _ (by simp)
      · cases opened
  | broken obtains ran =>
      obtain ⟨middle, opened, silent⟩ := obtained_kept shortage network session kept _ _ _ obtains
      obtain ⟨keeps, continues, last, reading, newest, entry, own, outcome⟩ :=
        ran_kept shortage network _ middle _ rfl command _ _ ran
      refine ⟨keeps, continues_trans _ _ _ opened continues, ?_⟩
      exact newest_served now call _ command silent _ _ last reading newest entry own (by rw [outcome]; rfl)
  | replied obtains ran =>
      obtain ⟨middle, opened, silent⟩ := obtained_kept shortage network session kept _ _ _ obtains
      obtain ⟨keeps, continues, last, reading, newest, entry, own, outcome⟩ :=
        ran_kept shortage network _ middle _ rfl command _ _ ran
      refine ⟨keeps, continues_trans _ _ _ opened continues, ?_⟩
      exact newest_served now call _ command silent _ _ last reading newest entry own (by rw [outcome]; rfl)

theorem take_kept (shortage : Shortage) (network : Network) (session : Books) (turn : Turn)
    (kept : Kept network session) :
    Kept network (session.take (Ledger.link shortage) turn).session ∧
      Continues session (session.take (Ledger.link shortage) turn).session ∧
      Served turn (session.take (Ledger.link shortage) turn) := by
  have takes := Session.take_cases (Ledger.link shortage) session turn
  generalize session.take (Ledger.link shortage) turn = step at takes
  cases takes with
  | disconnected =>
      refine ⟨kept_released network session kept, continues_same _ _ rfl (Or.inl rfl), ?_⟩
      exact not_sent _ (by simp) _ fun _ => rfl
  | refused made =>
      exact ⟨kept, continues_same _ _ rfl (Or.inr rfl), not_sent _ (by simp) _ (by simp)⟩
  | performed made exchanges =>
      exact exchanged_kept shortage network session kept _ _ exchanges _ _

def bookkeeping (shortage : Shortage) :
    Projection (Ledger.link shortage) (ByteStream.link shortage) where
  network := Ledger.network
  connection := Account.connection
  dial address timeout ledger := by
    obtain ⟨network, accounts⟩ := ledger
    cases network <;> rfl
  run command account ledger := by
    obtain ⟨number, connection, delivered, readings⟩ := account
    simp only [link_run, ByteStream.link, ByteStream.run, Account.exchange, Stream.read, Stream.ending,
      Ledger.enter]
    cases (Reply.read (if connection.receive.stream.closed then .endOfFile
      else .failure shortage.noBytes) connection.receive.stream.unread).1 <;> rfl

def run (shortage : Shortage) (address : Address) (connectTimeout : Span) (network : Network)
    (turns : List Turn) : List (Step Ledger Account) :=
  Session.play (Ledger.link shortage) ⟨{ address, connectTimeout }, { network }⟩ turns

/-- Every answer is the newest read of the newest connection, and every byte is in the books. -/
theorem replies_stay_aligned (shortage : Shortage) (address : Address) (connectTimeout : Span)
    (network : Network) (turns : List Turn) :
    (∀ step ∈ run shortage address connectTimeout network turns, Balanced network step.session) ∧
    (∀ pair ∈ turns.zip (run shortage address connectTimeout network turns), Served pair.1 pair.2) ∧
    (run shortage address connectTimeout network turns).Pairwise
      (fun earlier later => Continues earlier.session later.session) ∧
    (run shortage address connectTimeout network turns).map (bookkeeping shortage).step =
      Session.play (ByteStream.link shortage) ⟨{ address, connectTimeout }, network⟩ turns := by
  have start := start_kept address connectTimeout network
  refine ⟨?_, ?_, ?_, ?_⟩
  · intro step member
    have kept := Session.play_keeps
      (fun session turn kept => (take_kept shortage network session turn kept).1) turns _ start step member
    exact kept.balanced
  · refine Session.play_each Served ?_ turns _ start
    intro session turn kept
    obtain ⟨keeps, _, served⟩ := take_kept shortage network session turn kept
    exact ⟨keeps, served⟩
  · refine Session.play_pairwise Continues ?_ continues_trans turns _ start
    intro session turn kept
    obtain ⟨keeps, continues, _⟩ := take_kept shortage network session turn kept
    exact ⟨keeps, continues⟩
  · exact (bookkeeping shortage).play turns _

end RespClient.Alignment
