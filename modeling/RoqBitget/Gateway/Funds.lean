import RoqBitget.Gateway.Positions

set_option relaxedAutoImplicit false
set_option autoImplicit false

/-!
# Funds updates

The two handlers that publish funds: `DropCopy` for the websocket message `Account`, which lists
coins within items, and `OrderEntry` for the REST answer `AccountAssetsAck`, which lists coins.
Each coin that is listed is published as one `FundsUpdate`. Nothing is published of a coin that
is not listed, also when the message is a snapshot.

## Main definitions

* `RoqBitget.Gateway.onAccount`, `onAccountAssetsAck` — the handlers.
* `RoqBitget.Gateway.consumeFunds` — a consumer that keeps the last reported funds of a coin.
* `RoqBitget.Gateway.Observation` — a message and the funds of the account when it was made.

## Main results

* `RoqBitget.Gateway.consumeFunds_observations` — the consumer has the funds of every coin as of
  the last message that lists it.
* `RoqBitget.Gateway.funds_current_iff` — when the consumer has the funds of the account.
-/

namespace RoqBitget.Protocol

/-- A coin of the websocket message (`account_data_item_coin_item.json`). -/
structure AccountDataItemCoinItem where
  coin : String
  balance : Double
  locked : Double
  debts : Double
  deriving DecidableEq

/-- An item of the websocket message (`account_data_item.json`). -/
structure AccountDataItem where
  coin : List AccountDataItemCoinItem
  deriving DecidableEq

/-- The websocket message (`account.json`). -/
structure Account where
  action : Action
  data : List AccountDataItem
  ts : Milliseconds
  deriving DecidableEq

/-- A coin of the REST answer (`account_assets_ack_data_assets_item.json`). -/
structure AccountAssetsAckDataAssetsItem where
  coin : String
  balance : Double
  debt : Double
  locked : Double
  deriving DecidableEq

/-- The REST answer (`account_assets_ack.json`). -/
structure AccountAssetsAck where
  requestTime : Milliseconds
  assets : List AccountAssetsAckDataAssetsItem
  deriving DecidableEq

end RoqBitget.Protocol

namespace RoqBitget.Gateway

/-! ## The published update -/

/-- `roq::FundsUpdate`. -/
structure FundsUpdate where
  streamId : ℕ
  account : String
  currency : String
  marginMode : MarginMode
  balance : Double
  hold : Double
  borrowed : Double
  unrealizedPnl : Double
  externalAccount : String
  updateType : UpdateType
  exchangeTimeUtc : Nanoseconds
  exchangeSequence : ℕ
  sendingTimeUtc : Nanoseconds
  deriving DecidableEq

/-- `DropCopy::operator()(Trace<protocol::json::Account> const &)`. -/
def onAccount (stream : Stream) (account : Protocol.Account) : List FundsUpdate :=
  account.data.flatMap fun item => item.coin.map fun item =>
    { streamId := stream.streamId
      account := stream.account
      currency := item.coin
      marginMode := .undefined
      balance := item.balance
      hold := item.locked
      borrowed := item.debts
      unrealizedPnl := .nan
      externalAccount := ""
      updateType := Protocol.mapAction account.action
      exchangeTimeUtc := 0
      exchangeSequence := 0
      sendingTimeUtc := account.ts.toNanoseconds }

/-- `OrderEntry::operator()(Trace<protocol::json::AccountAssetsAck> const &)`. -/
def onAccountAssetsAck (stream : Stream) (ack : Protocol.AccountAssetsAck) : List FundsUpdate :=
  ack.assets.map fun item =>
    { streamId := stream.streamId
      account := stream.account
      currency := item.coin
      marginMode := .undefined
      balance := item.balance
      hold := item.locked
      borrowed := item.debt
      unrealizedPnl := .nan
      externalAccount := ""
      updateType := .snapshot
      exchangeTimeUtc := 0
      exchangeSequence := 0
      sendingTimeUtc := ack.requestTime.toNanoseconds }

/-! ## The consumer -/

/-- What funds are kept by: account and currency. -/
structure FundsKey where
  account : String
  currency : String
  deriving DecidableEq

/-- The funds in a coin. -/
structure CoinFunds where
  balance : Double
  hold : Double
  borrowed : Double
  deriving DecidableEq

/-- All of the funds in a coin are numbers. -/
def CoinFunds.Reported (funds : CoinFunds) : Prop :=
  funds.balance.isnan = false ∧ funds.hold.isnan = false ∧ funds.borrowed.isnan = false

instance (funds : CoinFunds) : Decidable funds.Reported := inferInstanceAs (Decidable (_ ∧ _))

/-- The key of an update. -/
def FundsUpdate.key (update : FundsUpdate) : FundsKey := ⟨update.account, update.currency⟩

/-- The funds that an update carries. -/
def FundsUpdate.funds (update : FundsUpdate) : CoinFunds :=
  ⟨update.balance, update.hold, update.borrowed⟩

/-- The kept funds after others are reported; `NaN` means "not reported". -/
def CoinFunds.replace (kept reported : CoinFunds) : CoinFunds :=
  { balance := (report reported.balance).getD kept.balance
    hold := (report reported.hold).getD kept.hold
    borrowed := (report reported.borrowed).getD kept.borrowed }

/-- The consumer's reaction to an update: replace the funds that it reports. -/
def consumeFundsUpdate (store : FundsKey → CoinFunds) (update : FundsUpdate) :
    FundsKey → CoinFunds :=
  Function.update store update.key ((store update.key).replace update.funds)

/-- The consumer after a list of updates. -/
def consumeFunds (store : FundsKey → CoinFunds) (updates : List FundsUpdate) :
    FundsKey → CoinFunds :=
  updates.foldl consumeFundsUpdate store

/-- Funds that are numbers replace what was kept. -/
theorem CoinFunds.replace_of_reported {reported : CoinFunds} (h : reported.Reported)
    (kept : CoinFunds) : kept.replace reported = reported := by
  obtain ⟨balance, hold, borrowed⟩ := reported
  obtain ⟨hbalance, hhold, hborrowed⟩ := h
  simp only at hbalance hhold hborrowed
  simp [replace, report, hbalance, hhold, hborrowed]

/-! ## Messages -/

/-- A message on funds, over the websocket or over REST. -/
inductive FundsMessage
  | websocket (account : Protocol.Account)
  | rest (ack : Protocol.AccountAssetsAck)

/-- The updates that are published of a message by the two streams of an account. -/
def FundsMessage.updates (dropCopy orderEntry : Stream) : FundsMessage → List FundsUpdate
  | .websocket account => onAccount dropCopy account
  | .rest ack => onAccountAssetsAck orderEntry ack

/-- What a message lists: coins and the funds in them. -/
def FundsMessage.listing : FundsMessage → List (String × CoinFunds)
  | .websocket account => account.data.flatMap fun item =>
      item.coin.map fun item => (item.coin, ⟨item.balance, item.locked, item.debts⟩)
  | .rest ack => ack.assets.map fun item => (item.coin, ⟨item.balance, item.locked, item.debt⟩)

/-- The coins that a message lists. -/
def FundsMessage.coins (message : FundsMessage) : List String := message.listing.map Prod.fst

/-- **Both handlers publish what the message lists**, in its order. -/
theorem FundsMessage.updates_listing {dropCopy orderEntry : Stream}
    (h : dropCopy.account = orderEntry.account) (message : FundsMessage) :
    (message.updates dropCopy orderEntry).map (fun update => (update.key, update.funds)) =
      message.listing.map fun entry => (⟨dropCopy.account, entry.1⟩, entry.2) := by
  cases message with
  | websocket account =>
    simp [updates, listing, onAccount, FundsUpdate.key, FundsUpdate.funds, List.map_flatMap,
      Function.comp_def]
  | rest ack =>
    simp [updates, listing, onAccountAssetsAck, FundsUpdate.key, FundsUpdate.funds, h,
      Function.comp_def]

/-- A message, and the funds of the account when the exchange made it. -/
structure Observation where
  message : FundsMessage
  funds : String → CoinFunds

/-- A message lists the funds as they are. -/
def Observation.Truthful (observation : Observation) : Prop :=
  ∀ entry ∈ observation.message.listing,
    entry.2 = observation.funds entry.1 ∧ entry.2.Reported

/-- The funds in a coin as of the last message that lists it, and `start` if none does. -/
def asOfLastListing (start : CoinFunds) (coin : String) (observations : List Observation) :
    CoinFunds :=
  observations.foldl
    (fun funds o => if coin ∈ o.message.coins then o.funds coin else funds) start

/-- The funds as of the last listing after one more message. -/
theorem asOfLastListing_concat (start : CoinFunds) (coin : String)
    (observations : List Observation) (last : Observation) :
    asOfLastListing start coin (observations ++ [last]) =
      if coin ∈ last.message.coins then last.funds coin
      else asOfLastListing start coin observations := by
  rw [asOfLastListing, List.foldl_append]
  rfl

section Observations

variable {dropCopy orderEntry : Stream}

/-- A consumer takes over what is listed truthfully, and keeps the rest. -/
theorem consumeFunds_listed (funds : String → CoinFunds) (store : FundsKey → CoinFunds)
    {account : String} {updates : List FundsUpdate} {listing : List (String × CoinFunds)}
    (hupdates : updates.map (fun update => (update.key, update.funds)) =
      listing.map fun entry => (⟨account, entry.1⟩, entry.2))
    (hlisting : ∀ entry ∈ listing, entry.2 = funds entry.1 ∧ entry.2.Reported) (coin : String) :
    consumeFunds store updates ⟨account, coin⟩ =
      if coin ∈ listing.map Prod.fst then funds coin else store ⟨account, coin⟩ := by
  induction listing generalizing store updates with
  | nil =>
    obtain rfl : updates = [] := List.map_eq_nil_iff.mp hupdates
    simp [consumeFunds]
  | cons entry listing ih =>
    cases updates with
    | nil => simp at hupdates
    | cons update updates =>
      rw [List.map_cons, List.map_cons, List.cons.injEq, Prod.mk.injEq] at hupdates
      obtain ⟨⟨hkey, hfunds⟩, hrest⟩ := hupdates
      obtain ⟨hvalue, hreported⟩ := hlisting entry List.mem_cons_self
      have hstep : consumeFundsUpdate store update =
          Function.update store ⟨account, entry.1⟩ (funds entry.1) := by
        rw [consumeFundsUpdate, hfunds, CoinFunds.replace_of_reported hreported, hkey, hvalue]
      rw [consumeFunds, List.foldl_cons, ← consumeFunds, hstep,
        ih _ hrest fun e he => hlisting e (List.mem_cons_of_mem _ he)]
      by_cases hcoin : coin = entry.1
      · subst hcoin
        simp
      · have hne : (⟨account, coin⟩ : FundsKey) ≠ ⟨account, entry.1⟩ := by simp [hcoin]
        have hlisted : coin ∈ (entry :: listing).map Prod.fst ↔ coin ∈ listing.map Prod.fst := by
          rw [List.map_cons, List.mem_cons, or_iff_right hcoin]
        rw [Function.update_of_ne hne]
        exact if_congr hlisted.symm rfl rfl

/-- **The consumer has the funds of every coin as of the last message that lists it**, whatever
order the messages of the two streams arrive in, and however often a message lists a coin. -/
theorem consumeFunds_observations (haccount : dropCopy.account = orderEntry.account)
    (store : FundsKey → CoinFunds) {observations : List Observation}
    (htruthful : ∀ o ∈ observations, o.Truthful) (coin : String) :
    consumeFunds store (observations.flatMap fun o => o.message.updates dropCopy orderEntry)
        ⟨dropCopy.account, coin⟩ =
      asOfLastListing (store ⟨dropCopy.account, coin⟩) coin observations := by
  induction observations generalizing store with
  | nil => rfl
  | cons o observations ih =>
    have hfirst := consumeFunds_listed o.funds store (o.message.updates_listing haccount)
      (htruthful o List.mem_cons_self) coin
    rw [List.flatMap_cons, consumeFunds, List.foldl_append, ← consumeFunds, ← consumeFunds,
      ih _ fun o ho => htruthful o (List.mem_cons_of_mem _ ho), hfirst]
    rfl

/-- **When the consumer has the funds of the account.** After any truthful messages, the consumer
has the funds of the account as they were when the last message was made if and only if every
coin that this message does not list had the same funds when it was last listed. So a coin that
is no longer listed, also in a snapshot, keeps the funds that it had. -/
theorem funds_current_iff (haccount : dropCopy.account = orderEntry.account)
    (store : FundsKey → CoinFunds) (observations : List Observation) (last : Observation)
    (htruthful : ∀ o ∈ observations ++ [last], o.Truthful) :
    (∀ coin, consumeFunds store
        ((observations ++ [last]).flatMap fun o => o.message.updates dropCopy orderEntry)
        ⟨dropCopy.account, coin⟩ = last.funds coin) ↔
      ∀ coin ∉ last.message.coins,
        asOfLastListing (store ⟨dropCopy.account, coin⟩) coin observations = last.funds coin := by
  refine forall_congr' fun coin => ?_
  rw [consumeFunds_observations haccount store htruthful, asOfLastListing_concat]
  by_cases hlisted : coin ∈ last.message.coins
  · simp [hlisted]
  · simp [hlisted]

end Observations

/-! ## A coin that is no longer listed -/

/-- An account with the given balance of one coin, and nothing else. -/
def onlyTether (balance : ℚ) (coin : String) : CoinFunds :=
  if coin = "USDT" then ⟨.value balance, .zero, .zero⟩ else ⟨.zero, .zero, .zero⟩

/-- The websocket lists a coin before it is spent. -/
def beforeSpending : Observation :=
  ⟨.websocket ⟨.snapshot, [⟨[⟨"USDT", .value 100, .zero, .zero⟩]⟩], ⟨0⟩⟩, onlyTether 100⟩

/-- A snapshot over REST does not list the coin after it has been spent. -/
def afterSpending : Observation := ⟨.rest ⟨⟨1⟩, []⟩, onlyTether 0⟩

/-- After the snapshot the consumer still has what was spent. -/
theorem spentCoin_notCurrent :
    ¬ ∀ coin, consumeFunds (fun _ => ⟨.zero, .zero, .zero⟩)
      (([beforeSpending] ++ [afterSpending]).flatMap fun o =>
        o.message.updates ⟨3, "A1", "bitget"⟩ ⟨2, "A1", "bitget"⟩) ⟨"A1", coin⟩ =
      afterSpending.funds coin := by
  intro h
  have htruthful : ∀ o ∈ [beforeSpending] ++ [afterSpending], o.Truthful := by
    simp [Observation.Truthful, beforeSpending, afterSpending, FundsMessage.listing, onlyTether,
      CoinFunds.Reported]
  have hcoin := (@funds_current_iff ⟨3, "A1", "bitget"⟩ ⟨2, "A1", "bitget"⟩ rfl
    (fun _ => ⟨.zero, .zero, .zero⟩) [beforeSpending] afterSpending htruthful).mp h "USDT"
      (by decide)
  exact absurd hcoin (by decide)

end RoqBitget.Gateway
