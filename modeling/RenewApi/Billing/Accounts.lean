import RenewApi.Billing.Ledger

/-! # Accounts

The numbers that the ledger moves, and what each balance statement of `Billing/Balances` does to
them. -/

namespace RenewApi.Billing

open Relational Table BillingLedger Database UserSubscription

variable {delta now : Int} {l : BillingLedger} {db db' : Database}

/-- The numbers a ledger moves. -/
inductive Account
  /-- `users.quota`. -/
  | wallet (user : Int)
  /-- `tokens.used_quota`. -/
  | tokenUsed (token : Int)
  /-- `tokens.remain_quota`. -/
  | tokenRemain (token : Int)
  /-- `user_subscriptions.amount_used`. -/
  | subscriptionUsed (subscription : Int)
  /-- `users.used_quota`. -/
  | userUsed (user : Int)
  /-- `users.request_count`. -/
  | userRequests (user : Int)
  /-- `channels.used_quota`. -/
  | channelUsed (channel : Int)
  deriving DecidableEq

def Database.balance (db : Database) : Account → Int
  | .wallet u => db.users.read u User.quota
  | .tokenUsed t => db.tokens.read t Token.usedQuota
  | .tokenRemain t => db.tokens.read t Token.remainQuota
  | .subscriptionUsed s => db.subscriptions.read s UserSubscription.amountUsed
  | .userUsed u => db.users.read u User.usedQuota
  | .userRequests u => db.users.read u User.requestCount
  | .channelUsed c => db.channels.read c Channel.usedQuota

section

variable (l : BillingLedger)

def BillingLedger.direction : Account → Int
  | .wallet u => if l.fundingSource ≠ .subscription ∧ l.userID = u then -1 else 0
  | .tokenUsed t => if l.chargesToken ∧ l.tokenID = t then 1 else 0
  | .tokenRemain t => if l.chargesToken ∧ l.tokenID = t then -1 else 0
  | .subscriptionUsed s => if l.fundingSource = .subscription ∧ l.subscriptionID = s then 1 else 0
  | .userUsed _ | .userRequests _ | .channelUsed _ => 0

def BillingLedger.tokenMove (delta : Int) : Account → Int
  | .tokenUsed t => (if l.chargesToken ∧ l.tokenID = t then 1 else 0) * delta
  | .tokenRemain t => (if l.chargesToken ∧ l.tokenID = t then -1 else 0) * delta
  | _ => 0

/-- What a ledger has put on the usage counters. -/
def BillingLedger.counted : Account → Int
  | .userUsed u => if l.userID = u then l.countedQuota else 0
  | .userRequests u => if l.userID = u ∧ l.requestCounted = true then 1 else 0
  | .channelUsed c => if 0 < c ∧ l.channelID = c then l.countedQuota else 0
  | .wallet _ | .tokenUsed _ | .tokenRemain _ | .subscriptionUsed _ => 0

def BillingLedger.posting (a : Account) : Int :=
  l.direction a * l.appliedQuota + l.counted a

end

/-- The accounts that postings explain: all, except that an unlimited token keeps its remaining
quota whatever is charged to it. -/
def Database.tracks (db : Database) : Account → Prop
  | .tokenRemain t => ∀ row, db.tokens.find? t = some row → row.unlimitedQuota = false
  | _ => True

/-! ## Shape -/

/-- A user row without its numbers and its group. -/
def User.strip (u : User) : User :=
  { u with quota := 0, usedQuota := 0, requestCount := 0, group := "" }

/-- A token row without its numbers. -/
def Token.strip (t : Token) : Token := { t with accessedTime := 0, remainQuota := 0, usedQuota := 0 }

def Channel.strip (c : Channel) : Channel := { c with usedQuota := 0 }

/-- A subscription row without its usage, its reset schedule and whether it still runs. -/
def UserSubscription.strip (s : UserSubscription) : UserSubscription :=
  { s with
    amountUsed := 0, endTime := 0, status := .active, lastResetTime := 0, nextResetTime := 0
    updatedAt := 0 }

/-- The charged rows without the numbers on them. -/
structure Shape where
  users : List User
  tokens : List Token
  channels : List Channel
  subscriptions : List UserSubscription
  plans : List SubscriptionPlan

/-- What the ledger operations leave of the charged rows. -/
def Database.shape (db : Database) : Shape :=
  { users := db.users.rows.map User.strip
    tokens := db.tokens.rows.map Token.strip
    channels := db.channels.rows.map Channel.strip
    subscriptions := db.subscriptions.rows.map UserSubscription.strip
    plans := db.plans.rows }

theorem exists_of_map_eq {α β : Type*} {f : α → β} {x y : Option α} {a : α} (h : y.map f = x.map f)
    (hx : x = some a) : ∃ b, y = some b := by
  cases y with
  | none => rw [hx] at h; cases h
  | some b => exact ⟨b, rfl⟩

section

variable {db db' : Database} (h : db'.shape = db.shape)
include h

theorem find?_token_of_shape (t : Int) :
    (db'.tokens.find? t).map Token.strip = (db.tokens.find? t).map Token.strip :=
  map_find?_of_map_rows (f := Token.strip) (fun _ => rfl) (congrArg Shape.tokens h) t

theorem find?_channel_of_shape (c : Int) :
    (db'.channels.find? c).map Channel.strip = (db.channels.find? c).map Channel.strip :=
  map_find?_of_map_rows (f := Channel.strip) (fun _ => rfl) (congrArg Shape.channels h) c

theorem find?_subscription_of_shape (s : Int) :
    (db'.subscriptions.find? s).map strip
      = (db.subscriptions.find? s).map strip :=
  map_find?_of_map_rows (f := strip) (fun _ => rfl)
    (congrArg Shape.subscriptions h) s

theorem exists_user_of_shape {i : Int} {u : User} (hu : db.users.find? i = some u)
    (hlive : u.deleted = false) : ∃ u', db'.users.find? i = some u' ∧ u'.deleted = false := by
  have hmap : (db'.users.find? i).map User.strip = (db.users.find? i).map User.strip :=
    map_find?_of_map_rows (f := User.strip) (fun _ => rfl) (congrArg Shape.users h) i
  obtain ⟨u', hu'⟩ := exists_of_map_eq hmap hu
  rw [hu, hu'] at hmap
  exact ⟨u', hu', (congrArg User.deleted (Option.some.inj hmap)).trans hlive⟩

theorem tracks_of_shape {a : Account} (ha : db.tracks a) : db'.tracks a := by
  cases a with
  | tokenRemain t =>
    intro row hrow
    have hmap := find?_token_of_shape h t
    obtain ⟨old, hold⟩ := exists_of_map_eq hmap.symm hrow
    rw [hrow, hold] at hmap
    exact (congrArg Token.unlimitedQuota (Option.some.inj hmap)).trans (ha old hold)
  | _ => trivial

end

/-! ## Moves of the accounts -/

/-- **A move of the accounts**: the balances change by `move`, and all else that the books depend on
stays. -/
structure BalanceMove (db db' : Database) (move : Account → Int) : Prop where
  balance : ∀ a, db.tracks a → db'.balance a = db.balance a + move a
  shape : db'.shape = db.shape
  ledgers : db'.ledgers = db.ledgers
  tasks : db'.tasks = db.tasks
  midjourneys : db'.midjourneys = db.midjourneys
  outbox : db'.outbox = db.outbox

theorem BalanceMove.refl (db : Database) : BalanceMove db db (fun _ => 0) :=
  ⟨fun _ _ => (add_zero _).symm, rfl, rfl, rfl, rfl, rfl⟩

variable {db₁ : Database} {ledger l' : BillingLedger} {target : Int} {m n : Account → Int}

theorem BalanceMove.trans {db₂ db₃ : Database} (h₁ : BalanceMove db₁ db₂ m)
    (h₂ : BalanceMove db₂ db₃ n) : BalanceMove db₁ db₃ (fun a => m a + n a) where
  balance a ha := by
    rw [h₂.balance a (tracks_of_shape h₁.shape ha), h₁.balance a ha, add_assoc]
  shape := h₂.shape.trans h₁.shape
  ledgers := h₂.ledgers.trans h₁.ledgers
  tasks := h₂.tasks.trans h₁.tasks
  midjourneys := h₂.midjourneys.trans h₁.midjourneys
  outbox := h₂.outbox.trans h₁.outbox

theorem BalanceMove.congr (h : BalanceMove db db' m) (hmn : ∀ a, m a = n a) :
    BalanceMove db db' n := by
  have : m = n := funext hmn
  exact this ▸ h

theorem balanceMove_wallet {userID : Int} (h : adjustWalletQuotaTx db userID delta = .ok db') :
    BalanceMove db db' (fun a => (if a = .wallet userID then -1 else 0) * delta) := by
  rcases adjustWalletQuotaTx_eq_ok.mp h with ⟨rfl, rfl⟩ | ⟨-, u, hu, -, -, rfl⟩
  · exact (BalanceMove.refl db').congr (fun a => by simp)
  refine ⟨fun a _ => ?_, ?_, rfl, rfl, rfl, rfl⟩
  · cases a with
    | wallet v =>
      simp only [balance, read_put (r := u.charge delta) hu rfl, Account.wallet.injEq]
      split <;> simp
    | userUsed | userRequests => simp [balance, read_put (r := u.charge delta) hu rfl]
    | _ => simp [balance]
  · simp only [shape]
    rw [map_rows_put (r := u.charge delta) hu rfl rfl]

/-- Charging a token. -/
theorem balanceMove_token (h : adjustTokenQuotaTx now db ledger delta = .ok db') :
    BalanceMove db db' (ledger.tokenMove delta) := by
  rcases adjustTokenQuotaTx_eq_ok.mp h with ⟨hskip, rfl⟩ | ⟨-, hcharge, t, ht, -, -, -, rfl⟩
  · refine (BalanceMove.refl db').congr (fun a => ?_)
    rcases hskip with rfl | hskip
    · cases a <;> simp [tokenMove]
    · cases a <;> simp [tokenMove, hskip]
  refine ⟨fun a ha => ?_, ?_, rfl, rfl, rfl, rfl⟩
  · cases a with
    | tokenUsed v =>
      simp only [balance, tokenMove,
        read_put (r := t.charge now delta) ht rfl, hcharge, true_and, eq_comm (a := v)]
      split <;> simp
    | tokenRemain v =>
      simp only [balance, tokenMove,
        read_put (r := t.charge now delta) ht rfl, hcharge, true_and, eq_comm (a := v)]
      split
      · -- the account is tracked, so the token is limited and really pays
        rename_i hv
        have hlimited : t.unlimitedQuota = false := ha t (hv ▸ ht)
        simp [hlimited]
      · simp
    | _ => simp [balance, tokenMove]
  · simp only [shape]
    rw [map_rows_put (r := t.charge now delta) ht rfl rfl]

theorem balanceMove_subscription {subscriptionID : Int}
    (h : adjustSubscriptionQuotaTx now db subscriptionID delta = .ok db') :
    BalanceMove db db' (fun a => (if a = .subscriptionUsed subscriptionID then 1 else 0) * delta) := by
  obtain ⟨-, ⟨rfl, rfl⟩ | ⟨-, s, hs, -, -, rfl⟩⟩ := adjustSubscriptionQuotaTx_eq_ok.mp h
  · exact (BalanceMove.refl db').congr (fun a => by simp)
  refine ⟨fun a _ => ?_, ?_, rfl, rfl, rfl, rfl⟩
  · cases a with
    | subscriptionUsed v =>
      simp only [balance, read_put (r := s.charge now delta) hs rfl, Account.subscriptionUsed.injEq]
      split <;> simp
    | _ => simp [balance]
  · simp only [shape]
    rw [map_rows_put (r := s.charge now delta) hs rfl rfl]

theorem direction_mul_subscription (h : l.fundingSource = .subscription) (delta : Int)
    (a : Account) :
    l.direction a * delta
      = (if a = .subscriptionUsed l.subscriptionID then 1 else 0) * delta + l.tokenMove delta a := by
  cases a <;> simp [direction, tokenMove, h, eq_comm]

theorem direction_mul_wallet (h : l.fundingSource ≠ .subscription) (delta : Int) (a : Account) :
    l.direction a * delta
      = (if a = .wallet l.userID then -1 else 0) * delta + l.tokenMove delta a := by
  cases a <;> simp [direction, tokenMove, h, eq_comm]

/-- **Charging a ledger**: the funding source and the token both move by `delta`, in the direction
of the ledger. -/
theorem balanceMove_ledger (h : adjustLedgerBalancesTx now db ledger delta = .ok db') :
    BalanceMove db db' (fun a => ledger.direction a * delta) := by
  rcases skip_eq_ok.mp h with ⟨h0, rfl⟩ | ⟨-, h⟩
  · exact (BalanceMove.refl db').congr (fun a => by simp [h0])
  by_cases hsub : ledger.fundingSource = .subscription
  · rw [if_pos hsub] at h
    obtain ⟨db₁, hfund, htoken⟩ := bind_eq_ok.mp h
    exact ((balanceMove_subscription hfund).trans (balanceMove_token htoken)).congr
      fun a => (direction_mul_subscription hsub delta a).symm
  · rw [if_neg hsub] at h
    obtain ⟨db₁, hfund, htoken⟩ := bind_eq_ok.mp h
    exact ((balanceMove_wallet hfund).trans (balanceMove_token htoken)).congr
      fun a => (direction_mul_wallet hsub delta a).symm

/-- **Counting a ledger**: the counters move by the change of what the ledger has counted; only its
counted quota and its request flag change. -/
theorem balanceMove_counters (h : updateBillingCountersTx db l target = .ok (db', l')) :
    BalanceMove db db' (fun a => l'.counted a - l.counted a) ∧
      l' = { l with countedQuota := l'.countedQuota, requestCounted := l'.requestCounted } := by
  obtain ⟨db₁, huser, h⟩ := bind_eq_ok.mp h
  obtain ⟨db₂, hchannel, h⟩ := bind_eq_ok.mp h
  obtain ⟨rfl, rfl⟩ := ok_inj h
  refine ⟨?_, rfl⟩
  have hu : BalanceMove db db₁ (fun a => match a with
      | .userUsed u => if l.userID = u then target - l.countedQuota else 0
      | .userRequests u => if l.userID = u then l.countDelta target else 0
      | _ => 0) := by
    rcases countUserUsageTx_eq_ok.mp huser with ⟨h0, h1, rfl⟩ | ⟨-, u, hu, -, -, rfl⟩
    · refine (BalanceMove.refl db₁).congr (fun a => ?_)
      cases a <;> simp [h0, h1]
    refine ⟨fun a _ => ?_, ?_, rfl, rfl, rfl, rfl⟩
    · cases a with
      | wallet v => simp [balance, read_put (r := u.countUsage _ _) hu rfl]
      | userUsed v =>
        simp only [balance, read_put (r := u.countUsage _ _) hu rfl, eq_comm (a := v)]
        split <;> simp
      | userRequests v =>
        simp only [balance, read_put (r := u.countUsage _ _) hu rfl, eq_comm (a := v)]
        split <;> simp
      | _ => simp [balance]
    · simp only [shape]
      rw [map_rows_put (r := u.countUsage _ _) hu rfl rfl]
  have hc : BalanceMove db₁ db' (fun a => match a with
      | .channelUsed c => if 0 < c ∧ l.channelID = c then target - l.countedQuota else 0
      | _ => 0) := by
    rcases countChannelUsageTx_eq_ok.mp hchannel with ⟨h0, rfl⟩ | ⟨hpos, c, hc, -, rfl⟩
    · refine (BalanceMove.refl db').congr (fun a => ?_)
      cases a with
      | channelUsed c =>
        by_cases hcond : 0 < c ∧ l.channelID = c
        · have hz : target - l.countedQuota = 0 := by
            by_contra hne
            exact h0 ⟨hcond.2 ▸ hcond.1, hne⟩
          simp [hz]
        · simp [hcond]
      | _ => rfl
    refine ⟨fun a _ => ?_, ?_, rfl, rfl, rfl, rfl⟩
    · cases a with
      | channelUsed v =>
        simp only [balance, read_put (r := c.countUsage _) hc rfl, eq_comm (a := v)]
        by_cases hv : l.channelID = v
        · subst hv
          simp [hpos.1]
        · simp [hv]
      | _ => simp [balance]
    · simp only [shape]
      rw [map_rows_put (r := c.countUsage _) hc rfl rfl]
  refine (hu.trans hc).congr fun a => ?_
  cases a with
  | userUsed u =>
    simp only [counted, add_zero]
    split <;> simp
  | userRequests u =>
    simp only [counted, countDelta, add_zero]
    by_cases hu' : l.userID = u <;> by_cases hpos : 0 < target <;>
      by_cases hr : l.requestCounted = true <;> simp [hu', hpos, hr]
  | channelUsed c =>
    simp only [counted, zero_add]
    split <;> simp
  | _ => simp [counted]

/-! ## Backing

A charge that went through proves that the rows it was taken from exist. -/

/-- The rows a ledger is charged to exist and are visible to the balance statements. -/
structure Database.Backs (db : Database) (l : BillingLedger) : Prop where
  wallet : l.fundingSource ≠ .subscription →
    ∃ u, db.users.find? l.userID = some u ∧ u.deleted = false
  subscription : l.fundingSource = .subscription →
    ∃ s, db.subscriptions.find? l.subscriptionID = some s
  token : l.chargesToken → ∃ t, db.tokens.find? l.tokenID = some t ∧ t.deleted = false

/-- The rows a ledger is counted on exist and are visible to the counter statements. -/
structure Database.Counts (db : Database) (l : BillingLedger) : Prop where
  user : ∃ u, db.users.find? l.userID = some u ∧ u.deleted = false
  channel : 0 < l.channelID → ∃ c, db.channels.find? l.channelID = some c

theorem backs_of_shape (h : db'.shape = db.shape) (hb : db.Backs l) : db'.Backs l where
  wallet hw := by
    obtain ⟨u, hu, hlive⟩ := hb.wallet hw
    exact exists_user_of_shape h hu hlive
  subscription hs := by
    obtain ⟨s, hfind⟩ := hb.subscription hs
    exact exists_of_map_eq (find?_subscription_of_shape h _) hfind
  token ht := by
    obtain ⟨t, hfind, hlive⟩ := hb.token ht
    have hmap := find?_token_of_shape h l.tokenID
    obtain ⟨t', hfind'⟩ := exists_of_map_eq hmap hfind
    rw [hfind, hfind'] at hmap
    exact ⟨t', hfind', (congrArg Token.deleted (Option.some.inj hmap)).trans hlive⟩

theorem counts_of_shape (h : db'.shape = db.shape) (hc : db.Counts l) : db'.Counts l where
  user := by
    obtain ⟨u, hu, hlive⟩ := hc.user
    exact exists_user_of_shape h hu hlive
  channel hpos := by
    obtain ⟨c, hfind⟩ := hc.channel hpos
    exact exists_of_map_eq (find?_channel_of_shape h _) hfind

/-- A token that has been charged exists, also in `db` before the funding source was charged. -/
theorem token_of_adjust (hshape : db₁.shape = db.shape)
    (h : adjustTokenQuotaTx now db₁ l delta = .ok db') (hne : delta ≠ 0)
    (hcharge : l.chargesToken) : ∃ t, db.tokens.find? l.tokenID = some t ∧ t.deleted = false := by
  rcases adjustTokenQuotaTx_eq_ok.mp h with ⟨h0 | h0, -⟩ | ⟨-, -, t, ht, hlive, -⟩
  · exact absurd h0 hne
  · exact absurd hcharge h0
  · have hmap := find?_token_of_shape hshape.symm l.tokenID
    obtain ⟨t', ht'⟩ := exists_of_map_eq hmap ht
    rw [ht, ht'] at hmap
    exact ⟨t', ht', (congrArg Token.deleted (Option.some.inj hmap)).trans hlive⟩

theorem backs_of_adjust (h : adjustLedgerBalancesTx now db l delta = .ok db') (hne : delta ≠ 0) :
    db.Backs l := by
  unfold adjustLedgerBalancesTx at h
  rw [if_neg hne] at h
  split_ifs at h with hsub
  · obtain ⟨db₁, hfund, htok⟩ := bind_eq_ok.mp h
    refine ⟨fun hw => absurd hsub hw, fun _ => ?_,
      token_of_adjust (balanceMove_subscription hfund).shape htok hne⟩
    obtain ⟨-, ⟨h0, -⟩ | ⟨-, s, hs, -⟩⟩ := adjustSubscriptionQuotaTx_eq_ok.mp hfund
    · exact absurd h0 hne
    · exact ⟨s, hs⟩
  · obtain ⟨db₁, hfund, htok⟩ := bind_eq_ok.mp h
    refine ⟨fun _ => ?_, fun hs => absurd hs hsub,
      token_of_adjust (balanceMove_wallet hfund).shape htok hne⟩
    rcases adjustWalletQuotaTx_eq_ok.mp hfund with ⟨h0, -⟩ | ⟨-, u, hu, hlive, -⟩
    · exact absurd h0 hne
    · exact ⟨u, hu, hlive⟩

theorem counts_of_update (h : updateBillingCountersTx db l target = .ok (db', l'))
    (hne : target ≠ l.countedQuota) : db.Counts l := by
  obtain ⟨db₁, huser, h⟩ := bind_eq_ok.mp h
  obtain ⟨db₂, hchannel, -⟩ := bind_eq_ok.mp h
  have hdelta : target - l.countedQuota ≠ 0 := sub_ne_zero.mpr hne
  rcases countUserUsageTx_eq_ok.mp huser with ⟨h0, -⟩ | ⟨-, u, hu, hlive, -, rfl⟩
  · exact absurd h0 hdelta
  refine ⟨⟨u, hu, hlive⟩, fun hpos => ?_⟩
  rcases countChannelUsageTx_eq_ok.mp hchannel with ⟨h0, -⟩ | ⟨-, c, hc, -⟩
  · exact absurd ⟨hpos, hdelta⟩ h0
  · exact ⟨c, hc⟩

/-- No limited subscription has used more than its total. -/
def Database.WithinTotals (db : Database) : Prop :=
  ∀ s ∈ db.subscriptions.rows, 0 < s.amountTotal → s.amountUsed ≤ s.amountTotal
  deriving Decidable

theorem withinTotals_put {s : UserSubscription} (hsubs : db'.subscriptions = db.subscriptions.put s)
    (hs : 0 < s.amountTotal → s.amountUsed ≤ s.amountTotal) (h : db.WithinTotals) :
    db'.WithinTotals := by
  intro r hr
  rw [hsubs] at hr
  rcases mem_put hr with rfl | ⟨hold, -⟩
  · exact hs
  · exact h r hold

theorem subscriptions_of_adjustToken (h : adjustTokenQuotaTx now db l delta = .ok db') :
    db'.subscriptions = db.subscriptions := by
  rcases adjustTokenQuotaTx_eq_ok.mp h with ⟨-, rfl⟩ | ⟨-, -, t, -, -, -, -, rfl⟩
  · rfl
  · rfl

theorem withinTotals_adjust (h : adjustLedgerBalancesTx now db l delta = .ok db')
    (hw : db.WithinTotals) : db'.WithinTotals := by
  rcases skip_eq_ok.mp h with ⟨-, rfl⟩ | ⟨-, h⟩
  · exact hw
  by_cases hsub : l.fundingSource = .subscription
  · rw [if_pos hsub] at h
    obtain ⟨db₁, hfund, htok⟩ := bind_eq_ok.mp h
    rw [WithinTotals, subscriptions_of_adjustToken htok]
    obtain ⟨-, ⟨-, rfl⟩ | ⟨-, s, -, -, hle, rfl⟩⟩ := adjustSubscriptionQuotaTx_eq_ok.mp hfund
    · exact hw
    · exact withinTotals_put rfl hle hw
  · rw [if_neg hsub] at h
    obtain ⟨db₁, hfund, htok⟩ := bind_eq_ok.mp h
    rw [WithinTotals, subscriptions_of_adjustToken htok]
    rcases adjustWalletQuotaTx_eq_ok.mp hfund with ⟨-, rfl⟩ | ⟨-, u, -, -, -, rfl⟩
    · exact hw
    · exact hw

end RenewApi.Billing
