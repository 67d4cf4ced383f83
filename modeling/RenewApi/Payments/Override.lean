import RenewApi.Payments.TopUps

/-! # The override and the callbacks it stands in for

A call of one of the four completion paths outside Stripe is compared with `ManualCompleteTopUp`.
Creem stores quota in the column that the other providers count in units, and the override counts
units for every provider. -/

namespace RenewApi.Payments

open Billing Relational

/-- A call of a provider's own completion path, with what the callback reports. -/
inductive ProviderCall
  | epay (actualPaymentMethod : String) (paidAmount : Rat)
  | creem (customerEmail : String) (paidAmount : Rat)
  | waffo
  | waffoPancake (paidAmount : Rat)
  deriving DecidableEq

namespace ProviderCall

/-- The provider whose orders the call completes. -/
def provider : ProviderCall → PaymentProvider
  | epay _ _ => .epay
  | creem _ _ => .creem
  | waffo => .waffo
  | waffoPancake _ => .waffoPancake

section

variable (cfg : PaymentConfig) (now : Int) (tradeNo : String)

/-- The function that the call runs. -/
def exec :
    ProviderCall → PaymentStore → PaymentResponse Unit
  | epay method paid => completeEpayTopUpWithPaidAmount cfg now tradeNo method paid
  | creem email paid => rechargeCreemWithPaidAmount now tradeNo email paid
  | waffo => rechargeWaffo cfg now tradeNo
  | waffoPancake paid => rechargeWaffoPancakeWithPaidAmount cfg now tradeNo paid

/-- The transaction inside it. -/
def tx :
    ProviderCall → PaymentStore → Except PaymentError (PaymentStore × Unit)
  | epay method paid => (epayCompletion method paid).complete cfg now tradeNo
  | creem email paid => rechargeCreemTx now tradeNo email paid
  | waffo => waffoCompletion.complete cfg now tradeNo
  | waffoPancake paid => (waffoPancakeCompletion paid).complete cfg now tradeNo

end

/-- The quota that the call credits for an order. -/
def due (cfg : PaymentConfig) (t : TopUp) : ProviderCall → Int
  | creem _ _ => t.amount
  | epay _ _ | waffo | waffoPancake _ => cfg.quotaOfAmount t.amount

variable {cfg : PaymentConfig} {now : Int} {tradeNo : String} {s s' : PaymentStore} {t : TopUp}

theorem exec_fst (c : ProviderCall) (cfg : PaymentConfig) (now : Int) (tradeNo : String)
    (s : PaymentStore) :
    (c.exec cfg now tradeNo s).1
      = if tradeNo = "" then s else (transaction (c.tx cfg now tradeNo) s).1 := by
  cases c <;> exact apply_ite Prod.fst _ _ _

variable {c : ProviderCall}

/-- A call that is accepted had a trade number, and its transaction succeeded. -/
theorem tx_of_exec (h : (c.exec cfg now tradeNo s).2 = .ok ()) :
    tradeNo ≠ "" ∧ c.tx cfg now tradeNo s = .ok ((c.exec cfg now tradeNo s).1, ()) := by
  have htrade : tradeNo ≠ "" := by
    rintro rfl
    cases c <;> cases h
  refine ⟨htrade, ?_⟩
  rw [exec_fst, if_neg htrade]
  apply transaction_snd_eq_ok
  -- Waffo and Creem replace the text of a failure, never a success.
  have hhide : ∀ r : PaymentResponse Unit,
      (hideFailure r).2 = .ok () → r.2 = .ok () := by
    rintro ⟨_, r⟩ hr
    cases r with
    | ok _ => rfl
    | error e => cases hr
  cases c with
  | epay => rwa [exec, completeEpayTopUpWithPaidAmount, requireTradeNo, if_neg htrade] at h
  | creem =>
    rw [exec, rechargeCreemWithPaidAmount, requireTradeNo, if_neg htrade] at h
    exact hhide _ h
  | waffo =>
    rw [exec, rechargeWaffo, requireTradeNo, if_neg htrade] at h
    exact hhide _ h
  | waffoPancake paid =>
    rw [exec, rechargeWaffoPancakeWithPaidAmount, requireTradeNo, if_neg htrade] at h
    exact hhide _ h

/-- What a provider call leaves of an order that it completes: the method may be replaced. -/
def Completes (now : Int) (t t' : TopUp) : Prop :=
  ∃ method, t' = { t with paymentMethod := method, completeTime := now, status := .success }

/-- **What a successful provider call did**: it found its order complete, or completed it and
credited what was due. -/
theorem tx_eq_ok (h : c.tx cfg now tradeNo s = .ok (s', ())) :
    ∃ t, s.topUp? tradeNo = some t ∧ t.paymentProvider = c.provider ∧
      ((t.status = .success ∧ s' = s) ∨
       (t.status = .pending ∧ (t.paymentProvider ≠ .creem → 0 < cfg.quotaOfAmount t.amount) ∧
        ∃ t' contacts, Completes now t t' ∧
          s' = { (s.saveTopUp t').addQuota t.userId (c.due cfg t) with contacts := contacts })) := by
  -- The three completions by amount share their success lemma.
  have amount : ∀ a : AmountCompletion, a.complete cfg now tradeNo s = .ok (s', ()) →
      ∃ t, s.topUp? tradeNo = some t ∧ t.paymentProvider = a.provider ∧
        ((t.status = .success ∧ s' = s) ∨
         (t.status = .pending ∧ (t.paymentProvider ≠ .creem → 0 < cfg.quotaOfAmount t.amount) ∧
          ∃ t' contacts, Completes now t t' ∧
            s' = { (s.saveTopUp t').addQuota t.userId (cfg.quotaOfAmount t.amount) with
              contacts := contacts })) := by
    intro a ha
    obtain ⟨t, hfind, hprovider, hdone | ⟨hpending, -, hpos, rfl⟩⟩ := a.complete_eq_ok ha
    · exact ⟨t, hfind, hprovider, .inl hdone⟩
    · exact ⟨t, hfind, hprovider, .inr ⟨hpending, fun _ => hpos, _, s.contacts, ⟨_, rfl⟩, rfl⟩⟩
  cases c with
  | creem =>
    obtain ⟨t, contacts, hfind, hprovider, hpending, -, rfl⟩ := rechargeCreemTx_eq_ok h
    exact ⟨t, hfind, hprovider, .inr ⟨hpending, fun hne => absurd hprovider hne, _, contacts,
      ⟨_, rfl⟩, rfl⟩⟩
  | _ => exact amount _ h

/-- **An accepted call on a pending order** credits what is due to the user, if the user is live. -/
theorem quotaOf_exec (hfind : s.topUp? tradeNo = some t) (hpending : t.status = .pending)
    (h : (c.exec cfg now tradeNo s).2 = .ok ()) (u : Int) :
    quotaOf (c.exec cfg now tradeNo s).1.db u
      = quotaOf s.db u
        + if u = t.userId ∧ (liveUser s.db t.userId).isSome then c.due cfg t else 0 := by
  obtain ⟨t₁, hfind₁, -, ⟨hdone, -⟩ | ⟨-, -, t', contacts, -, hs'⟩⟩ := tx_eq_ok (tx_of_exec h).2
  · rw [hfind] at hfind₁
    cases hfind₁
    rw [hpending] at hdone
    cases hdone
  · rw [hfind] at hfind₁
    cases hfind₁
    rw [hs']
    exact quotaOf_addUserQuota s.db t.userId (c.due cfg t) u

end ProviderCall

/-! ## The override -/

/-- **What the override adds** for a pending order outside Stripe: the amount in units, if positive
and the user is there. -/
theorem quotaOf_manualCompleteTopUp {cfg : PaymentConfig} {tradeNo : String} {s : PaymentStore}
    {t : TopUp} (now : Int) (htrade : tradeNo ≠ "") (hfind : s.topUp? tradeNo = some t)
    (hpending : t.status = .pending) (hprovider : t.paymentProvider ≠ .stripe) (u : Int) :
    quotaOf (manualCompleteTopUp cfg now tradeNo s).1.db u
      = quotaOf s.db u
        + if u = t.userId ∧ (liveUser s.db t.userId).isSome then max 0 (cfg.quotaOfAmount t.amount)
          else 0 := by
  have hquota : cfg.manualQuota t = cfg.quotaOfAmount t.amount := if_neg hprovider
  rw [manualCompleteTopUp, if_neg htrade]
  cases htx : manualCompleteTopUpTx cfg now tradeNo s with
  | ok r =>
    obtain ⟨t₁, hfind₁, ⟨hdone, -⟩ | ⟨-, -, hpos, -, hs'⟩⟩ := manualCompleteTopUpTx_eq_ok htx
    · rw [hfind] at hfind₁
      cases hfind₁
      rw [hpending] at hdone
      cases hdone
    · rw [hfind] at hfind₁
      cases hfind₁
      rw [transaction_ok htx, hs', hquota]
      rw [hquota] at hpos
      rw [max_eq_right hpos.le]
      exact quotaOf_addUserQuota s.db t.userId (cfg.quotaOfAmount t.amount) u
  | error e =>
    -- A refusal: the quota is not positive, or there is no user to credit.
    have hzero : (if u = t.userId ∧ (liveUser s.db t.userId).isSome then
        max 0 (cfg.quotaOfAmount t.amount) else 0) = 0 := by
      by_contra hne
      have hlive : (liveUser s.db t.userId).isSome := by
        by_contra hgone
        exact hne (if_neg fun h => hgone h.2)
      have hpos : ¬ cfg.quotaOfAmount t.amount ≤ 0 := by
        intro hle
        apply hne
        rw [max_eq_left hle, ite_self]
      have hsuccess : t.status ≠ .success := by rw [hpending]; decide
      rw [manualCompleteTopUpTx, hfind] at htx
      dsimp only at htx
      rw [if_neg hsuccess, if_neg (not_not.mpr hpending), if_neg (fun h => hprovider h.1), hquota,
        if_neg hpos, if_neg (not_not.mpr ((usersAffected_eq_one_iff _ _).mpr hlive))] at htx
      cases htx
    rw [transaction_error htx, hzero, add_zero]

/-- **The override against the callback.** For a pending order that its provider's own path accepts,
completing it by hand adds the same quota to every user exactly when it is not one of Creem's, its
user is gone, or its amount is worth itself in units. -/
theorem manual_eq_provider_iff (cfg : PaymentConfig) (now now' : Int) (tradeNo : String)
    (s : PaymentStore) (t : TopUp) (c : ProviderCall) (hfind : s.topUp? tradeNo = some t)
    (hpending : t.status = .pending) (hok : (c.exec cfg now tradeNo s).2 = .ok ()) :
    (∀ u, quotaOf (manualCompleteTopUp cfg now' tradeNo s).1.db u
        = quotaOf (c.exec cfg now tradeNo s).1.db u) ↔
      (t.paymentProvider = .creem → (liveUser s.db t.userId).isSome →
        max 0 (cfg.quotaOfAmount t.amount) = t.amount) := by
  obtain ⟨htrade, htx⟩ := ProviderCall.tx_of_exec hok
  obtain ⟨t₁, hfind₁, hprovider, hcase⟩ := ProviderCall.tx_eq_ok htx
  rw [hfind] at hfind₁
  cases hfind₁
  have hpos : t.paymentProvider ≠ .creem → 0 < cfg.quotaOfAmount t.amount := by
    rcases hcase with ⟨hdone, -⟩ | ⟨-, hpos, -⟩
    · rw [hpending] at hdone
      cases hdone
    · exact hpos
  have hstripe : t.paymentProvider ≠ .stripe := by
    rw [hprovider]
    cases c <;> exact nofun
  -- The two differ by what they add to the order's own user.
  have hdue : (∀ u, quotaOf (manualCompleteTopUp cfg now' tradeNo s).1.db u
      = quotaOf (c.exec cfg now tradeNo s).1.db u) ↔
        ((liveUser s.db t.userId).isSome → max 0 (cfg.quotaOfAmount t.amount) = c.due cfg t) := by
    constructor
    · intro hall hlive
      have hu := hall t.userId
      rw [quotaOf_manualCompleteTopUp now' htrade hfind hpending hstripe,
        ProviderCall.quotaOf_exec hfind hpending hok, if_pos ⟨rfl, hlive⟩, if_pos ⟨rfl, hlive⟩] at hu
      exact add_left_cancel hu
    · intro heq u
      rw [quotaOf_manualCompleteTopUp now' htrade hfind hpending hstripe,
        ProviderCall.quotaOf_exec hfind hpending hok]
      by_cases hu : u = t.userId ∧ (liveUser s.db t.userId).isSome
      · rw [if_pos hu, if_pos hu, heq hu.2]
      · rw [if_neg hu, if_neg hu]
  rw [hdue]
  by_cases hcreem : t.paymentProvider = .creem
  · -- Creem credits the amount itself.
    have hamount : c.due cfg t = t.amount := by
      rw [hcreem] at hprovider
      cases c with
      | creem => rfl
      | _ => cases hprovider
    rw [hamount]
    exact ⟨fun h _ => h, fun h => h hcreem⟩
  · have hunits : c.due cfg t = cfg.quotaOfAmount t.amount := by
      cases c with
      | creem => exact absurd hprovider hcreem
      | _ => rfl
    rw [hunits, max_eq_right (hpos hcreem).le]
    exact ⟨fun _ h => absurd h hcreem, fun _ _ => rfl⟩

/-! ## Two orders of the same amount -/

/-- A user with an empty wallet. -/
def samplePayer : User :=
  { id := 1, quota := 0, usedQuota := 0, requestCount := 0, group := "default", deleted := false }

/-- A pending order for the amount of 5, of a given provider. -/
def sampleOrder (provider : PaymentProvider) : TopUp :=
  { PaymentSnapshot.zero with
    id := 7, userId := 1, amount := 5, money := 10, tradeNo := "T7", paymentMethod := ""
    paymentProvider := provider, createTime := 100, completeTime := 0, status := .pending }

def sampleStore (u : User) (t : TopUp) : PaymentStore :=
  { PaymentStore.empty with
    db := { Database.empty with users := Table.empty.insert u }, topUps := Table.empty.insert t }

/-- An Epay order of that amount is worth 2500000 either way. -/
theorem manual_eq_provider_epay :
    let s := sampleStore samplePayer (sampleOrder .epay)
    quotaOf ((ProviderCall.epay "alipay" 10).exec sampleConfig 200 "T7" s).1.db 1 = 2500000 ∧
    ∀ u, quotaOf (manualCompleteTopUp sampleConfig 200 "T7" s).1.db u
      = quotaOf ((ProviderCall.epay "alipay" 10).exec sampleConfig 200 "T7" s).1.db u := by
  refine ⟨by decide +kernel, ?_⟩
  exact (manual_eq_provider_iff sampleConfig 200 200 "T7" (sampleStore samplePayer (sampleOrder .epay))
    (sampleOrder .epay) (.epay "alipay" 10) (by decide +kernel) rfl (by decide +kernel)).mpr nofun

/-- A Creem order of that amount is worth 5 to the callback and 2500000 to the administrator. -/
theorem manual_ne_creem :
    let s := sampleStore samplePayer (sampleOrder .creem)
    let callback := (ProviderCall.creem "" 10).exec sampleConfig 200 "T7" s
    let manual := manualCompleteTopUp sampleConfig 200 "T7" s
    (s.topUps.rows.map fun t => (t.tradeNo, t.status, t.paymentProvider))
      = [("T7", .pending, .creem)] ∧
    callback.2.isOk = true ∧ manual.2.isOk = true ∧
    quotaOf callback.1.db 1 = 5 ∧ quotaOf manual.1.db 1 = 2500000 := by
  decide +kernel

end RenewApi.Payments
