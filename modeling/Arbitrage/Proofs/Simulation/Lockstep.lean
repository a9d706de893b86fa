import Arbitrage.Proofs.Simulation.Trade

/-!
# The same trade by two accounts

A trader may make the calls of a relay itself, or hand its tokens to an executor that makes them in
its place. `Shared` relates the two ledgers: the market is the same, and of the tokens concerned the
trader and the executor hold together, on the second ledger, what the trader holds alone on the
first. Every deal that both can pay keeps the ledgers so related (`Shared.exchange`), and they can
pay for the same deals: the first because both hold the same, and every later one because the deal
before it has just brought enough. So the calls go through on both ledgers or stop on both
(`lockstep_of_relay`).
-/

namespace Arbitrage

def MakesNone (orders : Table OrderId Order) (owner : Address) : Prop :=
  ∀ id order, orders.find? id = some order → order.owner ≠ owner

namespace Ledger

/-- What a trader holds on one ledger, it shares with an executor on another. -/
structure Shared (tokens : List Address) (trader executor : Address) (l m : Ledger) : Prop where
  market : l.SameMarket m
  together : ∀ t ∈ tokens,
    (l.balance t trader).raw = (m.balance t trader).raw + (m.balance t executor).raw
  nothing : ∀ t ∈ tokens, (l.balance t executor).raw = 0
  others : ∀ t o, t ∉ tokens ∨ o ≠ trader ∧ o ≠ executor → l.balance t o = m.balance t o

/-- The first calls go through, and the next one reverts; those behind it are never made. -/
def StopsAt (l : Ledger) (caller : Address) (calls : List Call) (i : Nat) (l' : Ledger) : Prop :=
  l.applyAll caller (calls.take i) = .ok l' ∧
    ∃ call, calls[i]? = some call ∧ l'.apply caller call = .error .reverted

variable {l m : Ledger} {trader executor caller : Address} {tokens : List Address} {d : Deal}
variable {action : Action} {step : Step} {steps : List Step} {contracts : Contracts}

/-- A payment goes to the maker of an order, if to any account. -/
theorem payee_of_deal? (none : MakesNone l.orders caller) (deal : l.deal? action = some d) :
    d.payee ≠ some caller := by
  rcases orders_of_deal? deal with ⟨-, nobody⟩ | ⟨id, _, order, _, -, found, -, maker⟩
  · rw [nobody]
    nofun
  · rw [maker]
    intro same
    exact none id order found (Option.some.inj same)

theorem makesNone_of_deal? (none : MakesNone l.orders caller) (deal : l.deal? action = some d) :
    MakesNone d.orders caller := by
  rcases orders_of_deal? deal with ⟨same, -⟩ | ⟨id, _, order, payLeft, -, found, settled, -⟩
  · rw [same]
    exact none
  · intro other listed filed
    rw [settled, find?_settle] at filed
    split at filed
    · split at filed
      · cases filed
      · cases filed
        exact none id order found
    · exact none other listed filed

/-- A deal that both can pay for keeps the two ledgers together. -/
theorem Shared.exchange (shared : Shared tokens trader executor l m) (apart : trader ≠ executor)
    (pays : l.Affords trader d) (pays' : m.Affords executor d) (payee : d.payee ≠ some executor)
    (paid : d.paid ∈ tokens) (got : d.got ∈ tokens) :
    Shared tokens trader executor (l.exchange trader d) (m.exchange executor d) := by
  obtain ⟨market, together, nothing, others⟩ := shared
  refine ⟨?_, ?_, ?_, ?_⟩
  · obtain ⟨balances, allowances, rfl⟩ := market
    rw [exchange_eq l trader d, exchange_eq { l with balances, allowances } executor d]
    exact ⟨_, _, rfl⟩
  · intro t listed
    have both := together t listed
    have alone := raw_balance_exchange pays t trader
    have mine := raw_balance_exchange pays' t trader
    have its := raw_balance_exchange pays' t executor
    simp only [apart, payee, and_false, and_true, if_false] at alone mine its
    omega
  · intro t listed
    have zero := nothing t listed
    have alone := raw_balance_exchange pays t executor
    simp only [apart.symm, payee, and_false, if_false] at alone
    omega
  · intro t o other
    have same := congrArg Amount.raw (others t o other)
    have alone := raw_balance_exchange pays t o
    have its := raw_balance_exchange pays' t o
    apply Amount.ext
    rcases other with absent | elsewhere
    · have not_paid : t ≠ d.paid := fun h => absent (h ▸ paid)
      have not_got : t ≠ d.got := fun h => absent (h ▸ got)
      simp only [not_paid, not_got, false_and, if_false] at alone its
      omega
    · simp only [elsewhere.1, elsewhere.2, and_false, if_false] at alone its
      omega

theorem apply_of_blocks (contracts : Contracts) (blocked : l.Blocks step.edge) :
    l.apply caller (Call.ofStep contracts step) = .error .reverted := by
  obtain ⟨id, listed, key⟩ := blocked
  have action : (Action.ofStep contracts step).2 = .take id step.amountOut := by
    unfold Edge.key at key
    rw [Action.ofStep]
    split at key <;> rename_i terms
    · cases key
    · cases key
      rw [terms]
  have contained : l.blocked.contains id = true := by simpa using listed
  rw [Call.ofStep, apply, action]
  simp only [act, take, contained]
  rfl

theorem StopsAt.zero {call : Call} {calls : List Call}
    (reverts : l.apply caller call = .error .reverted) : l.StopsAt caller (call :: calls) 0 l :=
  ⟨by rw [List.take_zero, applyAll], call, rfl, reverts⟩

theorem StopsAt.succ {call : Call} {calls : List Call} {i : Nat} {l₁ l' : Ledger}
    (first : l.apply caller call = .ok l₁) (later : l₁.StopsAt caller calls i l') :
    l.StopsAt caller (call :: calls) (i + 1) l' := by
  obtain ⟨applied, next, listed, reverts⟩ := later
  refine ⟨?_, next, listed, reverts⟩
  rw [List.take_succ_cons, applyAll_cons, first]
  exact applied

/-- What both accounts hold decides in the same way whether they can pay. -/
theorem Shared.affords_iff (shared : Shared tokens trader executor l m)
    (approved : l.Approved trader) (approved' : m.Approved executor) (honours : l.Honours d step)
    (fits : step.Fits) (listed : step.source.address ∈ tokens)
    (held : step.amountIn ≤ m.balance step.source.address executor ∨
      (m.balance step.source.address trader).raw = 0) :
    l.Affords trader d ↔ m.Affords executor d := by
  have honours' := shared.market.honours honours
  have together := shared.together _ listed
  have cost : d.cost.raw ≤ step.amountIn.raw := honours.cost_le
  rw [honours.affords_iff approved fits, honours'.affords_iff approved' fits, honours.paid]
  simp only [Amount.le_def] at held ⊢
  omega

/-- The calls of a relay go through for both accounts, or stop for both. -/
theorem lockstep_of_relay {t : Tokens} {first last : Address} {x y : Wad}
    (relay : Relay t first x steps last y) (contracts : Contracts) (same : l.tokens = t)
    (apart : trader ≠ executor) (shared : Shared tokens trader executor l m)
    (sound : l.Sound) (sound' : m.Sound) (approved : l.Approved trader)
    (approved' : m.Approved executor) (tradable : l.Tradable steps)
    (none : MakesNone l.orders executor)
    (listed : ∀ step ∈ steps, step.source.address ∈ tokens ∧ step.target.address ∈ tokens)
    (held : x ≤ m.balance first executor ∨ (m.balance first trader).raw = 0) :
    (∃ l' m', l.applyAll trader (steps.map (Call.ofStep contracts)) = .ok l' ∧
      m.applyAll executor (steps.map (Call.ofStep contracts)) = .ok m' ∧
      Shared tokens trader executor l' m') ∨
    ∃ i l', i < steps.length ∧ l.StopsAt trader (steps.map (Call.ofStep contracts)) i l' ∧
      m.applyAll executor (steps.map (Call.ofStep contracts)) = .error .reverted := by
  induction relay generalizing l m with
  | nil token x => exact .inl ⟨l, m, by rw [List.map_nil, applyAll], by rw [List.map_nil, applyAll],
      shared⟩
  | @cons step steps last y sized rest ih =>
      subst same
      have here := List.mem_cons_self (a := step) (l := steps)
      have stops (reverts : l.apply trader (Call.ofStep contracts step) = .error .reverted)
          (reverts' : m.apply executor (Call.ofStep contracts step) = .error .reverted) :
          ∃ i l', i < (step :: steps).length ∧
            l.StopsAt trader ((step :: steps).map (Call.ofStep contracts)) i l' ∧
            m.applyAll executor ((step :: steps).map (Call.ofStep contracts)) = .error .reverted := by
        refine ⟨0, l, Nat.succ_pos _, .zero reverts, ?_⟩
        rw [List.map_cons, applyAll_cons, reverts']
        rfl
      by_cases blocked : l.Blocks step.edge
      · have blocked' := shared.market.blocks blocked
        exact .inr (stops (apply_of_blocks contracts blocked) (apply_of_blocks contracts blocked'))
      obtain ⟨d, deal, honours⟩ := (tradable.offers step here).exists_deal sized blocked contracts
      have deal' := (shared.market.deal? _).trans deal
      have afford := shared.affords_iff approved approved' honours (tradable.fits step here)
        (listed step here).1 held
      have performs := apply_ofStep trader sound deal
      have performs' := apply_ofStep executor sound' deal'
      by_cases can : l.Affords trader d
      · have can' := afford.mp can
        have paid : d.paid ∈ tokens := honours.paid ▸ (listed step here).1
        have got : d.got ∈ tokens := honours.got ▸ (listed step here).2
        have honours' := shared.market.honours honours
        have next := ih (by rw [exchange_eq])
          (shared.exchange apart can can' (payee_of_deal? none deal) paid got)
          (sound.exchange deal can) (sound'.exchange deal' can') (approved.exchange trader d)
          (approved'.exchange executor d) (tradable.exchange sound.filed contracts deal)
          (makesNone_of_deal? none deal) (fun later h => listed later (List.mem_cons_of_mem _ h))
          (.inl (honours'.amountOut_le can'))
        rw [perform_of_affords can] at performs
        rw [perform_of_affords can'] at performs'
        rcases next with ⟨l', m', applied, applied', shared'⟩ | ⟨i, l', bound, stopped, reverted⟩
        · refine .inl ⟨l', m', ?_, ?_, shared'⟩
          · rw [List.map_cons, applyAll_cons, performs]
            exact applied
          · rw [List.map_cons, applyAll_cons, performs']
            exact applied'
        · refine .inr ⟨i + 1, l', Nat.succ_lt_succ bound, .succ performs stopped, ?_⟩
          rw [List.map_cons, applyAll_cons, performs']
          exact reverted
      · have cannot' := mt afford.mpr can
        rw [perform_of_not_affords can] at performs
        rw [perform_of_not_affords cannot'] at performs'
        exact .inr (stops performs performs')

end Ledger

end Arbitrage
