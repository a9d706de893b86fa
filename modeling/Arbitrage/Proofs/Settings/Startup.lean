import Arbitrage.Proofs.Keeper.Watch
import Arbitrage.Proofs.Market.Naming
import Arbitrage.Proofs.Settings.Options

/-!
# Starting with checked options

Limits are checked again wherever a strategy, a submitter and a keeper are put together. Settings
that passed the check of the options pass all of these, whatever the tokens are, once the base asset
is found among them. From then on the keeper is `Ready`, and stays so: taking a snapshot cannot fail
for the base asset, and only the source of blocks and the graph of the market can end the watch.
-/

namespace Arbitrage

open Process

section Assembly

variable {υ κ : Type} {s : Settings υ κ} {t : Tokens} {strategy : Strategy} {submitter : Submitter}

theorem Settings.strategy_eq (engagement : 0 < s.maxEngagement.raw) (least : 2 ≤ s.maxDepth)
    (most : s.maxDepth ≤ 6) (base : Address) : s.strategy base =
      .ok ⟨base, s.minProfit, s.maxEngagement, s.maxDepth, s.contracts.batchExecutor.isSome⟩ := by
  have positive := Options.checkEngagement_eq_ok_iff.mpr engagement
  have inside := Options.checkDepth_eq_ok_iff.mpr ⟨least, most⟩
  simp only [strategy, Strategy.make, Strategy.withMaxDepth, positive, inside]
  rfl

theorem Mode.select_isSome (contracts : Contracts) :
    select contracts contracts.batchExecutor.isSome =
      contracts.batchExecutor.elim .direct .batched := by
  rw [select]
  cases contracts.batchExecutor <;> rfl

/-- A submitter that is batched exactly if it can be has nothing to report. -/
theorem Submitter.assemble_eq (account : Address) (tokens : Tokens) (contracts : Contracts)
    (patience : Patience) :
    assemble (some account) (some tokens) (some contracts) contracts.batchExecutor.isSome patience =
      pure ⟨account, tokens, contracts, contracts.batchExecutor.elim .direct .batched, patience⟩ := by
  simp only [assemble, Mode.select_isSome]
  cases contracts.batchExecutor <;> rfl

theorem Keeper.assemble_eq (known : t.contains strategy.base = true) (patience : Patience) :
    assemble true (some submitter) (some strategy) (some t) patience =
      .ok { submitter, strategy, tokens := t, patience } := by
  simp only [assemble, known]
  rfl

end Assembly

section Readiness

variable {state : MarketState} {strategy : Strategy} {tokens : Tokens} {refused : MarketError}

/-- With the base asset among the tokens, only the price feed or the graph keeps a snapshot from being
taken. -/
theorem Snapshot.cause_of_take (known : tokens.contains strategy.base = true)
    (failed : take state strategy tokens = .error refused) :
    refused = .staleFeed ∨ ∃ fault, refused = .graph fault := by
  have graphs {α : Type} {x : Except GraphError α} {e : MarketError}
      (failed : x.mapError MarketError.graph = .error e) : ∃ fault, e = .graph fault := by
    obtain ⟨fault, -, rfl⟩ := mapError_eq_error_iff.mp failed
    exact ⟨fault, rfl⟩
  rw [take, if_pos known] at failed
  rcases of_bind_eq_error failed with offered | ⟨fixed, -, failed⟩
  · rw [Vault.fixedEdges] at offered
    split at offered <;> cases offered
    exact .inl rfl
  rcases of_bind_eq_error failed with unbuilt | ⟨candidate, -, failed⟩
  · exact .inr (graphs unbuilt)
  rcases of_bind_eq_error failed with unnamed | ⟨base, -, failed⟩
  · exact .inr (graphs unnamed)
  rcases of_bind_eq_error failed with unbuilt | ⟨graph, -, failed⟩
  · exact .inr (graphs unbuilt)
  · cases failed

/-- The base asset of a keeper is one of its tokens. -/
def Keeper.Ready (k : Keeper) : Prop := k.tokens.contains k.strategy.base = true

variable {k k' : Keeper} {block : Nat} {d : World.Dialogue} {e : Failure}

/-- Only the graph of the market makes a ready keeper fail at a block. -/
theorem Keeper.Ready.cause (ready : k.Ready)
    (course : (k.processBlock block).Course d (.error e, k')) :
    ∃ fault, e = .market (.graph fault) := by
  obtain ⟨state, refused, failed, unstale, rfl⟩ := (settles_of_course course).fatal e rfl
  rcases Snapshot.cause_of_take ready failed with stale | ⟨fault, rfl⟩
  · exact absurd stale unstale
  · exact ⟨fault, rfl⟩

namespace Watch

variable {σ : Type} {next : BlockSource σ} {w w' : Watch σ} {stop : Option Failure}
  {news : Option (Except Failure Tick)} {worked : Option (Nat × Except Failure Outcome)}
  {history : List (Poll σ)}

theorem Acts.ready (acts : Acts k news d worked stop k') (ready : k.Ready) : k'.Ready := by
  rw [acts.keeper_eq]
  exact ready

theorem Acts.cause (acts : Acts k news d worked (some e) k') (ready : k.Ready) :
    news = some (.error e) ∨ ∃ fault, e = .market (.graph fault) := by
  generalize stop_eq : some e = stop at acts
  cases acts with
  | idle | passed | paused => cases stop_eq
  | @worked tick _ outcome _ new course =>
      cases outcome with
      | ok => cases stop_eq
      | error failure =>
          cases stop_eq
          exact .inr (ready.cause course)
  | ended permanent =>
      cases stop_eq
      exact .inl rfl

/-- A keeper that is ready when a watch begins is ready at every poll, so that only its source and
the graph of the market can end the watch. -/
theorem Run.cause (run : Run next w history (some e) w') (ready : w.keeper.Ready) :
    (∃ source asking after, (next source).Course asking (some (.error e), after)) ∨
      ∃ fault, e = .market (.graph fault) := by
  generalize stop_eq : some e = stop at run
  induction run with
  | rest w => cases stop_eq
  | @ended p failure sound failed =>
      cases stop_eq
      have acted := sound.acted
      rw [failed] at acted
      refine (acted.cause ready).imp_left fun told => ?_
      have asked := sound.asked
      rw [told] at asked
      exact ⟨_, _, _, asked⟩
  | onwards sound unfailed later ih => exact ih (sound.acted.ready ready) stop_eq

end Watch

end Readiness

namespace Options

/-- However web addresses are read and whatever signers there are: the check succeeds exactly if every
item of the options is sound, and otherwise reports the first that is not. With what passed it, and any
base asset that a name means among any tokens, a strategy, a submitter and a keeper are put together
without fail; the submitter is batched exactly if a batch executor is given; and from then on no error
is about the base asset or another option. -/
theorem check_sufficient {υ κ : Type} (urls : UrlReader υ) (signers : Signers κ) (o : Options) :
    ((∃ s, o.check urls signers = .ok s) ↔ ∀ i, o.Sound urls signers i) ∧
    (∀ e, o.check urls signers = .error e → ∃ before i after, Item.all = before ++ i :: after ∧
      (∀ j ∈ before, o.Sound urls signers j) ∧ ¬ o.Sound urls signers i ∧ e.option = i.name) ∧
    ∀ s, o.check urls signers = .ok s → ∀ (t : Tokens) (name : String) (base : Address),
      t.resolveBase name = .ok base → (base = t.gem ∨ base = t.skr ∨ base = t.sai) ∧
      ∃ strategy submitter keeper,
        s.strategy base = .ok strategy ∧
        Submitter.assemble (some s.account) (some t) (some s.contracts) strategy.batch s.patience =
          pure submitter ∧
        Keeper.assemble true (some submitter) (some strategy) (some t) s.patience = .ok keeper ∧
        strategy.base = base ∧ keeper.strategy = strategy ∧ keeper.submitter = submitter ∧
        (submitter.mode.isBatched = true ↔
          ∃ text, o.batchExecutorAddress = some text ∧ Given text) ∧
        (∀ executor, submitter.mode = .batched executor ↔ ∃ text,
          o.batchExecutorAddress = some text ∧ Given text ∧
            Address.parse (Text.trim text) = .ok executor) ∧
        (∀ state asset, Snapshot.take state strategy t ≠ .error (.unknownBaseAsset asset)) ∧
        (∀ block d e keeper', (keeper.processBlock block).Course d (.error e, keeper') →
          ∃ fault, e = .market (.graph fault)) ∧
        ∀ (σ : Type) (next : BlockSource σ) (source : σ) (polls : Nat) d e w',
          (Watch.follow next polls ⟨keeper, source, 0⟩).Course d (some e, w') →
            (∃ source asking after, (next source).Course asking (some (.error e), after)) ∨
              ∃ fault, e = .market (.graph fault) := by
  refine ⟨exists_check_iff, fun e => exists_first_of_check, fun s done t name base found => ?_⟩
  obtain ⟨engagement, least, most, executor⟩ := limits_of_check done
  have known := Tokens.contains_of_resolveBase found
  refine ⟨Tokens.contains_iff.mp known, _, _, _, s.strategy_eq engagement least most base,
    Submitter.assemble_eq .., Keeper.assemble_eq known _, rfl, rfl, rfl, ?batched, ?executor,
    ?snapshot, ?block, ?watch⟩
  case batched =>
    rw [← isSome_batchExecutor_iff executor]
    cases s.contracts.batchExecutor <;> simp [Mode.isBatched]
  case executor =>
    intro address
    rw [← batchExecutor_eq_ok_some_iff, executor, Except.ok.injEq]
    cases s.contracts.batchExecutor <;> simp
  case snapshot =>
    intro state asset failed
    rcases Snapshot.cause_of_take known failed with stale | ⟨fault, graph⟩
    · cases stale
    · cases graph
  case block =>
    intro block d e keeper' course
    refine Keeper.Ready.cause ?_ course
    exact known
  case watch =>
    intro σ next source polls d e w' course
    obtain ⟨history, -, run, -⟩ := Watch.course_follow course
    exact run.cause known

/-- Without any options the first of them is missing, and the last is named if it alone is wrong. With
those of the sample, whose key is the least one there is, a batched keeper is ready. -/
theorem check_sufficient_sample :
    (({} : Options).check verbatim leastKey = .error (.missing "rpc_url") ∧
      ∃ before i after, Item.all = before ++ i :: after ∧
        (∀ j ∈ before, ({} : Options).Sound verbatim leastKey j) ∧
        ¬ ({} : Options).Sound verbatim leastKey i ∧ "rpc_url" = i.name) ∧
    ({ sample with pollIntervalMs := 0 }.check verbatim leastKey =
        .error (.invalid "poll_interval_ms" "must be greater than zero") ∧
      ∃ before i after, Item.all = before ++ i :: after ∧
        (∀ j ∈ before, { sample with pollIntervalMs := 0 }.Sound verbatim leastKey j) ∧
        ¬ { sample with pollIntervalMs := 0 }.Sound verbatim leastKey i ∧
        "poll_interval_ms" = i.name) ∧
    ∃ s, sample.check verbatim leastKey = .ok s ∧
      Tokens.resolveBase ⟨.repeated 1, .repeated 2, .repeated 3⟩ "SAI " = .ok (.repeated 3) ∧
      ∃ strategy submitter keeper, s.strategy (.repeated 3) = .ok strategy ∧
        Submitter.assemble (some s.account) (some ⟨.repeated 1, .repeated 2, .repeated 3⟩)
          (some s.contracts) strategy.batch s.patience = pure submitter ∧
        Keeper.assemble true (some submitter) (some strategy)
          (some ⟨.repeated 1, .repeated 2, .repeated 3⟩) s.patience = .ok keeper ∧
        submitter.mode.isBatched = true := by
  have blank : ({} : Options).check verbatim leastKey = .error (.missing "rpc_url") := rfl
  have idle : { sample with pollIntervalMs := 0 }.check verbatim leastKey =
      .error (.invalid "poll_interval_ms" "must be greater than zero") :=
    discard_eq_error_iff.mp (by decide +kernel)
  refine ⟨⟨blank, (check_sufficient _ _ {}).2.1 _ blank⟩,
    ⟨idle, (check_sufficient _ _ { sample with pollIntervalMs := 0 }).2.1 _ idle⟩, ?_⟩
  have sufficient := check_sufficient verbatim leastKey sample
  obtain ⟨s, done⟩ := sufficient.1.mpr sound_sample
  have found : Tokens.resolveBase ⟨.repeated 1, .repeated 2, .repeated 3⟩ "SAI " =
      .ok (.repeated 3) := by decide +kernel
  obtain ⟨-, strategy, submitter, keeper, planned, joined, built, -, -, -, batched, -⟩ :=
    sufficient.2.2 s done _ _ _ found
  exact ⟨s, done, found, strategy, submitter, keeper, planned, joined, built,
    batched.mpr ⟨_, rfl, by decide +kernel⟩⟩

end Options

end Arbitrage
