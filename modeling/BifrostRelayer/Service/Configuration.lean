import BifrostRelayer.Evm.EventManager
import BifrostRelayer.SocketRelay.Direction

/-!
# The configuration of the relayer

`assert_configuration_validity` is the first thing that `relay` does.  It panics on a numeric
parameter that is out of its range.  `Configuration.Valid` says what the ranges are, and
`assertConfigurationValidity_ok` that exactly the valid configurations pass.

A provider of a configuration that has passed gets batches of at least one block
(`Valid.batchSize_bounds`), and its confirmations are added up without saturation
(`Valid.confirmations_eq`).
-/

namespace BifrostRelayer

namespace Service

/-! ### The configuration -/

/-- What is read of an `EVMProvider` when the relayer starts. -/
structure EvmProvider extends SocketRelay.EvmProvider where
  callInterval : ℕ
  blockConfirmations : ℕ
  getLogsBatchSize : Option ℕ
deriving DecidableEq

/-- `HandlerType`. -/
inductive HandlerType where
  | socket
  | roundup
deriving DecidableEq

/-- `HandlerConfig`. -/
structure HandlerConfig where
  handlerType : HandlerType
  watchList : List ChainId

/-- What is checked of a `BootstrapConfig`. -/
structure BootstrapConfig where
  roundOffset : Option ℕ

/-- What is read of a `Configuration`. -/
structure Configuration where
  bootstrapConfig : Option BootstrapConfig
  evmProviders : List EvmProvider
  handlerConfigs : List HandlerConfig

/-- The providers, as the clients see them. -/
def Configuration.providers (config : Configuration) : List SocketRelay.EvmProvider :=
  config.evmProviders.map EvmProvider.toEvmProvider

/-! ### The ranges -/

/-- `DEFAULT_BOOTSTRAP_ROUND_OFFSET`. -/
def defaultBootstrapRoundOffset : ℕ := 3

/-- `MAX_BOOTSTRAP_ROUND_OFFSET`. -/
def maxBootstrapRoundOffset : ℕ := 14

/-- `DEFAULT_GET_LOGS_BATCH_SIZE`. -/
def defaultGetLogsBatchSize : ℕ := 1

/-- `MIN_GET_LOGS_BATCH_SIZE`. -/
def minGetLogsBatchSize : ℕ := 1

/-- `MAX_CALL_INTERVAL_MS`. -/
def maxCallIntervalMs : ℕ := 60000

/-- `MAX_BLOCK_CONFIRMATIONS`. -/
def maxBlockConfirmations : ℕ := 100

/-- `PARAMETER_OUT_OF_RANGE`. -/
def parameterOutOfRange : String :=
  "An invalid parameter is out of range. Please check your configuration file."

/-- What the division by a zero interval says. -/
def divisionByZero : String := "attempt to divide by zero"

/-- The message of a failed assertion; some of them name a default. -/
def outOfRange (parameter : String) (low high : ℕ) (default : Option ℕ) : String :=
  parameterOutOfRange ++ " [parameter: " ++ parameter ++ ", range: " ++ toString low ++ "…" ++
    toString high ++ (default.elim "" fun n => ", default: " ++ toString n) ++ "]"

/-- `assert!`, with the message of the panic. -/
def assertThat (condition : Prop) [Decidable condition] (message : String) : Except String Unit :=
  if condition then .ok () else .error message

/-- The assertion on the bootstrap configuration. -/
def assertBootstrapConfig (bootstrapConfig : Option BootstrapConfig) : Except String Unit :=
  match bootstrapConfig.bind BootstrapConfig.roundOffset with
  | some roundOffset =>
      assertThat (1 ≤ roundOffset ∧ roundOffset ≤ maxBootstrapRoundOffset)
        (outOfRange "bootstrap_config.round_offset" 1 maxBootstrapRoundOffset
          (some defaultBootstrapRoundOffset))
  | none => .ok ()

/-- The assertion on a batch size.  The interval has passed its own assertion, but it may be zero. -/
def assertBatchSize (callInterval getLogsBatchSize : ℕ) : Except String Unit :=
  if callInterval = 0 then .error divisionByZero
  else
    let maxGetLogsBatchSize := maxCallIntervalMs / callInterval
    assertThat (minGetLogsBatchSize ≤ getLogsBatchSize ∧ getLogsBatchSize ≤ maxGetLogsBatchSize)
      (outOfRange "evm_provider.get_logs_batch_size" minGetLogsBatchSize maxGetLogsBatchSize
        (some defaultGetLogsBatchSize))

/-- The assertions on a provider. -/
def assertEvmProvider (p : EvmProvider) : Except String Unit := do
  assertThat (p.callInterval ≤ maxCallIntervalMs)
    (outOfRange "evm_provider.call_interval" 0 maxCallIntervalMs none)
  assertThat (p.blockConfirmations ≤ maxBlockConfirmations)
    (outOfRange "evm_provider.block_confirmations" 0 maxBlockConfirmations none)
  match p.getLogsBatchSize with
  | some getLogsBatchSize => assertBatchSize p.callInterval getLogsBatchSize
  | none => .ok ()

/-- `assert_configuration_validity`, with the message of the panic. -/
def assertConfigurationValidity (config : Configuration) : Except String Unit := do
  assertBootstrapConfig config.bootstrapConfig
  config.evmProviders.forM assertEvmProvider

/-! ### Valid configurations -/

/-- The parameters of a provider are in their ranges: a batch that is asked for in every interval
leaves no more than a minute for its blocks. -/
structure EvmProvider.Valid (p : EvmProvider) : Prop where
  callInterval : p.callInterval ≤ maxCallIntervalMs
  blockConfirmations : p.blockConfirmations ≤ maxBlockConfirmations
  batch : ∀ size, p.getLogsBatchSize = some size →
    0 < p.callInterval ∧ minGetLogsBatchSize ≤ size ∧ size * p.callInterval ≤ maxCallIntervalMs

/-- All parameters are in their ranges. -/
structure Configuration.Valid (config : Configuration) : Prop where
  roundOffset : ∀ bootstrap, config.bootstrapConfig = some bootstrap →
    ∀ offset, bootstrap.roundOffset = some offset → 1 ≤ offset ∧ offset ≤ maxBootstrapRoundOffset
  provider : ∀ p ∈ config.evmProviders, p.Valid

lemma assertThat_ok {condition : Prop} [Decidable condition] {message : String} :
    assertThat condition message = .ok () ↔ condition := by
  unfold assertThat
  split <;> simp_all

/-- Two assertions in a row. -/
lemma assert_bind_ok {x : Except String Unit} {f : Unit → Except String Unit} :
    (x >>= f) = .ok () ↔ x = .ok () ∧ f () = .ok () := by
  rw [Fallible.bind_eq_ok]
  exact ⟨fun ⟨_, h⟩ => h, fun h => ⟨(), h⟩⟩

lemma assertBootstrapConfig_ok {bootstrapConfig : Option BootstrapConfig} :
    assertBootstrapConfig bootstrapConfig = .ok () ↔
      ∀ bootstrap, bootstrapConfig = some bootstrap → ∀ offset, bootstrap.roundOffset = some offset →
        1 ≤ offset ∧ offset ≤ maxBootstrapRoundOffset := by
  rcases bootstrapConfig with _ | ⟨_ | offset⟩
  · simp [assertBootstrapConfig]
  · simp [assertBootstrapConfig]
  · simp [assertBootstrapConfig, assertThat_ok]

/-- The bound on the batch size, without the division. -/
lemma assertBatchSize_ok {callInterval size : ℕ} :
    assertBatchSize callInterval size = .ok () ↔
      0 < callInterval ∧ minGetLogsBatchSize ≤ size ∧ size * callInterval ≤ maxCallIntervalMs := by
  unfold assertBatchSize
  split
  next hzero => simp [hzero]
  next hzero =>
    have hpos : 0 < callInterval := Nat.pos_of_ne_zero hzero
    rw [assertThat_ok, Nat.le_div_iff_mul_le hpos]
    exact ⟨fun h => ⟨hpos, h⟩, fun h => h.2⟩

lemma assertEvmProvider_ok {p : EvmProvider} : assertEvmProvider p = .ok () ↔ p.Valid := by
  have hbatch : (match p.getLogsBatchSize with
      | some size => assertBatchSize p.callInterval size
      | none => .ok ()) = .ok () ↔
      ∀ size, p.getLogsBatchSize = some size →
        0 < p.callInterval ∧ minGetLogsBatchSize ≤ size ∧
          size * p.callInterval ≤ maxCallIntervalMs := by
    cases p.getLogsBatchSize with
    | none => simp
    | some size => simp [assertBatchSize_ok]
  unfold assertEvmProvider
  rw [assert_bind_ok, assert_bind_ok, assertThat_ok, assertThat_ok, hbatch]
  constructor
  · rintro ⟨hinterval, hconfirmations, hsize⟩
    exact ⟨hinterval, hconfirmations, hsize⟩
  · rintro ⟨hinterval, hconfirmations, hsize⟩
    exact ⟨hinterval, hconfirmations, hsize⟩

/-- A list of assertions passes when each of them does. -/
lemma forM_ok {α : Type} {f : α → Except String Unit} {l : List α} :
    l.forM f = .ok () ↔ ∀ a ∈ l, f a = .ok () := by
  induction l with
  | nil => simp [pure, Except.pure]
  | cons a l ih =>
    show (f a >>= fun _ => l.forM f) = .ok () ↔ _
    rw [assert_bind_ok, List.forall_mem_cons, ih]

/-- Exactly the valid configurations pass. -/
lemma assertConfigurationValidity_ok {config : Configuration} :
    assertConfigurationValidity config = .ok () ↔ config.Valid := by
  unfold assertConfigurationValidity
  rw [assert_bind_ok, assertBootstrapConfig_ok, forM_ok]
  simp only [assertEvmProvider_ok]
  constructor
  · rintro ⟨hoffset, hproviders⟩
    exact ⟨hoffset, hproviders⟩
  · rintro ⟨hoffset, hproviders⟩
    exact ⟨hoffset, hproviders⟩

/-! ### What the clients make of it -/

namespace EvmProvider

variable {p : EvmProvider}

/-- `get_logs_batch_size` of `ProviderMetadata::new`. -/
def batchSize (p : EvmProvider) : ℕ := p.getLogsBatchSize.getD defaultGetLogsBatchSize

/-- `block_confirmations` of `ProviderMetadata::new`. -/
def confirmations (p : EvmProvider) : ℕ := saturatingAdd p.blockConfirmations p.batchSize

/-- The parameters of the event manager of the provider. -/
def eventConfig (p : EvmProvider) (isBalanceSyncEnabled : Bool) : Evm.EventConfig :=
  ⟨p.batchSize, isBalanceSyncEnabled⟩

/-- The timer of the event manager and of the socket relay handler: `tokio::time::interval` panics
on a zero interval. -/
def timer (p : EvmProvider) : Except String ℕ :=
  if p.callInterval = 0 then .error "`period` must be non-zero." else .ok p.callInterval

lemma exists_timer_iff (p : EvmProvider) :
    (∃ period, p.timer = .ok period) ↔ 0 < p.callInterval := by
  unfold timer
  split
  next hzero => simp [hzero]
  next hzero => simp [Nat.pos_of_ne_zero hzero]

/-- The batches that are fetched in one interval span at most a minute. -/
lemma Valid.batchSize_bounds (h : p.Valid) :
    1 ≤ p.batchSize ∧ p.batchSize * p.callInterval ≤ maxCallIntervalMs := by
  unfold batchSize
  cases hsize : p.getLogsBatchSize with
  | none => simpa [defaultGetLogsBatchSize] using h.callInterval
  | some size =>
    obtain ⟨-, hmin, hmax⟩ := h.batch size hsize
    exact ⟨hmin, hmax⟩

/-- The batch of a valid provider is never longer than a minute has milliseconds. -/
lemma Valid.batchSize_le (h : p.Valid) : p.batchSize ≤ maxCallIntervalMs := by
  cases hsize : p.getLogsBatchSize with
  | none => simp [batchSize, hsize, defaultGetLogsBatchSize, maxCallIntervalMs]
  | some size =>
    obtain ⟨hpos, -, hmax⟩ := h.batch size hsize
    calc p.batchSize = size := by simp [batchSize, hsize]
      _ ≤ size * p.callInterval := Nat.le_mul_of_pos_right size hpos
      _ ≤ maxCallIntervalMs := hmax

/-- The confirmations of a valid provider are added up without saturation. -/
lemma Valid.confirmations_eq (h : p.Valid) :
    p.confirmations = p.blockConfirmations + p.batchSize := by
  have hbatch := h.batchSize_le
  have hconfirmations := h.blockConfirmations
  refine saturatingAdd_of_le ?_
  simp only [maxBlockConfirmations, maxCallIntervalMs] at hbatch hconfirmations
  unfold u64Max
  omega

/-- The only way in which a valid provider has no timer is a zero interval, and then it has the
default batch size. -/
lemma Valid.timer_error_iff (h : p.Valid) :
    (∃ message, p.timer = .error message) ↔ p.callInterval = 0 ∧ p.getLogsBatchSize = none := by
  unfold timer
  split
  next hzero =>
    refine ⟨fun _ => ⟨hzero, ?_⟩, fun _ => ⟨_, rfl⟩⟩
    cases hsize : p.getLogsBatchSize with
    | none => rfl
    | some size => exact absurd (h.batch size hsize).1 (by omega)
  next hzero => simp [hzero]

end EvmProvider

end Service

end BifrostRelayer
