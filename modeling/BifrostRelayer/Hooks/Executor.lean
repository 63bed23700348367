import BifrostRelayer.Foundation.Fallible
import BifrostRelayer.Foundation.Words
import BifrostRelayer.Primitives.Socket

/-!
# The hook executor

A bridge request can carry a hook: a message that `Hooks.execute` delivers on the destination chain
once the transfer is executed there.  The relayer pays the gas, and takes a fee in the bridged asset
that the user has limited.  `estimate_hook_gas` estimates the gas, converts its cost with two oracle
prices into the bridged asset, and compares it with the limits of the user and of the operator;
`execute_hook` submits the transaction with the estimated fee and gas, or skips it.

The estimation has many exits.  Here an exit is either a skip, which the source writes as
`Ok((0, 0))`, or an error.  The powers of ten are a parameter of the computation, so that it can be
compared with one that reports their overflow; the code is at `pow10`.
-/

namespace BifrostRelayer

namespace Hooks

open Fallible SolidityAbi Words

/-- `U256`. -/
abbrev U256 : Type := BitVec 256

/-! ### What the calls return -/

/-- The error of a call to the node. -/
structure TransportError where
  text : String
  /-- `as_error_resp`: the node has answered with an error, maybe with the data of a revert. -/
  errorResp : Option (Option (List UInt8))
deriving DecidableEq

/-- `Oracle_Manager_Source`, as far as it is read. -/
structure OracleInfo where
  data : B256
  time : UInt64
deriving DecidableEq

/-- `latestRoundData`, as far as it is read. -/
structure RoundData where
  /-- An `int256`. -/
  answer : BitVec 256
  updatedAt : U256
deriving DecidableEq

/-- `assets_config`, as far as it is read. -/
structure AssetConfig where
  unified : Address
  target : Address
deriving DecidableEq

/-- The replies to the calls of one execution. -/
structure HookReplies where
  /-- `estimate_gas` of `Hooks.execute` with a fee. -/
  estimateGas : U256 → SocketMessage → Except TransportError UInt64
  /-- `get_gas_price`, in the estimation. -/
  gasPrice : Except Report (BitVec 128)
  /-- `orc_manager` of the socket contract. -/
  orcManager : Except Report Address
  /-- `get_oracle_oid_for_chain`. -/
  oracleOidForChain : ChainId → Except Report (Option B256)
  /-- `fetch_asset_id_from_relay_queue`. -/
  assetId : B256 → Except Report (Option Address)
  remoteAssetPair : B256 → Except Report B256
  assetsConfig : B256 → Except Report AssetConfig
  erc20Decimals : Address → Except Report UInt8
  /-- `get_oracle_oid_for_asset`. -/
  oracleOidForAsset : Address → Except Report (Option B256)
  /-- The time in seconds. -/
  now : UInt64
  /-- `last_oracle_info` of an oracle manager. -/
  lastOracleInfo : Address → B256 → Except Report OracleInfo
  /-- `fetch_aggregator_info`: the address and the decimals. -/
  aggregatorInfo : Address → Except Report (Option (Address × UInt8))
  /-- `latestRoundData` of an aggregator. -/
  latestRoundData : Address → Except Report RoundData
  /-- `get_gas_price`, when the transaction is sent. -/
  sendGasPrice : Except Report (BitVec 128)

/-- The client of the destination chain. -/
structure HookClient where
  chainId : ChainId
  address : Address
  /-- A hooks contract is configured. -/
  hasHooks : Bool
  maxHookFee : Option U256
  isRelayTarget : Bool
  isNative : Bool
  eip1559 : Bool

/-- `Variants`. -/
structure Variants where
  sender : Address
  receiver : Address
  refund : Address
  maxTxFee : U256
  message : Bytes
deriving DecidableEq

/-! ### Exits -/

/-- How the estimation can end early. -/
inductive Exit where
  /-- `Ok((0, 0))`: the hook is not executed. -/
  | skip
  | error (report : Report)
  /-- A power of ten that does not fit, where this is reported. -/
  | powerOverflow
deriving DecidableEq

/-- The operator `?`. -/
def orReturn {α : Type} : Except Report α → Except Exit α
  | .ok a => .ok a
  | .error report => .error (.error report)

/-- `ok_or` with an error text, and the operator `?`. -/
def okOr {α : Type} (text : String) : Option α → Except Exit α
  | some a => .ok a
  | none => .error (.error ⟨text⟩)

/-- The value, or a skip. -/
def orSkip {α : Type} : Option α → Except Exit α
  | some a => .ok a
  | none => .error .skip

/-- A power of ten. -/
def orPowerOverflow {α : Type} : Option α → Except Exit α
  | some a => .ok a
  | none => .error .powerOverflow

/-- `U256::from(10u64).pow`, which wraps around. -/
def pow10 (n : ℕ) : Option U256 := some (wrappingPow 10 n)

/-- The power of ten with its overflow reported. -/
def checkedPow10 (n : ℕ) : Option U256 := checkedPow 10 n

/-! ### The gas -/

/-- The text has the pattern in it. -/
def containsText (text pattern : String) : Bool := decide (pattern.toList <:+: text.toList)

/-- `is_revert`. -/
def TransportError.isRevert (e : TransportError) : Bool :=
  match e.errorResp with
  | some revertData => revertData.isSome
  | none => containsText e.text "execution reverted" || containsText e.text "revert"

/-- The gas of the transaction; a revert is a skip. -/
def estimateGas (r : HookReplies) (maxTxFee : U256) (msg : SocketMessage) : Except Exit UInt64 :=
  match r.estimateGas maxTxFee msg with
  | .ok gas => .ok gas
  | .error e => if e.isRevert then .error .skip else .error (.error ⟨e.text⟩)

/-- `estimated_fee_in_dnc`. -/
def estimatedFeeInDnc (gas : UInt64) (gasPrice : BitVec 128) : Except Exit U256 :=
  okOr ("Gas fee calculation overflow: gas=" ++ toString gas.toNat ++ ", gas_price=" ++
    toString gasPrice.toNat) (checkedMul (.ofNat 256 gas.toNat) (gasPrice.setWidth 256))

/-- The limit of the operator. -/
def checkMaxHookFee (client : HookClient) (fee : U256) : Except Exit Unit :=
  match client.maxHookFee with
  | some maxHookFee => if maxHookFee < fee then .error .skip else .ok ()
  | none => .ok ()

/-! ### The prices -/

/-- `CHAINLINK_STALENESS_THRESHOLD_VOLATILE`. -/
def chainlinkStalenessThresholdVolatile : ℕ := 3600

/-- `saturating_sub` of the time of a price. -/
def staleness (now time : UInt64) : ℕ := now.toNat - time.toNat

/-- `U256::from_be_bytes`. -/
def OracleInfo.price (info : OracleInfo) : U256 := .ofNat 256 (beNat info.data.val)

/-- The price of an oracle of the manager. -/
def oraclePrice (now : UInt64) : Except Report OracleInfo → Except Exit U256
  | .error _ => .error .skip
  | .ok info =>
      if chainlinkStalenessThresholdVolatile < staleness now info.time then .error .skip
      else if info.price = 0 then .error .skip
      else .ok info.price

/-- `try_into().unwrap_or_default()`. -/
def toU64OrDefault (n : U256) : UInt64 := if n.toNat < 2 ^ 64 then .ofNat n.toNat else 0

/-- The answer of the aggregator of an asset, with its decimals, behind the checks of its time and
sign. -/
def aggregatorAnswer (r : HookReplies) (assetId : Address) : Except Exit (BitVec 256 × UInt8) := do
  let info ← orReturn (r.aggregatorInfo assetId)
  let (address, decimals) ← orSkip info
  match r.latestRoundData address with
  | .error _ => .error .skip
  | .ok data =>
      if chainlinkStalenessThresholdVolatile < staleness r.now (toU64OrDefault data.updatedAt) then
        .error .skip
      else if data.answer.toInt ≤ 0 then .error .skip
      else .ok (data.answer, decimals)

/-- `normalized`: an answer on the scale of 18 decimals. -/
def normalizeAnswer (pow : ℕ → Option U256) (answer : BitVec 256) (decimals : UInt8) :
    Except Exit U256 :=
  if decimals.toNat ≤ 18 then do
    let scale ← orPowerOverflow (pow (18 - decimals.toNat))
    okOr "Oracle aggregator price normalization overflow" (checkedMul answer scale)
  else do
    let scale ← orPowerOverflow (pow (decimals.toNat - 18))
    okOr "Oracle aggregator price normalization underflow" (checkedDiv answer scale)

/-- The price of an aggregator. -/
def aggregatorPrice (pow : ℕ → Option U256) (r : HookReplies) (assetId : Address) :
    Except Exit U256 := do
  let (answer, decimals) ← aggregatorAnswer r assetId
  let normalized ← normalizeAnswer pow answer decimals
  if normalized = 0 then .error .skip else .ok normalized

/-- `B256::ZERO`. -/
def zeroOid : B256 := FixedBytes.repeatByte 32 0

/-- `bridged_price`: a zero oracle id stands for an aggregator. -/
def bridgedPrice (pow : ℕ → Option U256) (r : HookReplies) (manager assetId : Address)
    (bridgedOid : B256) : Except Exit U256 :=
  if bridgedOid = zeroOid then aggregatorPrice pow r assetId
  else oraclePrice r.now (r.lastOracleInfo manager bridgedOid)

/-! ### The fee -/

/-- `NATIVE_CURRENCY_ADDRESS`. -/
def nativeCurrencyAddress : Address := ⟨FixedBytes.repeatByte 20 0xff⟩

/-- `get_asset_address_by_index`. -/
def getAssetAddressByIndex (r : HookReplies) (index : B256) (isInbound : Bool) :
    Except Exit Address := do
  let remoteIndex ← orReturn (r.remoteAssetPair index)
  let config ← orReturn (r.assetsConfig remoteIndex)
  return if isInbound then config.unified else config.target

/-- `bridged_asset_decimals`. -/
def bridgedAssetDecimals (r : HookReplies) (bridgedAsset : Address) : Except Exit UInt8 :=
  if bridgedAsset = nativeCurrencyAddress then .ok 18 else orReturn (r.erc20Decimals bridgedAsset)

/-- What is known before the price of the bridged asset is fetched. -/
structure Quote where
  gas : UInt64
  gasPrice : BitVec 128
  /-- `estimated_fee_in_dnc`. -/
  feeInDnc : U256
  manager : Address
  assetId : Address
  /-- `bridged_asset_decimals`. -/
  decimals : UInt8
  bridgedOid : B256
  dncPrice : U256
deriving DecidableEq

/-- The first part of `estimate_hook_gas`, up to the price of the native currency. -/
def quote (client : HookClient) (r : HookReplies) (msg : SocketMessage) (maxTxFee : U256)
    (isInbound : Bool) : Except Exit Quote :=
  if msg.params.amount < maxTxFee then
    .error (.error ⟨"max_tx_fee (" ++ toString maxTxFee.toNat ++ ") exceeds bridged amount (" ++
      toString msg.params.amount.toNat ++ ")"⟩)
  else do
    let gas ← estimateGas r maxTxFee msg
    let gasPrice ← orReturn r.gasPrice
    let feeInDnc ← estimatedFeeInDnc gas gasPrice
    checkMaxHookFee client feeInDnc
    let manager ← orReturn r.orcManager
    let dncOid ← orSkip (← orReturn (r.oracleOidForChain client.chainId))
    let assetId ← orSkip (← orReturn (r.assetId msg.params.tokenIdx0))
    let bridgedAsset ← getAssetAddressByIndex r msg.params.tokenIdx0 isInbound
    let decimals ← bridgedAssetDecimals r bridgedAsset
    let bridgedOid ← orSkip (← orReturn (r.oracleOidForAsset assetId))
    let dncPrice ← oraclePrice r.now (r.lastOracleInfo manager dncOid)
    return { gas, gasPrice, feeInDnc, manager, assetId, decimals, bridgedOid, dncPrice }

/-- `fee_in_bridged_asset`. -/
def feeInBridgedAsset (pow : ℕ → Option U256) (feeInDnc dncPrice : U256) (decimals : UInt8)
    (bridgedPrice : U256) : Except Exit U256 := do
  let value ← okOr "Fee × DNC price overflow" (checkedMul feeInDnc dncPrice)
  let scale ← orPowerOverflow (pow decimals.toNat)
  let scaled ← okOr "Bridged asset decimal adjustment overflow" (checkedMul value scale)
  let amount ← okOr "Division by bridged price failed (zero?)" (checkedDiv scaled bridgedPrice)
  let unit ← orPowerOverflow (pow 18)
  okOr "DNC decimal normalization failed" (checkedDiv amount unit)

/-- The limit of the user. -/
def checkMaxTxFee (maxTxFee fee : U256) : Except Exit Unit :=
  if maxTxFee < fee then
    .error (.error ⟨"Estimated fee (" ++ toString fee.toNat ++ ") exceeds max_tx_fee (" ++
      toString maxTxFee.toNat ++ ")"⟩)
  else .ok ()

/-- `estimate_hook_gas` with its exits. -/
def estimate (pow : ℕ → Option U256) (client : HookClient) (r : HookReplies) (msg : SocketMessage)
    (maxTxFee : U256) (isInbound : Bool) : Except Exit (U256 × UInt64) := do
  let q ← quote client r msg maxTxFee isInbound
  let price ← bridgedPrice pow r q.manager q.assetId q.bridgedOid
  let fee ← feeInBridgedAsset pow q.feeInDnc q.dncPrice q.decimals price
  checkMaxTxFee maxTxFee fee
  return (fee, q.gas)

/-- `estimate_hook_gas`. -/
def estimateHookGas (client : HookClient) (r : HookReplies) (msg : SocketMessage)
    (maxTxFee : U256) (isInbound : Bool) : Except Report (U256 × UInt64) :=
  match estimate pow10 client r msg maxTxFee isInbound with
  | .ok result => .ok result
  | .error .skip => .ok (0, 0)
  | .error (.error report) => .error report
  | .error .powerOverflow => .error ⟨"power overflow"⟩

/-! ### The execution -/

/-- The transaction request of `Hooks.execute`, with its gas limit. -/
structure HookTransaction where
  txFee : U256
  msg : SocketMessage
  sender : Address
  gasLimit : UInt64
  maxFeePerGas : Option ℕ
  maxPriorityFeePerGas : Option ℕ
  gasPrice : Option (BitVec 128)
deriving DecidableEq

/-- `fill_gas`, on a request with a gas limit: the limit stays. -/
def fillGas (client : HookClient) (r : HookReplies) (tx : HookTransaction) :
    Except Report HookTransaction :=
  if client.isNative then
    .ok { tx with maxFeePerGas := some (1000 * 10 ^ 9), maxPriorityFeePerGas := some 0 }
  else if client.eip1559 then .ok tx
  else r.sendGasPrice.map fun gasPrice => { tx with gasPrice := some gasPrice }

/-- `send_transaction`: the transaction that is submitted, if there is one. -/
def sendTransaction (client : HookClient) (r : HookReplies) (tx : HookTransaction) :
    Option HookTransaction :=
  if client.isRelayTarget then (fillGas client r tx).toOption else none

/-- `execute_hook`: its result, and the transaction that is submitted. -/
def executeHook (client : HookClient) (r : HookReplies) (msg : SocketMessage) (variants : Variants)
    (isInbound : Bool) : Except Report Unit × Option HookTransaction :=
  if client.hasHooks then
    match estimateHookGas client r msg variants.maxTxFee isInbound with
    | .error report => (.error report, none)
    | .ok (fee, gas) =>
        if fee = 0 ∨ gas = 0 then (.ok (), none)
        else (.ok (), sendTransaction client r {
          txFee := fee
          msg := msg
          sender := client.address
          gasLimit := gas
          maxFeePerGas := none
          maxPriorityFeePerGas := none
          gasPrice := none })
  else (.ok (), none)

/-! ### What an estimate that is returned has passed -/

section Passed

variable {α β : Type}

@[simp] lemma pure_eq_ok {a b : α} : (pure a : Except Exit α) = .ok b ↔ a = b := by
  simp [pure, Except.pure]

@[simp] lemma orReturn_eq_ok {x : Except Report α} {a : α} : orReturn x = .ok a ↔ x = .ok a := by
  cases x <;> simp [orReturn]

@[simp] lemma okOr_eq_ok {text : String} {x : Option α} {a : α} :
    okOr text x = .ok a ↔ x = some a := by
  cases x <;> simp [okOr]

@[simp] lemma orSkip_eq_ok {x : Option α} {a : α} : orSkip x = .ok a ↔ x = some a := by
  cases x <;> simp [orSkip]

@[simp] lemma orPowerOverflow_eq_ok {x : Option α} {a : α} :
    orPowerOverflow x = .ok a ↔ x = some a := by
  cases x <;> simp [orPowerOverflow]

variable {pow : ℕ → Option U256} {client : HookClient} {r : HookReplies} {msg : SocketMessage}
  {maxTxFee : U256} {isInbound : Bool}

/-- The gas is the one estimated. -/
lemma estimateGas_eq_ok {gas : UInt64} :
    estimateGas r maxTxFee msg = .ok gas ↔ r.estimateGas maxTxFee msg = .ok gas := by
  unfold estimateGas
  cases r.estimateGas maxTxFee msg with
  | ok gas' => simp
  | error e =>
    simp only [reduceCtorEq, iff_false]
    split_ifs <;> nofun

/-- The cost of the gas is exact. -/
lemma estimatedFeeInDnc_eq_ok {gas : UInt64} {gasPrice : BitVec 128} {fee : U256} :
    estimatedFeeInDnc gas gasPrice = .ok fee ↔
      gas.toNat * gasPrice.toNat < 2 ^ 256 ∧ fee.toNat = gas.toNat * gasPrice.toNat := by
  have hgas : (BitVec.ofNat 256 gas.toNat).toNat = gas.toNat := by
    have hlt := gas.toNat_lt
    rw [BitVec.toNat_ofNat, Nat.mod_eq_of_lt (by omega)]
  have hprice : (gasPrice.setWidth 256).toNat = gasPrice.toNat := by
    have hlt := gasPrice.isLt
    rw [BitVec.toNat_setWidth, Nat.mod_eq_of_lt (by omega)]
  rw [estimatedFeeInDnc, okOr_eq_ok, checkedMul_eq_some, hgas, hprice]

/-- The cost of the gas is within the limit of the operator. -/
lemma checkMaxHookFee_eq_ok {fee : U256} :
    checkMaxHookFee client fee = .ok () ↔ ∀ maxHookFee ∈ client.maxHookFee, fee ≤ maxHookFee := by
  unfold checkMaxHookFee
  cases client.maxHookFee with
  | none => simp
  | some maxHookFee =>
    simp only [Option.mem_def, Option.some.injEq, forall_eq']
    split_ifs with hlt
    · exact iff_of_false nofun (BitVec.not_le.2 hlt)
    · exact iff_of_true rfl (BitVec.not_lt.1 hlt)

/-- An oracle of the manager has a price that is not zero, and not older than 3600 seconds. -/
def FreshOracle (r : HookReplies) (manager : Address) (oid : B256) (price : U256) : Prop :=
  ∃ info, r.lastOracleInfo manager oid = .ok info ∧ r.now.toNat - info.time.toNat ≤ 3600 ∧
    price = info.price ∧ price ≠ 0

/-- The aggregator of an asset has a positive answer that is not older than 3600 seconds, and that
is normalized to a price that is not zero. -/
def FreshAggregator (pow : ℕ → Option U256) (r : HookReplies) (assetId : Address) (price : U256) :
    Prop :=
  ∃ address decimals data, r.aggregatorInfo assetId = .ok (some (address, decimals)) ∧
    r.latestRoundData address = .ok data ∧ r.now.toNat - data.updatedAt.toNat ≤ 3600 ∧
    0 < data.answer.toInt ∧ normalizeAnswer pow data.answer decimals = .ok price ∧ price ≠ 0

/-- A price that is returned is fresh. -/
lemma oraclePrice_eq_ok {manager : Address} {oid : B256} {price : U256} :
    oraclePrice r.now (r.lastOracleInfo manager oid) = .ok price ↔
      FreshOracle r manager oid price := by
  unfold FreshOracle
  cases r.lastOracleInfo manager oid with
  | error report => simp [oraclePrice]
  | ok info =>
    simp only [oraclePrice, Except.ok.injEq, exists_eq_left']
    by_cases hstale : chainlinkStalenessThresholdVolatile < staleness r.now info.time
    · rw [if_pos hstale]
      exact iff_of_false nofun fun h => hstale.not_ge h.1
    · rw [if_neg hstale]
      by_cases hzero : info.price = 0
      · rw [if_pos hzero]
        exact iff_of_false nofun fun h => h.2.2 (h.2.1.trans hzero)
      · rw [if_neg hzero, Except.ok.injEq]
        constructor
        · rintro rfl
          exact ⟨not_lt.1 hstale, rfl, hzero⟩
        · rintro ⟨-, rfl, -⟩
          rfl

/-- An answer that is returned is fresh and positive. -/
lemma aggregatorAnswer_eq_ok {assetId : Address} {answer : BitVec 256} {decimals : UInt8}
    (h : aggregatorAnswer r assetId = .ok (answer, decimals)) :
    ∃ address data, r.aggregatorInfo assetId = .ok (some (address, decimals)) ∧
      r.latestRoundData address = .ok data ∧ r.now.toNat - data.updatedAt.toNat ≤ 3600 ∧
      0 < data.answer.toInt ∧ answer = data.answer := by
  unfold aggregatorAnswer at h
  simp only [bind_eq_ok, orReturn_eq_ok, orSkip_eq_ok] at h
  obtain ⟨_, hinfo, ⟨address, decimals'⟩, rfl, h⟩ := h
  cases hdata : r.latestRoundData address with
  | error report => simp [hdata] at h
  | ok data =>
    simp only [hdata] at h
    split_ifs at h with hstale hsign
    obtain ⟨rfl, rfl⟩ := Prod.mk.inj (Except.ok.inj h)
    refine ⟨address, data, hinfo, hdata, ?_, not_le.1 hsign, rfl⟩
    have htime : (toU64OrDefault data.updatedAt).toNat ≤ data.updatedAt.toNat := by
      unfold toU64OrDefault
      split_ifs
      · exact UInt64.toNat_ofNat' ▸ Nat.mod_le ..
      · exact Nat.zero_le _
    unfold staleness chainlinkStalenessThresholdVolatile at hstale
    omega

/-- The price of an aggregator that is returned is fresh. -/
lemma aggregatorPrice_eq_ok {assetId : Address} {price : U256}
    (h : aggregatorPrice pow r assetId = .ok price) : FreshAggregator pow r assetId price := by
  unfold aggregatorPrice at h
  simp only [bind_eq_ok] at h
  obtain ⟨⟨answer, decimals⟩, hanswer, normalized, hnormalized, h⟩ := h
  obtain ⟨address, data, hinfo, hdata, hfresh, hsign, rfl⟩ := aggregatorAnswer_eq_ok hanswer
  split_ifs at h with hzero
  obtain rfl := Except.ok.inj h
  exact ⟨address, decimals, data, hinfo, hdata, hfresh, hsign, hnormalized, hzero⟩

/-- The price of the bridged asset is fresh, in the oracle or the aggregator. -/
lemma bridgedPrice_eq_ok {manager assetId : Address} {oid : B256} {price : U256}
    (h : bridgedPrice pow r manager assetId oid = .ok price) :
    oid = zeroOid ∧ FreshAggregator pow r assetId price ∨
      oid ≠ zeroOid ∧ FreshOracle r manager oid price := by
  unfold bridgedPrice at h
  split_ifs at h with hoid
  · exact .inl ⟨hoid, aggregatorPrice_eq_ok h⟩
  · exact .inr ⟨hoid, oraclePrice_eq_ok.1 h⟩

/-- What the first part of the estimation has checked. -/
structure Quoted (client : HookClient) (r : HookReplies) (msg : SocketMessage) (maxTxFee : U256)
    (q : Quote) : Prop where
  amount : maxTxFee ≤ msg.params.amount
  gas : r.estimateGas maxTxFee msg = .ok q.gas
  gasPrice : r.gasPrice = .ok q.gasPrice
  fits : q.gas.toNat * q.gasPrice.toNat < 2 ^ 256
  fee : q.feeInDnc.toNat = q.gas.toNat * q.gasPrice.toNat
  maxHookFee : ∀ maxHookFee ∈ client.maxHookFee, q.feeInDnc ≤ maxHookFee
  manager : r.orcManager = .ok q.manager
  dncPrice : ∃ dncOid, r.oracleOidForChain client.chainId = .ok (some dncOid) ∧
    FreshOracle r q.manager dncOid q.dncPrice
  assetId : r.assetId msg.params.tokenIdx0 = .ok (some q.assetId)
  bridgedOid : r.oracleOidForAsset q.assetId = .ok (some q.bridgedOid)

/-- The first part of the estimation. -/
lemma quoted_of_quote {q : Quote} (h : quote client r msg maxTxFee isInbound = .ok q) :
    Quoted client r msg maxTxFee q := by
  unfold quote at h
  split_ifs at h with hamount
  simp only [bind_eq_ok, orReturn_eq_ok, orSkip_eq_ok, pure_eq_ok, estimateGas_eq_ok,
    estimatedFeeInDnc_eq_ok, oraclePrice_eq_ok] at h
  obtain ⟨gas, hgas, gasPrice, hgasPrice, fee, ⟨hfits, hfee⟩, _, hmax, manager, hmanager, _,
    hdncOid, dncOid, rfl, _, hassetId, assetId, rfl, asset, hasset, decimals, hdecimals, _,
    hbridgedOid, bridgedOid, rfl, dncPrice, hdncPrice, rfl⟩ := h
  exact ⟨BitVec.not_lt.1 hamount, hgas, hgasPrice, hfits, hfee,
    checkMaxHookFee_eq_ok.1 hmax, hmanager, ⟨dncOid, hdncOid, hdncPrice⟩, hassetId, hbridgedOid⟩

/-- An estimate that is returned: its parts. -/
lemma estimate_eq_ok {fee : U256} {gas : UInt64} :
    estimate pow client r msg maxTxFee isInbound = .ok (fee, gas) ↔
      ∃ q price, quote client r msg maxTxFee isInbound = .ok q ∧
        bridgedPrice pow r q.manager q.assetId q.bridgedOid = .ok price ∧
        feeInBridgedAsset pow q.feeInDnc q.dncPrice q.decimals price = .ok fee ∧
        fee ≤ maxTxFee ∧ gas = q.gas := by
  have hcheck : ∀ fee : U256, checkMaxTxFee maxTxFee fee = .ok () ↔ fee ≤ maxTxFee := by
    intro fee
    unfold checkMaxTxFee
    split_ifs with hlt
    · exact iff_of_false nofun (BitVec.not_le.2 hlt)
    · exact iff_of_true rfl (BitVec.not_lt.1 hlt)
  unfold estimate
  simp only [bind_eq_ok, pure_eq_ok, Prod.mk.injEq]
  constructor
  · rintro ⟨q, hq, price, hprice, fee', hfee, _, hmax, rfl, rfl⟩
    exact ⟨q, price, hq, hprice, hfee, (hcheck _).1 hmax, rfl⟩
  · rintro ⟨q, price, hq, hprice, hfee, hmax, rfl⟩
    exact ⟨q, hq, price, hprice, fee, hfee, (), (hcheck _).2 hmax, rfl, rfl⟩

end Passed

/-! ### What a submitted transaction has passed -/

/-- A submitted transaction is within the limits of the user and of the operator, at prices that are
not zero and not stale, and it carries the fee and the gas that were estimated. -/
structure WithinLimits (client : HookClient) (r : HookReplies) (msg : SocketMessage)
    (variants : Variants) (isInbound : Bool) (tx : HookTransaction) : Prop where
  amount : variants.maxTxFee ≤ msg.params.amount
  fee_pos : 0 < tx.txFee
  fee_le : tx.txFee ≤ variants.maxTxFee
  gas_pos : 0 < tx.gasLimit
  /-- The gas is the one estimated, and its cost is within the limit of the operator. -/
  gas : r.estimateGas variants.maxTxFee msg = .ok tx.gasLimit
  cost : ∃ gasPrice, r.gasPrice = .ok gasPrice ∧ tx.gasLimit.toNat * gasPrice.toNat < 2 ^ 256 ∧
    ∀ maxHookFee ∈ client.maxHookFee, tx.gasLimit.toNat * gasPrice.toNat ≤ maxHookFee.toNat
  /-- The price of the native currency. -/
  dncPrice : ∃ manager oid price, r.orcManager = .ok manager ∧
    r.oracleOidForChain client.chainId = .ok (some oid) ∧ FreshOracle r manager oid price
  /-- The price of the bridged asset. -/
  bridgedPrice : ∃ manager assetId oid price, r.orcManager = .ok manager ∧
    r.assetId msg.params.tokenIdx0 = .ok (some assetId) ∧
    r.oracleOidForAsset assetId = .ok (some oid) ∧
    (oid = zeroOid ∧ FreshAggregator pow10 r assetId price ∨
      oid ≠ zeroOid ∧ FreshOracle r manager oid price)
  /-- The call is `Hooks.execute` of the message with the fee and the gas estimated. -/
  carried : estimateHookGas client r msg variants.maxTxFee isInbound =
    .ok (tx.txFee, tx.gasLimit) ∧ tx.msg = msg ∧ tx.sender = client.address

section Submitted

variable {client : HookClient} {r : HookReplies} {msg : SocketMessage} {variants : Variants}
  {isInbound : Bool}

/-- Sending a transaction keeps its call and its gas limit. -/
lemma sendTransaction_eq_some {tx tx' : HookTransaction}
    (h : sendTransaction client r tx = some tx') :
    tx'.txFee = tx.txFee ∧ tx'.msg = tx.msg ∧ tx'.sender = tx.sender ∧
      tx'.gasLimit = tx.gasLimit := by
  unfold sendTransaction fillGas at h
  split_ifs at h with htarget hnative heip
  · obtain rfl := Option.some.inj h
    exact ⟨rfl, rfl, rfl, rfl⟩
  · obtain rfl := Option.some.inj h
    exact ⟨rfl, rfl, rfl, rfl⟩
  · cases hprice : r.sendGasPrice with
    | error report =>
      rw [hprice] at h
      cases h
    | ok gasPrice =>
      rw [hprice] at h
      obtain rfl := Option.some.inj h
      exact ⟨rfl, rfl, rfl, rfl⟩

/-- A transaction is submitted only with an estimate that is not a skip. -/
lemma estimate_of_submitted {tx : HookTransaction}
    (h : (executeHook client r msg variants isInbound).2 = some tx) :
    estimate pow10 client r msg variants.maxTxFee isInbound = .ok (tx.txFee, tx.gasLimit) ∧
      tx.txFee ≠ 0 ∧ tx.gasLimit ≠ 0 ∧ tx.msg = msg ∧ tx.sender = client.address := by
  unfold executeHook estimateHookGas at h
  split_ifs at h with hhooks
  cases hest : estimate pow10 client r msg variants.maxTxFee isInbound with
  | error exit =>
    rw [hest] at h
    cases exit with
    | skip => simp at h
    | error report => simp at h
    | powerOverflow => simp at h
  | ok result =>
    obtain ⟨fee, gas⟩ := result
    simp only [hest] at h
    split_ifs at h with hzero
    rw [not_or] at hzero
    obtain ⟨hfee, hmsg, hsender, hgas⟩ := sendTransaction_eq_some h
    exact ⟨by rw [hfee, hgas], hfee ▸ hzero.1, hgas ▸ hzero.2, hmsg, hsender⟩

/-- `execute_hook` submits a transaction only within the limits, for all replies to its calls. -/
theorem hook_submitted_within_limits {tx : HookTransaction}
    (h : (executeHook client r msg variants isInbound).2 = some tx) :
    WithinLimits client r msg variants isInbound tx := by
  obtain ⟨hest, hfee, hgas, hmsg, hsender⟩ := estimate_of_submitted h
  obtain ⟨q, price, hq, hprice, hconverted, hle, hgasq⟩ := estimate_eq_ok.1 hest
  have hquoted := quoted_of_quote hq
  obtain ⟨dncOid, hdncOid, hdncPrice⟩ := hquoted.dncPrice
  exact {
    amount := hquoted.amount
    fee_pos := (BitVec.pos_iff_ne_zero _).2 hfee
    fee_le := hle
    gas_pos := UInt64.pos_iff_ne_zero.2 hgas
    gas := hgasq ▸ hquoted.gas
    cost := by
      refine ⟨q.gasPrice, hquoted.gasPrice, hgasq ▸ hquoted.fits, fun maxHookFee hmax => ?_⟩
      rw [hgasq, ← hquoted.fee]
      exact hquoted.maxHookFee maxHookFee hmax
    dncPrice := ⟨q.manager, dncOid, q.dncPrice, hquoted.manager, hdncOid, hdncPrice⟩
    bridgedPrice := ⟨q.manager, q.assetId, q.bridgedOid, price, hquoted.manager, hquoted.assetId,
      hquoted.bridgedOid, bridgedPrice_eq_ok hprice⟩
    carried := by
      refine ⟨?_, hmsg, hsender⟩
      rw [estimateHookGas, hest] }

end Submitted

/-- A client of a chain with a hooks contract, and with a limit of 0.01 of the native currency. -/
def sampleClient : HookClient where
  chainId := 1
  address := ⟨FixedBytes.repeatByte 20 9⟩
  hasHooks := true
  maxHookFee := some (.ofNat 256 (10 ^ 16))
  isRelayTarget := true
  isNative := false
  eip1559 := true

/-- Replies for a token with given decimals, whose aggregator with given decimals answers one dollar.
The native currency is at a given price, and the gas is at a given cost. -/
def sampleReplies (gas : UInt64) (gasPrice : BitVec 128) (dncPrice : ℕ) (decimals : UInt8)
    (answer : BitVec 256) (aggregatorDecimals : UInt8) : HookReplies where
  estimateGas _ _ := .ok gas
  gasPrice := .ok gasPrice
  orcManager := .ok ⟨FixedBytes.repeatByte 20 2⟩
  oracleOidForChain _ := .ok (some (FixedBytes.repeatByte 32 3))
  assetId _ := .ok (some ⟨FixedBytes.repeatByte 20 4⟩)
  remoteAssetPair index := .ok index
  assetsConfig _ := .ok ⟨⟨FixedBytes.repeatByte 20 4⟩, ⟨FixedBytes.repeatByte 20 5⟩⟩
  erc20Decimals _ := .ok decimals
  oracleOidForAsset _ := .ok (some zeroOid)
  now := 1700000000
  lastOracleInfo _ _ := .ok ⟨⟨beBytes 32 dncPrice, length_beBytes 32 dncPrice⟩, 1699999000⟩
  aggregatorInfo _ := .ok (some (⟨FixedBytes.repeatByte 20 6⟩, aggregatorDecimals))
  latestRoundData _ := .ok ⟨answer, 1699999000⟩
  sendGasPrice := .ok gasPrice

/-- The limits of a user. -/
def sampleVariants (maxTxFee : U256) : Variants where
  sender := ⟨FixedBytes.repeatByte 20 7⟩
  receiver := ⟨FixedBytes.repeatByte 20 8⟩
  refund := ⟨FixedBytes.repeatByte 20 7⟩
  maxTxFee := maxTxFee
  message := ⟨[], Nat.two_pow_pos _⟩

/-- A message with an amount. -/
def sampleMessage (amount : U256) : SocketMessage where
  reqId := ⟨FixedBytes.repeatByte 4 1, 1, 1⟩
  status := 3
  insCode := ⟨FixedBytes.repeatByte 4 2, FixedBytes.repeatByte 16 0⟩
  params := {
    tokenIdx0 := FixedBytes.repeatByte 32 1
    tokenIdx1 := FixedBytes.repeatByte 32 1
    refund := ⟨FixedBytes.repeatByte 20 7⟩
    toAddress := ⟨FixedBytes.repeatByte 20 8⟩
    amount := amount
    variants := ⟨[], Nat.two_pow_pos _⟩ }

/-- The transaction of a hook with a fee of 0.2 dollars. -/
theorem hook_submitted_sample :
    ∃ tx, (executeHook sampleClient (sampleReplies 100000 1000000000 (2000 * 10 ^ 18) 6 100000000 8)
        (sampleMessage 5000000) (sampleVariants 1000000) true).2 = some tx ∧
      tx.txFee = 200000 ∧ tx.gasLimit = 100000 ∧
      WithinLimits sampleClient (sampleReplies 100000 1000000000 (2000 * 10 ^ 18) 6 100000000 8)
        (sampleMessage 5000000) (sampleVariants 1000000) true tx := by
  have hsent : (executeHook sampleClient
      (sampleReplies 100000 1000000000 (2000 * 10 ^ 18) 6 100000000 8)
      (sampleMessage 5000000) (sampleVariants 1000000) true).2 =
        some ⟨200000, sampleMessage 5000000, sampleClient.address, 100000, none, none, none⟩ := by
    decide +kernel
  exact ⟨_, hsent, rfl, rfl, hook_submitted_within_limits hsent⟩

end Hooks

end BifrostRelayer
