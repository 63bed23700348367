import BifrostRelayer.Hooks.Executor

/-!
# The payload of a hook

A bridge request carries the parameters of its hook in `params.variants`, as the ABI encoding of
five parameters.  The type `Variants` of the relayer is a struct with these five fields, whose
encoding on its own has an offset in front.  `should_process_hook` puts the missing offset there
before it decodes.

Offsets inside the struct count from its first word, so the five parameters and the content of the
struct are laid out alike, for every length of the message: `decodeVariants_encodeVariants`.
-/

namespace BifrostRelayer

namespace Hooks

open Fallible SolidityAbi

/-! ### The layouts -/

/-- The five parameters. -/
abbrev VariantsFields : Type := Address × Address × Address × U256 × Bytes

/-- The ABI types of the five parameters. -/
def variantsFields : SolSeq VariantsFields :=
  .cons .address (.cons .address (.cons .address (.cons .uint256 (.single .bytes))))

/-- The ABI type of `Variants`. -/
def variantsType : SolData Variants :=
  (SolData.tuple variantsFields).map
  { toFun := fun v => (v.sender, v.receiver, v.refund, v.maxTxFee, v.message)
    invFun := fun t => ⟨t.1, t.2.1, t.2.2.1, t.2.2.2.1, t.2.2.2.2⟩
    left_inv := fun _ => rfl
    right_inv := fun _ => rfl }

/-- What a user encodes: the five parameters, without an offset in front. -/
def encodeVariants (v : Variants) : List UInt8 :=
  abiEncodeSequence variantsFields (v.sender, v.receiver, v.refund, v.maxTxFee, v.message)

/-- `wrapped_data`: 31 zero bytes, the byte `0x20` and the payload. -/
def wrappedData (variants : List UInt8) : List UInt8 :=
  List.replicate 31 0 ++ 0x20 :: variants

/-- `<Variants as SolType>::abi_decode` of the wrapped payload. -/
def decodeVariants (variants : List UInt8) : Option Variants :=
  abiDecode variantsType (wrappedData variants)

/-- The wrapped parameters are the encoding of the struct. -/
lemma wrappedData_encodeVariants (v : Variants) :
    wrappedData (encodeVariants v) = abiEncode variantsType v := by
  have hdyn : Shape.anyDynamic variantsFields.shapes = true := by decide
  have hoffset : beBytes 32 32 = List.replicate 31 0 ++ [0x20] := by decide
  calc wrappedData (encodeVariants v)
      = beBytes 32 32 ++ encodeVariants v := by rw [hoffset, wrappedData, List.append_assoc]; rfl
    _ = abiEncode (.tuple variantsFields)
          (v.sender, v.receiver, v.refund, v.maxTxFee, v.message) :=
        (abiEncode_tuple variantsFields hdyn _).symm
    _ = abiEncode variantsType v := rfl

/-- The five parameters take six words and the padded message. -/
lemma length_encodeVariants (v : Variants) :
    (encodeVariants v).length = 192 + (padRight v.message.val).length := by
  have hseq := length_encode_seq
    [.word (addressWord v.sender), .word (addressWord v.receiver), .word (addressWord v.refund),
      .word (beBytes 32 v.maxTxFee.toNat), .packed v.message.val]
    (variantsType.wellFormed_tokenize v)
  refine hseq.trans ?_
  simp [Token.shapes, Token.shape, Shape.headSizes, Shape.headSize, Token.tails, Shape.isDynamic,
    Token.encode]
  omega

/-- The payload of a user is decoded to what the user has encoded. -/
theorem decodeVariants_encodeVariants (v : Variants) :
    decodeVariants (encodeVariants v) = some v := by
  have hlength : (abiEncode variantsType v).length < 2 ^ 256 := by
    have hpad := length_padRight_le v.message.val
    have hmessage := v.message.property
    rw [← wrappedData_encodeVariants, wrappedData, List.length_append, List.length_replicate,
      List.length_cons, length_encodeVariants]
    omega
  rw [decodeVariants, wrappedData_encodeVariants]
  exact abiDecode_abiEncode variantsType v hlength

lemma encodeVariants_ne_nil (v : Variants) : encodeVariants v ≠ [] := by
  intro h
  have hlength := length_encodeVariants v
  rw [h, List.length_nil] at hlength
  omega

/-! ### The decision -/

/-- What a hook executor is made with, as far as the decision reads it. -/
structure HookExecutor where
  /-- `get_bitcoin_chain_id` of the Bifrost client. -/
  bitcoinChainId : Option ChainId
  /-- `get_system_client`, with the address of the hooks contract. -/
  systemClients : ChainId → Option (Option Address)
  /-- The client of the executor has a hooks contract. -/
  hasHooks : Bool

/-- The replies to the calls of a decision. -/
structure DecisionReplies where
  /-- `asset_indexes_hook_state` of the relay queue. -/
  assetIndexesHookState : B256 → Except Report (Option Bool)
  /-- `processedRequests` of the hooks contract. -/
  processedRequests : RequestId → Except Report Bool
  /-- `rolledbackRequests` of the hooks contract. -/
  rolledbackRequests : RequestId → Except Report Bool

/-- `is_hookable`. -/
def DecisionReplies.isHookable (r : DecisionReplies) (index : B256) : Except Report Bool :=
  (r.assetIndexesHookState index).map fun state => state.getD false

/-- The end of `should_process_hook`: an empty payload has no hook, and the others are decoded. -/
def hookVariants (variants : List UInt8) : Option Variants :=
  if variants.isEmpty then none else decodeVariants variants

lemma hookVariants_encodeVariants (v : Variants) : hookVariants (encodeVariants v) = some v := by
  have hempty : (encodeVariants v).isEmpty = false :=
    List.isEmpty_eq_false_iff.mpr (encodeVariants_ne_nil v)
  rw [hookVariants, hempty]
  exact decodeVariants_encodeVariants v

namespace HookExecutor

/-- The message leaves or enters Bitcoin. -/
def isBitcoin (executor : HookExecutor) (msg : SocketMessage) : Bool :=
  match executor.bitcoinChainId with
  | some bitcoinChainId =>
      decide (msg.srcChainId = bitcoinChainId) || decide (msg.dstChainId = bitcoinChainId)
  | none => false

/-- `should_process_hook`; the outer `none` is the panic on an unknown status byte. -/
def shouldProcessHook (executor : HookExecutor) (r : DecisionReplies) (msg : SocketMessage)
    (expectedStatus : SocketEventStatus) : Option (Except Report (Option Variants)) :=
  (SocketEventStatus.ofU8 msg.status).map fun status =>
    if status ≠ expectedStatus then .ok none
    else if executor.isBitcoin msg then .ok none
    else
      match executor.systemClients msg.srcChainId with
      | none => .ok none
      | some none => .ok none
      | some (some hooksAddress) =>
          if msg.params.refund ≠ hooksAddress then .ok none
          else
            (r.isHookable msg.params.tokenIdx0).map fun isHookable =>
              if isHookable then hookVariants msg.params.variants.val else none

/-- The checks of `should_execute_hook` and `should_rollback_hook` behind the common ones: the
client has a hooks contract, and the request is not done there. -/
def unlessDone (executor : HookExecutor) (done : Except Report Bool) :
    Except Report (Option Variants) → Except Report (Option Variants)
  | .error report => .error report
  | .ok none => .ok none
  | .ok (some variants) =>
      if executor.hasHooks then done.map fun isDone => if isDone then none else some variants
      else .ok none

/-- `should_execute_hook`. -/
def shouldExecuteHook (executor : HookExecutor) (r : DecisionReplies) (msg : SocketMessage) :
    Option (Except Report (Option Variants)) :=
  (executor.shouldProcessHook r msg .executed).map
    (executor.unlessDone (r.processedRequests msg.reqId))

/-- `should_rollback_hook`. -/
def shouldRollbackHook (executor : HookExecutor) (r : DecisionReplies) (msg : SocketMessage) :
    Option (Except Report (Option Variants)) :=
  (executor.shouldProcessHook r msg .rollbacked).map
    (executor.unlessDone (r.rolledbackRequests msg.reqId))

/-- The checks of `should_process_hook` in front of the payload. -/
structure Hookable (executor : HookExecutor) (r : DecisionReplies) (msg : SocketMessage)
    (expectedStatus : SocketEventStatus) : Prop where
  status : SocketEventStatus.ofU8 msg.status = some expectedStatus
  notBitcoin : executor.isBitcoin msg = false
  refund : executor.systemClients msg.srcChainId = some (some msg.params.refund)
  hookable : r.isHookable msg.params.tokenIdx0 = .ok true

section Decision

variable {executor : HookExecutor} {r : DecisionReplies} {msg : SocketMessage}
  {expectedStatus : SocketEventStatus} {variants : Variants}

/-- A hook is processed if all checks pass and the payload decodes, with what it decodes to. -/
theorem shouldProcessHook_eq_some_iff :
    executor.shouldProcessHook r msg expectedStatus = some (.ok (some variants)) ↔
      executor.Hookable r msg expectedStatus ∧
        hookVariants msg.params.variants.val = some variants := by
  constructor
  · intro h
    rw [shouldProcessHook, Option.map_eq_some_iff] at h
    obtain ⟨status, hstatus, h⟩ := h
    by_cases hexpected : status = expectedStatus
    · subst hexpected
      cases hbitcoin : executor.isBitcoin msg with
      | true => simp [hbitcoin] at h
      | false =>
        simp only [ne_eq, not_true_eq_false, if_false, hbitcoin, Bool.false_eq_true] at h
        split at h
        · cases h
        · cases h
        · rename_i hooksAddress hclient
          split_ifs at h with hrefund
          · subst hrefund
            cases hhookable : r.isHookable msg.params.tokenIdx0 with
            | error report =>
              rw [hhookable] at h
              cases h
            | ok isHookable =>
              rw [hhookable] at h
              cases isHookable with
              | false => cases h
              | true => exact ⟨⟨hstatus, hbitcoin, hclient, hhookable⟩, Except.ok.inj h⟩
          · cases h
    · rw [if_pos hexpected] at h
      cases h
  · rintro ⟨⟨hstatus, hbitcoin, hclient, hhookable⟩, hvariants⟩
    rw [shouldProcessHook, hstatus, Option.map_some, hclient, hhookable]
    simp [hbitcoin, hvariants, Except.map]

lemma unlessDone_eq_some_iff {done : Except Report Bool}
    {result : Except Report (Option Variants)} :
    executor.unlessDone done result = .ok (some variants) ↔
      result = .ok (some variants) ∧ executor.hasHooks = true ∧ done = .ok false := by
  match result with
  | .error report => simp [unlessDone]
  | .ok none => simp [unlessDone]
  | .ok (some variants') =>
    cases hhooks : executor.hasHooks with
    | false => simp [unlessDone, hhooks]
    | true =>
      match done with
      | .error report => simp [unlessDone, hhooks, Except.map]
      | .ok true => simp [unlessDone, hhooks, Except.map]
      | .ok false => simp [unlessDone, hhooks, Except.map]

lemma map_unlessDone_eq_some_iff {done : Except Report Bool}
    {decision : Option (Except Report (Option Variants))} :
    decision.map (executor.unlessDone done) = some (.ok (some variants)) ↔
      decision = some (.ok (some variants)) ∧ executor.hasHooks = true ∧ done = .ok false := by
  simp only [Option.map_eq_some_iff, unlessDone_eq_some_iff]
  constructor
  · rintro ⟨_, hdecision, rfl, hdone⟩
    exact ⟨hdecision, hdone⟩
  · rintro ⟨hdecision, hdone⟩
    exact ⟨_, hdecision, rfl, hdone⟩

/-- A hook is executed if it is processed as executed, and the destination has not processed the
request. -/
theorem shouldExecuteHook_eq_some_iff :
    executor.shouldExecuteHook r msg = some (.ok (some variants)) ↔
      executor.shouldProcessHook r msg .executed = some (.ok (some variants)) ∧
        executor.hasHooks = true ∧ r.processedRequests msg.reqId = .ok false :=
  map_unlessDone_eq_some_iff

/-- A hook is rolled back if it is processed as rolled back, and the source has not rolled the
request back. -/
theorem shouldRollbackHook_eq_some_iff :
    executor.shouldRollbackHook r msg = some (.ok (some variants)) ↔
      executor.shouldProcessHook r msg .rollbacked = some (.ok (some variants)) ∧
        executor.hasHooks = true ∧ r.rolledbackRequests msg.reqId = .ok false :=
  map_unlessDone_eq_some_iff

end Decision

end HookExecutor

/-- The payload that a user has encoded is decoded to what was encoded, and this is what
`should_process_hook` returns once the checks in front of the payload have passed.  What is returned
is determined by the payload, for all messages, executors and replies, and different parameters have
different payloads. -/
theorem hook_variants_decode :
    (∀ v : Variants, decodeVariants (encodeVariants v) = some v) ∧
    (∀ (executor : HookExecutor) (r : DecisionReplies) (msg : SocketMessage)
      (expectedStatus : SocketEventStatus) (v : Variants),
      executor.Hookable r msg expectedStatus → msg.params.variants.val = encodeVariants v →
      executor.shouldProcessHook r msg expectedStatus = some (.ok (some v))) ∧
    (∀ (executor executor' : HookExecutor) (r r' : DecisionReplies) (msg msg' : SocketMessage)
      (expectedStatus expectedStatus' : SocketEventStatus) (v v' : Variants),
      executor.shouldProcessHook r msg expectedStatus = some (.ok (some v)) →
      executor'.shouldProcessHook r' msg' expectedStatus' = some (.ok (some v')) →
      v ≠ v' → msg.params.variants ≠ msg'.params.variants) ∧
    ∀ v v' : Variants, v ≠ v' → encodeVariants v ≠ encodeVariants v' := by
  refine ⟨decodeVariants_encodeVariants, ?_, ?_, ?_⟩
  · intro executor r msg expectedStatus v hhookable hpayload
    refine HookExecutor.shouldProcessHook_eq_some_iff.mpr ⟨hhookable, ?_⟩
    rw [hpayload]
    exact hookVariants_encodeVariants v
  · intro executor executor' r r' msg msg' expectedStatus expectedStatus' v v' h h' hne hpayload
    have hv := (HookExecutor.shouldProcessHook_eq_some_iff.mp h).2
    have hv' := (HookExecutor.shouldProcessHook_eq_some_iff.mp h').2
    rw [← hpayload, hv] at hv'
    exact hne (Option.some.inj hv')
  · intro v v' hne hpayload
    have hv := decodeVariants_encodeVariants v
    rw [hpayload, decodeVariants_encodeVariants v'] at hv
    exact hne (Option.some.inj hv).symm

/-- A user's hook with a message of three bytes, which is padded. -/
def sampleHookVariants : Variants :=
  { sampleVariants 1000000 with message := ⟨[1, 2, 3], by decide⟩ }

/-- A message that carries the hook, executed on its destination. -/
def sampleHookMessage : SocketMessage :=
  { sampleMessage 5000000 with
    params := { (sampleMessage 5000000).params with
      variants := ⟨encodeVariants sampleHookVariants, by decide +kernel⟩ } }

/-- An executor whose source chain has the hooks contract that gets refunds. -/
def sampleExecutor : HookExecutor where
  bitcoinChainId := some 3
  systemClients _ := some (some ⟨FixedBytes.repeatByte 20 7⟩)
  hasHooks := true

theorem sampleHookMessage_decodes :
    sampleExecutor.shouldProcessHook ⟨fun _ => .ok (some true), fun _ => .ok false,
      fun _ => .ok false⟩ sampleHookMessage .executed = some (.ok (some sampleHookVariants)) :=
  hook_variants_decode.2.1 _ _ _ _ _ ⟨rfl, by decide, rfl, rfl⟩ rfl

end Hooks

end BifrostRelayer
