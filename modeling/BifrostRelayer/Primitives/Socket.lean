import BifrostRelayer.Foundation.SolidityAbi

/-!
# Socket messages and their three encodings

The bridge passes `Socket_Message` values between chains.  The relayer describes their ABI layout
in three places, which are modelled side by side:

* `SocketMessage.toVec` is `impl From<Socket_Message> for Vec<u8>`, which builds a `DynSolValue` by
  hand; its bytes are signed and hashed;
* `socketMessageType` is the type that the `sol!` macro derives from the contract ABI; `abiEncode`
  at this type is the typed `msg.abi_encode()`, and `socketAbiDecodeData` is the decoder of the data
  of a `Socket` event;
* `decodeSocketMessage` is the decoder of the on-flight handler, over a tuple type of its own.

The common layout makes the three agree: `toVec_eq_abiEncode`, `decodeSocketMessage_toVec` and
`socketAbiDecodeData_toVec`.
-/

namespace BifrostRelayer

open SolidityAbi

/-! ### Shared vocabulary -/

/-- A 32-byte hash. -/
abbrev B256 : Type := FixedBytes 32

/-- The identifier of a chain. -/
abbrev ChainId : Type := ℕ

/-- The error of a failed call, with the text that is logged. -/
structure Report where
  text : String
deriving DecidableEq, Repr

/-- `RelayDirection`: the side of the bridge that a destination chain is on. -/
inductive RelayDirection where
  | inbound
  | outbound
deriving DecidableEq, Repr

/-- The chain id of a `bytes4` chain index: the big-endian `u32`. -/
def chainIdOfIndex (index : FixedBytes 4) : ChainId :=
  beNat index.val

/-! ### The message -/

/-- `Socket_Struct.RequestID`: the identifier of a bridge request. -/
structure RequestId where
  chainIndex : FixedBytes 4
  roundId : BitVec 64
  sequence : BitVec 128
deriving DecidableEq

/-- `Socket_Struct.Instruction`: the destination chain and the method called there. -/
structure Instruction where
  chainIndex : FixedBytes 4
  rbcMethod : FixedBytes 16
deriving DecidableEq

/-- `Socket_Struct.Task_Params`. -/
structure TaskParams where
  tokenIdx0 : B256
  tokenIdx1 : B256
  refund : Address
  toAddress : Address
  amount : BitVec 256
  variants : Bytes
deriving DecidableEq

/-- `Socket_Struct.Socket_Message`. -/
structure SocketMessage where
  reqId : RequestId
  status : BitVec 8
  insCode : Instruction
  params : TaskParams
deriving DecidableEq

namespace SocketMessage

/-- The source chain of a message. -/
def srcChainId (msg : SocketMessage) : ChainId := chainIdOfIndex msg.reqId.chainIndex

/-- The destination chain of a message. -/
def dstChainId (msg : SocketMessage) : ChainId := chainIdOfIndex msg.insCode.chainIndex

end SocketMessage

/-- The status of a socket event. -/
inductive SocketEventStatus where
  | none
  | requested
  | failed
  | executed
  | reverted
  | accepted
  | rejected
  | committed
  | rollbacked
deriving DecidableEq, Repr

namespace SocketEventStatus

/-- `From<u8>`; the conversion panics on every other byte. -/
def ofU8 (status : BitVec 8) : Option SocketEventStatus :=
  match status.toNat with
  | 0 => some .none
  | 1 => some .requested
  | 2 => some .failed
  | 3 => some .executed
  | 4 => some .reverted
  | 5 => some .accepted
  | 6 => some .rejected
  | 7 => some .committed
  | 8 => some .rollbacked
  | _ => Option.none

/-- `From<SocketEventStatus> for u8`. -/
def toU8 : SocketEventStatus → BitVec 8
  | .none => 0
  | .requested => 1
  | .failed => 2
  | .executed => 3
  | .reverted => 4
  | .accepted => 5
  | .rejected => 6
  | .committed => 7
  | .rollbacked => 8

end SocketEventStatus

/-! ### The hand-built encoding -/

/-- `FixedBytes::<32>::right_padding_from` on a shorter byte string. -/
def rightPaddingFrom {n : ℕ} (bs : FixedBytes n) (hn : n ≤ 32) : B256 :=
  ⟨rightPadding bs.val, length_rightPadding_val bs hn⟩

/-- The dynamically typed value that `impl From<Socket_Message> for Vec<u8>` builds. -/
def SocketMessage.dynSolValue (msg : SocketMessage) : DynSolValue :=
  let reqId := DynSolValue.tuple [
    .fixedBytes (rightPaddingFrom msg.reqId.chainIndex (by decide)) 4,
    .uint (msg.reqId.roundId.setWidth 256) 64,
    .uint (msg.reqId.sequence.setWidth 256) 128]
  let status := DynSolValue.uint (msg.status.setWidth 256) 8
  let insCode := DynSolValue.tuple [
    .fixedBytes (rightPaddingFrom msg.insCode.chainIndex (by decide)) 4,
    .fixedBytes (rightPaddingFrom msg.insCode.rbcMethod (by decide)) 16]
  let params := DynSolValue.tuple [
    .fixedBytes msg.params.tokenIdx0 32,
    .fixedBytes msg.params.tokenIdx1 32,
    .address msg.params.refund,
    .address msg.params.toAddress,
    .uint msg.params.amount 256,
    .bytes msg.params.variants.val]
  .tuple [reqId, status, insCode, params]

/-- `impl From<Socket_Message> for Vec<u8>`. -/
def SocketMessage.toVec (msg : SocketMessage) : List UInt8 :=
  msg.dynSolValue.abiEncode

/-! ### The typed encoding -/

/-- The ABI type of `RequestID`. -/
def requestIdType : SolData RequestId :=
  (SolData.tuple (.cons (.fixedBytes 4 (by decide)) (.cons (.uint 64 (by decide))
    (.single (.uint 128 (by decide)))))).map
  { toFun := fun r => (r.chainIndex, r.roundId, r.sequence)
    invFun := fun t => ⟨t.1, t.2.1, t.2.2⟩
    left_inv := fun _ => rfl
    right_inv := fun _ => rfl }

/-- The ABI type of `Instruction`. -/
def instructionType : SolData Instruction :=
  (SolData.tuple (.cons (.fixedBytes 4 (by decide)) (.single (.fixedBytes 16 (by decide))))).map
  { toFun := fun i => (i.chainIndex, i.rbcMethod)
    invFun := fun t => ⟨t.1, t.2⟩
    left_inv := fun _ => rfl
    right_inv := fun _ => rfl }

/-- The ABI type of `Task_Params`. -/
def taskParamsType : SolData TaskParams :=
  (SolData.tuple (.cons (.fixedBytes 32 (by decide)) (.cons (.fixedBytes 32 (by decide))
    (.cons .address (.cons .address (.cons (.uint 256 (by decide)) (.single .bytes))))))).map
  { toFun := fun p => (p.tokenIdx0, p.tokenIdx1, p.refund, p.toAddress, p.amount, p.variants)
    invFun := fun t => ⟨t.1, t.2.1, t.2.2.1, t.2.2.2.1, t.2.2.2.2.1, t.2.2.2.2.2⟩
    left_inv := fun _ => rfl
    right_inv := fun _ => rfl }

/-- The ABI type of `Socket_Message`, as in the contract ABI. -/
def socketMessageType : SolData SocketMessage :=
  (SolData.tuple (.cons requestIdType (.cons (.uint 8 (by decide)) (.cons instructionType
    (.single taskParamsType))))).map
  { toFun := fun m => (m.reqId, m.status, m.insCode, m.params)
    invFun := fun t => ⟨t.1, t.2.1, t.2.2.1, t.2.2.2⟩
    left_inv := fun _ => rfl
    right_inv := fun _ => rfl }

/-- `msg.abi_encode()` of the typed message. -/
def SocketMessage.abiEncode (msg : SocketMessage) : List UInt8 :=
  SolidityAbi.abiEncode socketMessageType msg

/-- `Socket::abi_decode_data`: the data of a `Socket` event is the sequence of its one argument. -/
def socketAbiDecodeData (data : List UInt8) : Except Report SocketMessage :=
  match abiDecodeSequence (.single socketMessageType) data with
  | some msg => .ok msg
  | none => .error ⟨"ABI decoding failed"⟩

/-! ### The decoder of the on-flight handler -/

/-- The Rust tuple that `decode_socket_message` decodes to. -/
abbrev SocketMessageTuple : Type :=
  (FixedBytes 4 × BitVec 64 × BitVec 128) × BitVec 8 × (FixedBytes 4 × FixedBytes 16) ×
    (FixedBytes 32 × FixedBytes 32 × Address × Address × BitVec 256 × Bytes)

/-- The `sol_data` type of that tuple. -/
def socketMessageTupleType : SolData SocketMessageTuple :=
  .tuple (.cons
    (.tuple (.cons (.fixedBytes 4 (by decide)) (.cons (.uint 64 (by decide))
      (.single (.uint 128 (by decide))))))
    (.cons (.uint 8 (by decide))
    (.cons (.tuple (.cons (.fixedBytes 4 (by decide)) (.single (.fixedBytes 16 (by decide)))))
    (.single (.tuple (.cons (.fixedBytes 32 (by decide)) (.cons (.fixedBytes 32 (by decide))
      (.cons .address (.cons .address (.cons (.uint 256 (by decide)) (.single .bytes)))))))))))

/-- `SocketOnflightHandler::decode_socket_message`.  The conversions of `round_id` and `status` are
between equal integer types and cannot fail. -/
def decodeSocketMessage (bytes : List UInt8) : Except Report SocketMessage :=
  match abiDecode socketMessageTupleType bytes with
  | none => .error ⟨"Failed to decode socket message"⟩
  | some (reqIdTuple, status, insCodeTuple, paramsTuple) =>
      let reqId : RequestId := ⟨reqIdTuple.1, reqIdTuple.2.1, reqIdTuple.2.2⟩
      let insCode : Instruction := ⟨insCodeTuple.1, insCodeTuple.2⟩
      let params : TaskParams :=
        ⟨paramsTuple.1, paramsTuple.2.1, paramsTuple.2.2.1, paramsTuple.2.2.2.1,
          paramsTuple.2.2.2.2.1, paramsTuple.2.2.2.2.2⟩
      .ok ⟨reqId, status, insCode, params⟩

/-! ### The encodings agree -/

/-- A full word needs no padding. -/
lemma rightPadding_of_length_eq {bs : List UInt8} (h : bs.length = 32) : rightPadding bs = bs := by
  simp [rightPadding, h]

/-- The hand-built value and the typed description give the same token. -/
lemma dynSolValue_tokenize (msg : SocketMessage) :
    msg.dynSolValue.tokenize = socketMessageType.tokenize msg := by
  have h64 : (msg.reqId.roundId.setWidth 256).toNat = msg.reqId.roundId.toNat :=
    BitVec.toNat_setWidth_of_le (by decide)
  have h128 : (msg.reqId.sequence.setWidth 256).toNat = msg.reqId.sequence.toNat :=
    BitVec.toNat_setWidth_of_le (by decide)
  have h8 : (msg.status.setWidth 256).toNat = msg.status.toNat :=
    BitVec.toNat_setWidth_of_le (by decide)
  have htok0 : rightPadding msg.params.tokenIdx0.val = msg.params.tokenIdx0.val :=
    rightPadding_of_length_eq msg.params.tokenIdx0.property
  have htok1 : rightPadding msg.params.tokenIdx1.val = msg.params.tokenIdx1.val :=
    rightPadding_of_length_eq msg.params.tokenIdx1.property
  simp only [SocketMessage.dynSolValue, DynSolValue.tokenize, DynSolValue.tokenizeAll, h64, h128,
    h8, rightPaddingFrom]
  simp only [socketMessageType, requestIdType, instructionType, taskParamsType, SolData.map,
    SolData.tuple, SolSeq.cons, SolSeq.single, SolData.uint, SolData.fixedBytes, SolData.address,
    SolData.bytes, Equiv.coe_fn_mk, htok0, htok1]

/-- The hand-built bytes are the typed encoding. -/
theorem toVec_eq_abiEncode (msg : SocketMessage) : msg.toVec = msg.abiEncode := by
  rw [SocketMessage.toVec, DynSolValue.abiEncode, dynSolValue_tokenize]
  rfl

/-- The parameters of a message take seven words and the padded bytes. -/
lemma length_encode_params (params : TaskParams) :
    (taskParamsType.tokenize params).encode.length =
      224 + (padRight params.variants.val).length := by
  have hseq := length_encode_seq
    [.word (rightPadding params.tokenIdx0.val), .word (rightPadding params.tokenIdx1.val),
      .word (addressWord params.refund), .word (addressWord params.toAddress),
      .word (beBytes 32 params.amount.toNat), .packed params.variants.val]
    (taskParamsType.wellFormed_tokenize params)
  refine hseq.trans ?_
  simp [Token.shapes, Token.shape, Shape.headSizes, Shape.headSize, Token.tails, Shape.isDynamic,
    Token.encode]
  omega

/-- A message takes seven words and its parameters. -/
lemma length_encode_message (msg : SocketMessage) :
    (socketMessageType.tokenize msg).encode.length =
      224 + (taskParamsType.tokenize msg.params).encode.length := by
  have hseq := length_encode_seq
    [requestIdType.tokenize msg.reqId, .word (beBytes 32 msg.status.toNat),
      instructionType.tokenize msg.insCode, taskParamsType.tokenize msg.params]
    (socketMessageType.wellFormed_tokenize msg)
  have hreq : requestIdType.shape = .seq [.word, .word, .word] := rfl
  have hins : instructionType.shape = .seq [.word, .word] := rfl
  have hparams : taskParamsType.shape = .seq [.word, .word, .word, .word, .word, .packed] := rfl
  refine hseq.trans ?_
  simp [Token.shapes, Token.shape, SolData.shape_tokenize, hreq, hins, hparams, Shape.headSizes,
    Shape.headSize, Token.tails, Shape.isDynamic, Shape.anyDynamic]

/-- The encoding of a message is far shorter than an offset can count. -/
lemma length_abiEncode_lt (msg : SocketMessage) : msg.abiEncode.length < 2 ^ 256 := by
  have hseq := length_encode_seq [socketMessageType.tokenize msg]
    ((SolSeq.single socketMessageType).wellFormed_tokenize msg)
  have hdyn : socketMessageType.shape.isDynamic = true := by decide
  have hlen : msg.abiEncode.length = 480 + (padRight msg.params.variants.val).length := by
    refine hseq.trans ?_
    simp [Token.shapes, SolData.shape_tokenize, headSize_of_isDynamic hdyn, hdyn, Token.tails,
      Shape.headSizes, length_encode_message, length_encode_params]
    omega
  have hvar := msg.params.variants.property
  have hpad := length_padRight_le msg.params.variants.val
  omega

/-- The typed event decoder undoes the hand-built encoding. -/
theorem socketAbiDecodeData_toVec (msg : SocketMessage) :
    socketAbiDecodeData msg.toVec = .ok msg := by
  have hdec := abiDecode_abiEncode socketMessageType msg (length_abiEncode_lt msg)
  rw [abiDecode] at hdec
  rw [toVec_eq_abiEncode, socketAbiDecodeData, SocketMessage.abiEncode, hdec]

/-- The message as the nested tuple of `decode_socket_message`. -/
def SocketMessage.toTuple (msg : SocketMessage) : SocketMessageTuple :=
  ((msg.reqId.chainIndex, msg.reqId.roundId, msg.reqId.sequence), msg.status,
    (msg.insCode.chainIndex, msg.insCode.rbcMethod),
    (msg.params.tokenIdx0, msg.params.tokenIdx1, msg.params.refund, msg.params.toAddress,
      msg.params.amount, msg.params.variants))

/-- The tuple description of the on-flight handler lays a message out like the contract type. -/
lemma abiEncode_toTuple (msg : SocketMessage) :
    abiEncode socketMessageTupleType msg.toTuple = msg.abiEncode := rfl

/-- The decoder of the on-flight handler undoes the hand-built encoding. -/
theorem decodeSocketMessage_toVec (msg : SocketMessage) :
    decodeSocketMessage msg.toVec = .ok msg := by
  have hlen : (abiEncode socketMessageTupleType msg.toTuple).length < 2 ^ 256 := by
    rw [abiEncode_toTuple]
    exact length_abiEncode_lt msg
  have hdec := abiDecode_abiEncode socketMessageTupleType msg.toTuple hlen
  rw [abiEncode_toTuple, ← toVec_eq_abiEncode] at hdec
  rw [decodeSocketMessage, hdec]
  rfl

/-- Different messages have different encodings. -/
theorem toVec_injective : Function.Injective SocketMessage.toVec := by
  intro m m' h
  have hm := decodeSocketMessage_toVec m
  rw [h, decodeSocketMessage_toVec m'] at hm
  exact (Except.ok.inj hm).symm

/-! ### Event logs -/

/-- A log as a node reports it. -/
structure Log where
  address : Address
  topics : List B256
  data : List UInt8
  blockHash : Option B256
  transactionHash : Option B256
  logIndex : Option ℕ
deriving DecidableEq

/-- The first topic of a log, which names its event. -/
def Log.topic0 (log : Log) : Option B256 := log.topics.head?

/-- `log.log_decode::<Socket>()`: the log must carry the signature of the event as its only topic,
and its data must decode. -/
def Log.decodeSocket (signatureHash : B256) (log : Log) : Except Report SocketMessage :=
  if log.topics = [signatureHash] then socketAbiDecodeData log.data
  else .error ⟨"invalid log topics"⟩

/-! ### A sample -/

/-- A request from the chain `src` to chain 2, in round 5. -/
def sampleRequest (src : UInt8) (sequence : BitVec 128) : SocketMessage where
  reqId := ⟨⟨[0, 0, 0, src], rfl⟩, 5, sequence⟩
  status := SocketEventStatus.requested.toU8
  insCode := ⟨⟨[0, 0, 0, 2], rfl⟩, FixedBytes.repeatByte 16 3⟩
  params := ⟨FixedBytes.repeatByte 32 4, FixedBytes.repeatByte 32 0,
    ⟨FixedBytes.repeatByte 20 7⟩, ⟨FixedBytes.repeatByte 20 7⟩, 1000, ⟨[], by decide⟩⟩

end BifrostRelayer
