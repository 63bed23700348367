import BifrostRelayer.Foundation.Decimal
import BifrostRelayer.Foundation.Hex
import BifrostRelayer.Foundation.Keccak
import BifrostRelayer.Primitives.Socket

/-!
# The signed payloads of unsigned extrinsics

A relayer votes in the Bifrost pallets with unsigned extrinsics.  The payload of each names the
relayer and has its content, and comes with a signature of the relayer over a message built from the
content.  Nine builders make these messages in their own formats: colon-separated text, or a hash of
a label followed by raw bytes, by hexadecimal text, or by a SCALE tuple.

The runtime checks a signature against the message that it builds itself from the payload.  So a
signature authorises every payload with the same message, and the question is when two payloads have
different messages.
-/

namespace BifrostRelayer

namespace Payloads

open Decimal Keccak Scale SolidityAbi

/-! ### The payloads -/

/-- `AccountId20`. -/
abbrev AccountId20 : Type := FixedBytes 20

/-- `Public`: a compressed public key. -/
abbrev PublicKey : Type := FixedBytes 33

/-- `VaultKeySubmission`, but for the authority. -/
structure VaultKeySubmission where
  who : AccountId20
  pubKey : PublicKey
  poolRound : UInt32
deriving DecidableEq

/-- `VaultKeyPreSubmission`. -/
structure VaultKeyPreSubmission where
  pubKeys : List PublicKey
  poolRound : UInt32
deriving DecidableEq

/-- `FeeRateSubmission`. -/
structure FeeRateSubmission where
  ltFeeRate : UInt64
  feeRate : UInt64
  deadline : UInt32
deriving DecidableEq

/-- `RollbackPollMessage`. -/
structure RollbackPollMessage where
  txid : B256
  isApproved : Bool
deriving DecidableEq

/-- `ExecutedPsbtMessage`. -/
structure ExecutedPsbtMessage where
  txid : B256
deriving DecidableEq

/-- `BroadcastSubmission`. -/
structure BroadcastSubmission where
  txid : B256
deriving DecidableEq

/-- `UtxoSubmission` with one `UtxoInfo`. -/
structure UtxoSubmission where
  txid : B256
  vout : UInt32
  amount : UInt64
  address : List UInt8
deriving DecidableEq

/-- `OnFlightPollSubmission`, with the hash that its builder computes. -/
structure OnFlightPollSubmission where
  msg : List UInt8
  msgHash : B256
  srcTxId : B256
  msgHash_eq : msgHash.val = keccak256 msg
deriving DecidableEq

/-- `FinalizePollSubmission`. -/
structure FinalizePollSubmission where
  msg : List UInt8
deriving DecidableEq

/-- The content of a payload. -/
inductive Content where
  | vaultKey (m : VaultKeySubmission)
  | vaultKeyPre (m : VaultKeyPreSubmission)
  | feeRate (m : FeeRateSubmission)
  | rollbackPoll (m : RollbackPollMessage)
  | executedPsbt (m : ExecutedPsbtMessage)
  | broadcast (m : BroadcastSubmission)
  | utxo (m : UtxoSubmission)
  | onFlightPoll (m : OnFlightPollSubmission)
  | finalizePoll (m : FinalizePollSubmission)
deriving DecidableEq

/-- A payload: its content, and the relayer that submits it. -/
structure Submission where
  authorityId : AccountId20
  content : Content
deriving DecidableEq

/-! ### The messages -/

/-- The bytes of ASCII text. -/
def ascii (text : String) : List UInt8 := text.toList.map fun c => .ofNat c.toNat

/-- A colon. -/
def colon : UInt8 := 58

/-- `PubKeySubmitter::build_payload`: `round:0xkey`. -/
def VaultKeySubmission.message (m : VaultKeySubmission) : List UInt8 :=
  decimal m.poolRound.toNat ++ colon :: Hex.encodePrefixed m.pubKey.val

/-- `PubKeyPreSubmitter::build_payload`: `round:0xkey0xkey...`. -/
def VaultKeyPreSubmission.message (m : VaultKeyPreSubmission) : List UInt8 :=
  decimal m.poolRound.toNat ++ colon :: m.pubKeys.flatMap fun k => Hex.encodePrefixed k.val

/-- `FeeRateFeeder::build_payload`: `deadline:lt_fee_rate:fee_rate`. -/
def FeeRateSubmission.message (m : FeeRateSubmission) : List UInt8 :=
  decimal m.deadline.toNat ++ colon ::
    (decimal m.ltFeeRate.toNat ++ colon :: decimal m.feeRate.toNat)

/-- `BitcoinRollbackVerifier::build_payload`. -/
def RollbackPollMessage.message (m : RollbackPollMessage) : List UInt8 :=
  keccak256 (ascii "RollbackPoll") ++ (m.txid.val ++ [if m.isApproved then 1 else 0])

/-- `PsbtBroadcaster::build_payload`. -/
def ExecutedPsbtMessage.message (m : ExecutedPsbtMessage) : List UInt8 :=
  keccak256 (ascii "ExecutedPsbt") ++ m.txid.val

/-- `OutboundHandler::build_payload`. -/
def BroadcastSubmission.message (m : BroadcastSubmission) : List UInt8 :=
  keccak256 (ascii "BroadcastPoll") ++ m.txid.val

/-- The SCALE tuple that `InboundHandler::build_payload` hashes; `none` is a panic. -/
def UtxoSubmission.encoded (m : UtxoSubmission) : Option (List UInt8) :=
  (encodeVec m.address).map fun address =>
    m.txid.val ++ (leBytes 4 m.vout.toNat ++ (leBytes 8 m.amount.toNat ++ address))

/-- `InboundHandler::build_payload`. -/
def UtxoSubmission.message (m : UtxoSubmission) : Option (List UInt8) :=
  m.encoded.map fun encoded =>
    keccak256 (ascii "UtxosSubmission") ++ Hex.encode (keccak256 encoded)

/-- `SocketQueuePoller::submit_on_flight_poll`. -/
def OnFlightPollSubmission.message (m : OnFlightPollSubmission) : Option (List UInt8) :=
  (encodeVec m.msg).map fun msg =>
    keccak256 (ascii "OnFlightPoll") ++ (msg ++ (m.msgHash.val ++ m.srcTxId.val))

/-- `SocketQueuePoller::submit_finalize_poll`. -/
def FinalizePollSubmission.message (m : FinalizePollSubmission) : List UInt8 :=
  keccak256 (ascii "FinalizePoll") ++ m.msg

/-- The bytes that the builder of a payload passes to `sign_message`; `none` if it panics, on a byte
string whose length SCALE cannot encode. -/
def Content.message : Content → Option (List UInt8)
  | .vaultKey m => some m.message
  | .vaultKeyPre m => some m.message
  | .feeRate m => some m.message
  | .rollbackPoll m => some m.message
  | .executedPsbt m => some m.message
  | .broadcast m => some m.message
  | .utxo m => m.message
  | .onFlightPoll m => m.message
  | .finalizePoll m => some m.message

/-! ### Kinds and labels -/

/-- The kinds of payloads. -/
inductive Kind where
  | vaultKey
  | vaultKeyPre
  | feeRate
  | rollbackPoll
  | executedPsbt
  | broadcast
  | utxo
  | onFlightPoll
  | finalizePoll
deriving DecidableEq

/-- The kind of a payload. -/
def Content.kind : Content → Kind
  | .vaultKey _ => .vaultKey
  | .vaultKeyPre _ => .vaultKeyPre
  | .feeRate _ => .feeRate
  | .rollbackPoll _ => .rollbackPoll
  | .executedPsbt _ => .executedPsbt
  | .broadcast _ => .broadcast
  | .utxo _ => .utxo
  | .onFlightPoll _ => .onFlightPoll
  | .finalizePoll _ => .finalizePoll

/-- The label whose hash stands in front of the messages of a kind; three kinds have none. -/
def Kind.label : Kind → Option (List UInt8)
  | .vaultKey | .vaultKeyPre | .feeRate => none
  | .rollbackPoll => some (ascii "RollbackPoll")
  | .executedPsbt => some (ascii "ExecutedPsbt")
  | .broadcast => some (ascii "BroadcastPoll")
  | .utxo => some (ascii "UtxosSubmission")
  | .onFlightPoll => some (ascii "OnFlightPoll")
  | .finalizePoll => some (ascii "FinalizePoll")

/-- The strings that the builder of a payload hashes. -/
def Content.hashed (c : Content) : Set (List UInt8) :=
  {x | c.kind.label = some x ∨ match c with
    | .utxo m => m.encoded = some x
    | .onFlightPoll m => m.msg = x
    | _ => False}

/-- Two payloads that one signature authorises although they differ: submissions of one vault key
in one round for different accounts, or the submission of a vault key and the presubmission of just
this key, in one round. -/
def Overlap : Content → Content → Prop
  | .vaultKey m, .vaultKey m' => m.pubKey = m'.pubKey ∧ m.poolRound = m'.poolRound ∧ m.who ≠ m'.who
  | .vaultKey m, .vaultKeyPre m' => m'.pubKeys = [m.pubKey] ∧ m.poolRound = m'.poolRound
  | .vaultKeyPre m, .vaultKey m' => m.pubKeys = [m'.pubKey] ∧ m.poolRound = m'.poolRound
  | _, _ => False

/-! ### Labels separate kinds -/

/-- Labels are not shared. -/
lemma Kind.eq_of_label_eq {k k' : Kind} (h : k.label = k'.label) (hlabel : k.label ≠ none) :
    k = k' := by
  cases k <;> cases k' <;> first | rfl | exact absurd rfl hlabel | exact absurd h (by decide)

/-- The bytes of the colon-separated messages. -/
def IsText (c : UInt8) : Prop := Hex.IsDigit c ∨ c = 120 ∨ c = colon

instance : DecidablePred IsText := fun c =>
  inferInstanceAs (Decidable ((48 ≤ c.toNat ∧ c.toNat ≤ 57 ∨ 97 ≤ c.toNat ∧ c.toNat ≤ 102) ∨
    c = 120 ∨ c = colon))

/-- No label has a hash that is text. -/
lemma not_isText_keccak256_label {k : Kind} {label : List UInt8} (h : k.label = some label) :
    ∃ c ∈ keccak256 label, ¬ IsText c := by
  have hall : ∀ k : Kind, ∀ label ∈ k.label, ∃ c ∈ keccak256 label, ¬ IsText c := by
    intro k
    cases k <;> decide +kernel
  exact hall k label h

/-- A message with a label begins with its hash. -/
lemma message_of_label {c : Content} {label m : List UInt8} (hlabel : c.kind.label = some label)
    (hm : c.message = some m) : ∃ body, m = keccak256 label ++ body := by
  cases c with
  | vaultKey _ | vaultKeyPre _ | feeRate _ => cases hlabel
  | rollbackPoll _ | executedPsbt _ | broadcast _ | finalizePoll _ =>
    obtain rfl := Option.some.inj hlabel
    obtain rfl := Option.some.inj hm
    exact ⟨_, rfl⟩
  | utxo m' =>
    obtain rfl := Option.some.inj hlabel
    obtain ⟨encoded, -, rfl⟩ := Option.map_eq_some_iff.1 hm
    exact ⟨_, rfl⟩
  | onFlightPoll m' =>
    obtain rfl := Option.some.inj hlabel
    obtain ⟨msg, -, rfl⟩ := Option.map_eq_some_iff.1 hm
    exact ⟨_, rfl⟩

/-- A decimal number is text. -/
lemma isText_of_mem_decimal {n : ℕ} {c : UInt8} (h : c ∈ decimal n) : IsText c :=
  .inl (.inl (isDigit_of_mem_decimal h))

/-- A colon is not in a decimal number. -/
lemma colon_notMem_decimal (n : ℕ) : colon ∉ decimal n := by
  intro h
  have hdigit := isDigit_of_mem_decimal h
  revert hdigit
  decide

/-- Prefixed hexadecimal text has only digits and the `x`. -/
lemma isDigit_or_x_of_mem_encodePrefixed {bs : List UInt8} {c : UInt8}
    (h : c ∈ Hex.encodePrefixed bs) : Hex.IsDigit c ∨ c = 120 := by
  rcases List.mem_cons.1 h with rfl | h
  · exact .inl (.inl (by decide))
  · rcases List.mem_cons.1 h with rfl | h
    · exact .inr rfl
    · exact .inl (Hex.isDigit_of_mem_encode h)

/-- A colon is not in prefixed hexadecimal text. -/
lemma colon_notMem_encodePrefixed (bs : List UInt8) : colon ∉ Hex.encodePrefixed bs := by
  intro h
  have hdigit := isDigit_or_x_of_mem_encodePrefixed h
  revert hdigit
  unfold Hex.IsDigit
  decide

/-- Two texts with a colon between them are text. -/
lemma isText_append_colon {front back : List UInt8} (hfront : ∀ x ∈ front, IsText x)
    (hback : ∀ x ∈ back, IsText x) : ∀ x ∈ front ++ colon :: back, IsText x := by
  intro x hx
  rcases List.mem_append.1 hx with hx | hx
  · exact hfront x hx
  · rcases List.mem_cons.1 hx with rfl | hx
    · exact .inr (.inr rfl)
    · exact hback x hx

/-- A message without a label is text. -/
lemma isText_of_no_label {c : Content} {m : List UInt8} (hlabel : c.kind.label = none)
    (hm : c.message = some m) : ∀ x ∈ m, IsText x := by
  have hdecimal : ∀ n : ℕ, ∀ x ∈ decimal n, IsText x := fun _ _ hx => isText_of_mem_decimal hx
  have hhex : ∀ bs : List UInt8, ∀ x ∈ Hex.encodePrefixed bs, IsText x := by
    intro bs x hx
    rcases isDigit_or_x_of_mem_encodePrefixed hx with h | h
    · exact .inl h
    · exact .inr (.inl h)
  cases c with
  | vaultKey m' =>
    obtain rfl := Option.some.inj hm
    exact isText_append_colon (hdecimal _) (hhex _)
  | vaultKeyPre m' =>
    obtain rfl := Option.some.inj hm
    refine isText_append_colon (hdecimal _) fun x hx => ?_
    obtain ⟨k, -, hx⟩ := List.mem_flatMap.1 hx
    exact hhex _ x hx
  | feeRate m' =>
    obtain rfl := Option.some.inj hm
    exact isText_append_colon (hdecimal _) (isText_append_colon (hdecimal _) (hdecimal _))
  | rollbackPoll _ | executedPsbt _ | broadcast _ | utxo _ | onFlightPoll _ | finalizePoll _ =>
    cases hlabel

/-- A message with a label is not one without. -/
lemma ne_of_label_of_no_label {c c' : Content} {label m m' : List UInt8}
    (hlabel : c.kind.label = some label) (hlabel' : c'.kind.label = none)
    (hm : c.message = some m) (hm' : c'.message = some m') : m ≠ m' := by
  rintro rfl
  obtain ⟨body, rfl⟩ := message_of_label hlabel hm
  obtain ⟨x, hx, hnot⟩ := not_isText_keccak256_label hlabel
  exact hnot (isText_of_no_label hlabel' hm' x (List.mem_append_left body hx))

/-- The labels of one message are the same, so its kind is determined. -/
lemma kind_eq_of_labels {c c' : Content} {label label' m : List UInt8}
    (hinj : Set.InjOn keccak256 (c.hashed ∪ c'.hashed)) (hlabel : c.kind.label = some label)
    (hlabel' : c'.kind.label = some label') (hm : c.message = some m) (hm' : c'.message = some m) :
    c.kind = c'.kind := by
  obtain ⟨body, rfl⟩ := message_of_label hlabel hm
  obtain ⟨body', heq⟩ := message_of_label hlabel' hm'
  have hlen : (keccak256 label).length = (keccak256 label').length := by
    rw [length_keccak256, length_keccak256]
  obtain ⟨hhash, -⟩ := List.append_inj heq hlen
  have hlabels : label = label' := hinj (.inl (.inl hlabel)) (.inr (.inl hlabel')) hhash
  apply Kind.eq_of_label_eq
  · rw [hlabel, hlabel', hlabels]
  · rw [hlabel]
    exact Option.some_ne_none label

/-! ### Messages of one kind -/

/-- The text in front of the first colon, and the text after it. -/
lemma append_colon_inj {a b r r' : List UInt8} (ha : colon ∉ a) (hb : colon ∉ b)
    (h : a ++ colon :: r = b ++ colon :: r') : a = b ∧ r = r' := by
  induction a generalizing b with
  | nil =>
    cases b with
    | nil => exact ⟨rfl, (List.cons.inj h).2⟩
    | cons y b => exact absurd (List.mem_cons.2 (.inl (List.cons.inj h).1)) hb
  | cons x a ih =>
    cases b with
    | nil => exact absurd (List.mem_cons.2 (.inl (List.cons.inj h).1.symm)) ha
    | cons y b =>
      obtain ⟨rfl, htail⟩ := List.cons.inj h
      obtain ⟨rfl, hr⟩ := ih (fun hmem => ha (List.mem_cons_of_mem x hmem))
        (fun hmem => hb (List.mem_cons_of_mem x hmem)) htail
      exact ⟨rfl, hr⟩

/-- The number in front of the first colon, and the text after it. -/
lemma decimal_colon_inj {n n' : ℕ} {r r' : List UInt8}
    (h : decimal n ++ colon :: r = decimal n' ++ colon :: r') : n = n' ∧ r = r' := by
  obtain ⟨hdecimal, hr⟩ := append_colon_inj (colon_notMem_decimal n) (colon_notMem_decimal n') h
  exact ⟨decimal_injective hdecimal, hr⟩

/-- Prefixed hexadecimal text determines the bytes. -/
lemma encodePrefixed_injective : Function.Injective Hex.encodePrefixed := by
  intro bs bs' h
  unfold Hex.encodePrefixed at h
  exact Hex.encode_injective (List.cons.inj (List.cons.inj h).2).2

/-- The text of a public key has a fixed length. -/
lemma length_encodePrefixed_publicKey (k : PublicKey) : (Hex.encodePrefixed k.val).length = 68 := by
  have hlen : k.val.length = 33 := k.property
  unfold Hex.encodePrefixed
  rw [List.length_cons, List.length_cons, Hex.length_encode, hlen]

/-- Public keys can be written one after another. -/
lemma pubKeys_eq_of_text {ks ks' : List PublicKey}
    (h : (ks.flatMap fun k => Hex.encodePrefixed k.val) =
      ks'.flatMap fun k => Hex.encodePrefixed k.val) : ks = ks' := by
  induction ks generalizing ks' with
  | nil =>
    cases ks' with
    | nil => rfl
    | cons k' ks' => cases h
  | cons k ks ih =>
    cases ks' with
    | nil => cases h
    | cons k' ks' =>
      have hlen : (Hex.encodePrefixed k.val).length = (Hex.encodePrefixed k'.val).length := by
        rw [length_encodePrefixed_publicKey, length_encodePrefixed_publicKey]
      obtain ⟨hkey, hrest⟩ := List.append_inj h hlen
      rw [Subtype.ext (encodePrefixed_injective hkey), ih hrest]

/-- A rollback vote is determined by its message. -/
lemma RollbackPollMessage.message_injective : Function.Injective RollbackPollMessage.message := by
  intro m m' h
  obtain ⟨-, hbody⟩ := List.append_inj h rfl
  have hlen : m.txid.val.length = m'.txid.val.length := by rw [m.txid.property, m'.txid.property]
  obtain ⟨htxid, hvote⟩ := List.append_inj hbody hlen
  have happroved : m.isApproved = m'.isApproved := by
    cases hm : m.isApproved <;> cases hm' : m'.isApproved <;> simp_all
  cases m
  cases m'
  simp only [RollbackPollMessage.mk.injEq]
  exact ⟨Subtype.ext htxid, happroved⟩

/-- A report of an executed transaction is determined by its message. -/
lemma ExecutedPsbtMessage.message_injective : Function.Injective ExecutedPsbtMessage.message := by
  rintro ⟨txid⟩ ⟨txid'⟩ h
  obtain ⟨-, htxid⟩ := List.append_inj h rfl
  congr
  exact Subtype.ext htxid

/-- A broadcast vote is determined by its message. -/
lemma BroadcastSubmission.message_injective : Function.Injective BroadcastSubmission.message := by
  rintro ⟨txid⟩ ⟨txid'⟩ h
  obtain ⟨-, htxid⟩ := List.append_inj h rfl
  congr
  exact Subtype.ext htxid

/-- A finalisation vote is determined by its message. -/
lemma FinalizePollSubmission.message_injective :
    Function.Injective FinalizePollSubmission.message := by
  rintro ⟨msg⟩ ⟨msg'⟩ h
  obtain ⟨-, hmsg⟩ := List.append_inj h rfl
  congr

/-- An output is determined by its SCALE tuple. -/
lemma UtxoSubmission.eq_of_encoded {m m' : UtxoSubmission} {encoded : List UInt8}
    (h : m.encoded = some encoded) (h' : m'.encoded = some encoded) : m = m' := by
  obtain ⟨txid, vout, amount, address⟩ := m
  obtain ⟨txid', vout', amount', address'⟩ := m'
  obtain ⟨enc, henc, rfl⟩ := Option.map_eq_some_iff.1 h
  obtain ⟨enc', henc', heq⟩ := Option.map_eq_some_iff.1 h'
  have hlen : txid'.val.length = txid.val.length := by rw [txid.property, txid'.property]
  obtain ⟨htxid, heq⟩ := List.append_inj heq hlen
  obtain ⟨hvout, heq⟩ := List.append_inj heq (by rw [length_leBytes, length_leBytes])
  obtain ⟨hamount, heq⟩ := List.append_inj heq (by rw [length_leBytes, length_leBytes])
  have hvouts := leBytes_inj vout'.toNat_lt vout.toNat_lt hvout
  have hamounts := leBytes_inj amount'.toNat_lt amount.toNat_lt hamount
  have hvec : enc ++ [] = enc' ++ [] := by rw [heq]
  obtain ⟨haddress, -⟩ := encodeVec_append_inj henc henc' hvec
  simp only [UtxoSubmission.mk.injEq]
  exact ⟨(Subtype.ext htxid).symm, (UInt32.toNat_inj.1 hvouts).symm,
    (UInt64.toNat_inj.1 hamounts).symm, haddress⟩

/-- An output is determined by its message, as its SCALE tuple is hashed without a collision. -/
lemma UtxoSubmission.eq_of_message {m m' : UtxoSubmission} {text : List UInt8}
    (hinj : Set.InjOn keccak256 ((Content.utxo m).hashed ∪ (Content.utxo m').hashed))
    (h : m.message = some text) (h' : m'.message = some text) : m = m' := by
  obtain ⟨enc, henc, rfl⟩ := Option.map_eq_some_iff.1 h
  obtain ⟨enc', henc', heq⟩ := Option.map_eq_some_iff.1 h'
  obtain ⟨-, hhex⟩ := List.append_inj heq rfl
  have hencoded : enc' = enc :=
    hinj (.inr (.inr henc')) (.inl (.inr henc)) (Hex.encode_injective hhex)
  exact UtxoSubmission.eq_of_encoded henc (hencoded ▸ henc')

/-- An on-flight vote is determined by its message. -/
lemma OnFlightPollSubmission.eq_of_message {m m' : OnFlightPollSubmission} {text : List UInt8}
    (h : m.message = some text) (h' : m'.message = some text) : m = m' := by
  obtain ⟨msg, msgHash, srcTxId, hhash⟩ := m
  obtain ⟨msg', msgHash', srcTxId', hhash'⟩ := m'
  obtain ⟨enc, henc, rfl⟩ := Option.map_eq_some_iff.1 h
  obtain ⟨enc', henc', heq⟩ := Option.map_eq_some_iff.1 h'
  obtain ⟨-, hbody⟩ := List.append_inj heq rfl
  obtain ⟨rfl, hrest⟩ := encodeVec_append_inj henc' henc hbody
  have hlen : msgHash'.val.length = msgHash.val.length := by
    rw [msgHash.property, msgHash'.property]
  obtain ⟨hmsgHash, hsrc⟩ := List.append_inj hrest hlen
  simp only [OnFlightPollSubmission.mk.injEq, true_and]
  exact ⟨(Subtype.ext hmsgHash).symm, (Subtype.ext hsrc).symm⟩

/-- Payloads of one kind with a label are determined by their messages. -/
lemma eq_of_message_of_kind_eq {c c' : Content} {label m : List UInt8}
    (hinj : Set.InjOn keccak256 (c.hashed ∪ c'.hashed)) (hkind : c.kind = c'.kind)
    (hlabel : c.kind.label = some label) (hm : c.message = some m) (hm' : c'.message = some m) :
    c = c' := by
  match c, c', hkind with
  | .rollbackPoll _, .rollbackPoll _, _ =>
    rw [RollbackPollMessage.message_injective (Option.some.inj (hm.trans hm'.symm))]
  | .executedPsbt _, .executedPsbt _, _ =>
    rw [ExecutedPsbtMessage.message_injective (Option.some.inj (hm.trans hm'.symm))]
  | .broadcast _, .broadcast _, _ =>
    rw [BroadcastSubmission.message_injective (Option.some.inj (hm.trans hm'.symm))]
  | .finalizePoll _, .finalizePoll _, _ =>
    rw [FinalizePollSubmission.message_injective (Option.some.inj (hm.trans hm'.symm))]
  | .utxo _, .utxo _, _ => rw [UtxoSubmission.eq_of_message hinj hm hm']
  | .onFlightPoll _, .onFlightPoll _, _ => rw [OnFlightPollSubmission.eq_of_message hm hm']
  | .vaultKey _, _, _ | .vaultKeyPre _, _, _ | .feeRate _, _, _ => cases hlabel

/-- A fee rate is determined by its message. -/
lemma FeeRateSubmission.message_injective : Function.Injective FeeRateSubmission.message := by
  rintro ⟨ltFeeRate, feeRate, deadline⟩ ⟨ltFeeRate', feeRate', deadline'⟩ h
  obtain ⟨hdeadline, hrest⟩ := decimal_colon_inj h
  obtain ⟨hlt, hrate⟩ := decimal_colon_inj hrest
  simp only [FeeRateSubmission.mk.injEq]
  exact ⟨UInt64.toNat_inj.1 hlt, UInt64.toNat_inj.1 (decimal_injective hrate),
    UInt32.toNat_inj.1 hdeadline⟩

/-- A presubmission is determined by its message. -/
lemma VaultKeyPreSubmission.message_injective :
    Function.Injective VaultKeyPreSubmission.message := by
  rintro ⟨pubKeys, poolRound⟩ ⟨pubKeys', poolRound'⟩ h
  obtain ⟨hround, hkeys⟩ := decimal_colon_inj h
  simp only [VaultKeyPreSubmission.mk.injEq]
  exact ⟨pubKeys_eq_of_text hkeys, UInt32.toNat_inj.1 hround⟩

/-- The presubmission whose message the submission of a vault key has. -/
def VaultKeySubmission.toPre (m : VaultKeySubmission) : VaultKeyPreSubmission where
  pubKeys := [m.pubKey]
  poolRound := m.poolRound

/-- The account is not in the message of a submission. -/
lemma VaultKeySubmission.message_toPre (m : VaultKeySubmission) : m.toPre.message = m.message := by
  unfold VaultKeySubmission.message VaultKeyPreSubmission.message VaultKeySubmission.toPre
  rw [List.flatMap_singleton]

/-- The message of a fee rate is not that of a presubmission: it has two colons. -/
lemma FeeRateSubmission.message_ne (m : FeeRateSubmission) (m' : VaultKeyPreSubmission) :
    m.message ≠ m'.message := by
  intro h
  obtain ⟨-, hrest⟩ := decimal_colon_inj h
  have hcolon : colon ∈ m'.pubKeys.flatMap fun k => Hex.encodePrefixed k.val := by
    rw [← hrest]
    exact List.mem_append_right _ (List.mem_cons_self ..)
  obtain ⟨k, -, hk⟩ := List.mem_flatMap.1 hcolon
  exact colon_notMem_encodePrefixed k.val hk

/-! ### When one signature authorises two payloads -/

/-- What the message of a payload stands for: of a vault key, the presubmission of this key. -/
def Content.signed : Content → Content
  | .vaultKey m => .vaultKeyPre m.toPre
  | c => c

/-- A signature is over what it stands for. -/
lemma message_signed (c : Content) : c.signed.message = c.message := by
  cases c with
  | vaultKey m => exact congrArg some m.message_toPre
  | vaultKeyPre _ | feeRate _ | rollbackPoll _ | executedPsbt _ | broadcast _ | utxo _
  | onFlightPoll _ | finalizePoll _ => rfl

/-- Without a label only presubmissions and fee rates are signed. -/
lemma signed_of_no_label {c : Content} (hlabel : c.kind.label = none) :
    (∃ m, c.signed = .vaultKeyPre m) ∨ ∃ m, c.signed = .feeRate m := by
  cases c with
  | vaultKey m => exact .inl ⟨m.toPre, rfl⟩
  | vaultKeyPre m => exact .inl ⟨m, rfl⟩
  | feeRate m => exact .inr ⟨m, rfl⟩
  | rollbackPoll _ | executedPsbt _ | broadcast _ | utxo _ | onFlightPoll _ | finalizePoll _ =>
    cases hlabel

/-- Text stands for one presubmission or fee rate. -/
lemma signed_eq_of_no_label {c c' : Content} (hlabel : c.kind.label = none)
    (hlabel' : c'.kind.label = none) (h : c.message = c'.message) : c.signed = c'.signed := by
  rw [← message_signed c, ← message_signed c'] at h
  rcases signed_of_no_label hlabel with ⟨m, hm⟩ | ⟨m, hm⟩ <;>
    rcases signed_of_no_label hlabel' with ⟨m', hm'⟩ | ⟨m', hm'⟩ <;>
    rw [hm, hm'] at h ⊢
  · rw [VaultKeyPreSubmission.message_injective (Option.some.inj h)]
  · exact absurd (Option.some.inj h).symm (m'.message_ne m)
  · exact absurd (Option.some.inj h) (m.message_ne m')
  · rw [FeeRateSubmission.message_injective (Option.some.inj h)]

/-- One message stands for one content. -/
theorem signed_eq_of_message_eq {c c' : Content} {m : List UInt8}
    (hinj : Set.InjOn keccak256 (c.hashed ∪ c'.hashed)) (hm : c.message = some m)
    (hm' : c'.message = some m) : c.signed = c'.signed := by
  cases hlabel : c.kind.label with
  | none =>
    cases hlabel' : c'.kind.label with
    | none => exact signed_eq_of_no_label hlabel hlabel' (hm.trans hm'.symm)
    | some label' => exact absurd rfl (ne_of_label_of_no_label hlabel' hlabel hm' hm)
  | some label =>
    cases hlabel' : c'.kind.label with
    | none => exact absurd rfl (ne_of_label_of_no_label hlabel hlabel' hm hm')
    | some label' =>
      have hkind := kind_eq_of_labels hinj hlabel hlabel' hm hm'
      rw [eq_of_message_of_kind_eq hinj hkind hlabel hm hm']

/-- Different payloads for which the same is signed overlap. -/
lemma signed_eq_iff_overlap {c c' : Content} (hne : c ≠ c') :
    c.signed = c'.signed ↔ Overlap c c' := by
  cases c with
  | vaultKey m =>
    cases c' with
    | vaultKey m' =>
      obtain ⟨who, pubKey, poolRound⟩ := m
      obtain ⟨who', pubKey', poolRound'⟩ := m'
      simp only [Content.signed, VaultKeySubmission.toPre, Overlap, Content.vaultKeyPre.injEq,
        VaultKeyPreSubmission.mk.injEq, List.cons.injEq, and_true]
      constructor
      · rintro ⟨rfl, rfl⟩
        exact ⟨rfl, rfl, fun hwho => hne (by rw [hwho])⟩
      · rintro ⟨hkey, hround, -⟩
        exact ⟨hkey, hround⟩
    | vaultKeyPre m' =>
      obtain ⟨pubKeys', poolRound'⟩ := m'
      simp only [Content.signed, VaultKeySubmission.toPre, Overlap, Content.vaultKeyPre.injEq,
        VaultKeyPreSubmission.mk.injEq]
      rw [eq_comm (a := pubKeys')]
    | feeRate _ | rollbackPoll _ | executedPsbt _ | broadcast _ | utxo _ | onFlightPoll _
    | finalizePoll _ => simp [Content.signed, Overlap]
  | vaultKeyPre m =>
    cases c' with
    | vaultKey m' =>
      obtain ⟨pubKeys, poolRound⟩ := m
      simp only [Content.signed, VaultKeySubmission.toPre, Overlap, Content.vaultKeyPre.injEq,
        VaultKeyPreSubmission.mk.injEq]
    | vaultKeyPre m' => exact iff_of_false hne id
    | feeRate _ | rollbackPoll _ | executedPsbt _ | broadcast _ | utxo _ | onFlightPoll _
    | finalizePoll _ => simp [Content.signed, Overlap]
  | feeRate _ | rollbackPoll _ | executedPsbt _ | broadcast _ | utxo _ | onFlightPoll _
  | finalizePoll _ =>
    cases c' with
    | vaultKey m' => simp [Content.signed, Overlap]
    | vaultKeyPre _ | feeRate _ | rollbackPoll _ | executedPsbt _ | broadcast _ | utxo _
    | onFlightPoll _ | finalizePoll _ => exact iff_of_false hne id

/-- A payload does not overlap with itself. -/
lemma not_overlap_self (c : Content) : ¬ Overlap c c := by
  cases c with
  | vaultKey m => exact fun h => h.2.2 rfl
  | vaultKeyPre _ | feeRate _ | rollbackPoll _ | executedPsbt _ | broadcast _ | utxo _
  | onFlightPoll _ | finalizePoll _ => exact id

/-- As long as no two strings that their builders hash collide, two submissions that differ in their
kind or in a field other than the authority have different messages, but for the vault key
submissions that overlap. -/
theorem messages_separated_iff {s t : Submission} {m m' : List UInt8}
    (hm : s.content.message = some m) (hm' : t.content.message = some m')
    (hinj : Set.InjOn keccak256 (s.content.hashed ∪ t.content.hashed)) :
    (s.content ≠ t.content → m ≠ m') ↔ ¬ Overlap s.content t.content := by
  constructor
  · intro hsep hoverlap
    have hne : s.content ≠ t.content := by
      intro heq
      rw [heq] at hoverlap
      exact not_overlap_self _ hoverlap
    have hsigned := congrArg Content.message ((signed_eq_iff_overlap hne).2 hoverlap)
    rw [message_signed, message_signed, hm, hm'] at hsigned
    exact hsep hne (Option.some.inj hsigned)
  · rintro hoverlap hne rfl
    exact hoverlap ((signed_eq_iff_overlap hne).1 (signed_eq_of_message_eq hinj hm hm'))

/-- The generator of the curve, as a public key. -/
def generatorKey : PublicKey :=
  ⟨[0x02, 0x79, 0xBE, 0x66, 0x7E, 0xF9, 0xDC, 0xBB, 0xAC, 0x55, 0xA0, 0x62, 0x95, 0xCE, 0x87, 0x0B,
    0x07, 0x02, 0x9B, 0xFC, 0xDB, 0x2D, 0xCE, 0x28, 0xD9, 0x59, 0xF2, 0x81, 0x5B, 0x16, 0xF8, 0x17,
    0x98], rfl⟩

/-- An account. -/
def accountOf (x : UInt8) : AccountId20 := FixedBytes.repeatByte 20 x

/-- The report of an executed transaction and the vote for a broadcast one are separated by their
labels. -/
theorem executed_broadcast_separated :
    ExecutedPsbtMessage.message ⟨FixedBytes.repeatByte 32 7⟩ ≠
      BroadcastSubmission.message ⟨FixedBytes.repeatByte 32 7⟩ := by
  have hhash : keccak256 (ascii "ExecutedPsbt") ≠ keccak256 (ascii "BroadcastPoll") := by
    decide +kernel
  refine (messages_separated_iff
    (s := ⟨accountOf 1, .executedPsbt ⟨FixedBytes.repeatByte 32 7⟩⟩)
    (t := ⟨accountOf 1, .broadcast ⟨FixedBytes.repeatByte 32 7⟩⟩) rfl rfl ?_).2 id (by decide)
  rintro x ((hx | hx) | (hx | hx)) y ((hy | hy) | (hy | hy)) hxy
  all_goals try exact hx.elim
  all_goals try exact hy.elim
  all_goals obtain rfl := Option.some.inj hx
  all_goals obtain rfl := Option.some.inj hy
  · rfl
  · exact absurd hxy hhash
  · exact absurd hxy.symm hhash
  · rfl

/-- One message for one vault key in one round: the submissions for two accounts, and the
presubmission. -/
theorem vault_key_messages_overlap :
    let mine : Content := .vaultKey ⟨accountOf 1, generatorKey, 7⟩
    let theirs : Content := .vaultKey ⟨accountOf 2, generatorKey, 7⟩
    let pre : Content := .vaultKeyPre ⟨[generatorKey], 7⟩
    (mine ≠ theirs ∧ mine.kind ≠ pre.kind) ∧
      mine.message = some (ascii
        "7:0x0279be667ef9dcbbac55a06295ce870b07029bfcdb2dce28d959f2815b16f81798") ∧
      theirs.message = mine.message ∧ pre.message = mine.message ∧
      Set.InjOn keccak256 (mine.hashed ∪ theirs.hashed) ∧
      Set.InjOn keccak256 (mine.hashed ∪ pre.hashed) := by
  refine ⟨⟨by decide, by decide⟩, by decide +kernel, rfl, by decide +kernel, ?_, ?_⟩
  · rintro x ((hx | hx) | (hx | hx)) <;> cases hx
  · rintro x ((hx | hx) | (hx | hx)) <;> cases hx

end Payloads

end BifrostRelayer
