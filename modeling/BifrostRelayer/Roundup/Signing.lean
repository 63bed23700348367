import BifrostRelayer.Foundation.Keccak
import BifrostRelayer.Roundup.RelayHandler

/-!
# The signatures of a round-up

A round-up is signed in two phases.  In the first, the emitter of each relayer reads the relayers of
the new round from the relayer manager, sorts them, and signs the encoding of the round and the
list.  In the second, the handler takes the relayers from the `RoundUp` event, sorts them, and
recovers the signers of the collected signatures against the encoding, to submit the signatures in
their order.

The two lists need not come in the same order.  Sorted they are the same, so both phases encode the
same parameters: `roundup_signatures_verify`.  What the order of the collected signatures becomes is
the same as for socket messages: `get_sorted_signatures_reorders`.

The curve is a parameter: a wallet signs digests, and `recover` finds the signer of a digest.
-/

namespace BifrostRelayer

namespace Roundup

open Fallible Keccak SolidityAbi

/-! ### The handler -/

/-- What the handler asks others for to build a submission. -/
structure RoundupReplies where
  /-- `get_round_signatures` of the socket contract. -/
  getRoundSignatures : U256 → Except Report Signatures
  /-- `recover_message`. -/
  recoverMessage : Signature → List UInt8 → Except Report Address

/-- `sort` on addresses. -/
def sortAddresses (addresses : List Address) : List Address :=
  addresses.insertionSort fun a b => addressLe a b = true

namespace RoundupReplies

/-- `RoundupRelayHandler::get_sorted_signatures`; `none` is the panic in the conversion of the
reply. -/
def getSortedSignatures (replies : RoundupReplies) (round : U256) (newRelayers : List Address) :
    Option (Except Report Signatures) :=
  match replies.getRoundSignatures round with
  | .error e => some (.error e)
  | .ok signatures =>
      signatures.toVec.map fun sigs => do
        let keyed ← sigs.mapM fun sig =>
          (replies.recoverMessage sig (encodeRoundupParam round newRelayers)).map fun addr =>
            (addr, sig)
        return .ofVec ((keyed.insertionSort fun a b => signerLe a b = true).map Prod.snd)

/-- `build_roundup_submit`. -/
def buildRoundupSubmit (replies : RoundupReplies) (round : U256) (newRelayers : List Address) :
    Option (Except Report RoundUpSubmit) :=
  (replies.getSortedSignatures round (sortAddresses newRelayers)).map fun reply =>
    reply.map fun sigs => ⟨round, sortAddresses newRelayers, sigs⟩

lemma getSortedSignatures_eq {replies : RoundupReplies} {round : U256} {signatures : Signatures}
    (h : replies.getRoundSignatures round = .ok signatures) (newRelayers : List Address) :
    replies.getSortedSignatures round newRelayers = signatures.toVec.map
      (sortByRecovery fun sig =>
        replies.recoverMessage sig (encodeRoundupParam round newRelayers)) := by
  rw [getSortedSignatures, h]
  rfl

end RoundupReplies

/-- Converting signatures to a vector and back, and a vector to signatures and back, changes nothing;
and both `get_sorted_signatures` fail if a signature has no signer, and otherwise return the triples
of the reply in the order of their signers. -/
theorem get_sorted_signatures_reorders :
    (∀ signatures : Signatures, signatures.WellFormed →
      ∃ sigs, signatures.toVec = some sigs ∧ Signatures.ofVec sigs = signatures) ∧
    (∀ sigs : List Signature, (Signatures.ofVec sigs).WellFormed ∧
      (Signatures.ofVec sigs).toVec = some sigs) ∧
    (∀ (replies : SigningReplies) (msg : SocketMessage) (signatures : Signatures),
      replies.getSignatures msg.reqId msg.status = .ok signatures → signatures.WellFormed →
      SortsSignatures (fun sig => replies.recoverMessage sig msg.abiEncode) signatures
        (replies.getSortedSignatures msg)) ∧
    ∀ (replies : RoundupReplies) (round : U256) (newRelayers : List Address)
      (signatures : Signatures),
      replies.getRoundSignatures round = .ok signatures → signatures.WellFormed →
      SortsSignatures
        (fun sig => replies.recoverMessage sig (encodeRoundupParam round newRelayers)) signatures
        (replies.getSortedSignatures round newRelayers) := by
  refine ⟨fun _ => Signatures.exists_toVec,
    fun sigs => ⟨Signatures.wellFormed_ofVec sigs, Signatures.toVec_ofVec sigs⟩, ?_, ?_⟩
  · intro replies msg signatures hreply hwf
    rw [SigningReplies.getSortedSignatures_eq hreply]
    exact sortsSignatures_sortByRecovery _ hwf
  · intro replies round newRelayers signatures hreply hwf
    rw [RoundupReplies.getSortedSignatures_eq hreply]
    exact sortsSignatures_sortByRecovery _ hwf

/-- Two relayers in the order of their addresses. -/
def sampleRelayers : List Address := [⟨FixedBytes.repeatByte 20 1⟩, ⟨FixedBytes.repeatByte 20 2⟩]

/-- The signatures of the two relayers, the second one first; the last byte of `s` is the signer. -/
def sampleSignatures : Signatures :=
  ⟨[FixedBytes.repeatByte 32 7, FixedBytes.repeatByte 32 9],
    [FixedBytes.repeatByte 32 2, FixedBytes.repeatByte 32 1], [27, 28]⟩

/-- A reply with the two signatures, and a recovery that reads the signer from them. -/
def sampleRoundReplies : RoundupReplies where
  getRoundSignatures _ := .ok sampleSignatures
  recoverMessage sig _ := .ok ⟨⟨sig.s.val.take 20, by simp [sig.s.property]⟩⟩

theorem sampleSignatures_reordered :
    SortsSignatures
      (fun sig => sampleRoundReplies.recoverMessage sig (encodeRoundupParam 1 sampleRelayers))
      sampleSignatures (sampleRoundReplies.getSortedSignatures 1 sampleRelayers) ∧
    sampleRoundReplies.getSortedSignatures 1 sampleRelayers =
      some (.ok ⟨[FixedBytes.repeatByte 32 9, FixedBytes.repeatByte 32 7],
        [FixedBytes.repeatByte 32 1, FixedBytes.repeatByte 32 2], [28, 27]⟩) := by
  have hwf : sampleSignatures.WellFormed := ⟨rfl, rfl, by simp [sampleSignatures]⟩
  refine ⟨get_sorted_signatures_reorders.2.2.2 sampleRoundReplies 1 sampleRelayers sampleSignatures
    rfl hwf, ?_⟩
  rfl

/-! ### The order of the relayers -/

/-- The order in which addresses are listed is lost when they are sorted. -/
theorem sortAddresses_eq_of_perm {addresses addresses' : List Address}
    (hperm : addresses.Perm addresses') : sortAddresses addresses = sortAddresses addresses' := by
  have htotal : Std.Total fun a b : Address => addressLe a b = true :=
    ⟨fun a b => by simpa [addressLe] using List.le_total a.bytes.val b.bytes.val⟩
  have htrans : IsTrans Address fun a b => addressLe a b = true :=
    ⟨fun a b c hab hbc => by
      simp only [addressLe, decide_eq_true_eq] at hab hbc ⊢
      exact List.le_trans hab hbc⟩
  have hsorted (l : List Address) : (sortAddresses l).Pairwise fun a b => addressLe a b = true :=
    List.pairwise_insertionSort (fun a b : Address => addressLe a b = true) l
  refine List.Perm.eq_of_pairwise ?_ (hsorted addresses) (hsorted addresses') ?_
  · intro a b _ _ hab hba
    simp only [addressLe, decide_eq_true_eq] at hab hba
    obtain ⟨a⟩ := a
    obtain ⟨b⟩ := b
    exact congrArg Address.mk (Subtype.ext (List.le_antisymm hab hba))
  · exact ((List.perm_insertionSort _ addresses).trans hperm).trans
      (List.perm_insertionSort _ addresses').symm

/-! ### The encoding -/

lemma addressWord_injective : Function.Injective addressWord := by
  rintro ⟨a⟩ ⟨b⟩ h
  exact congrArg Address.mk (Subtype.ext (List.append_cancel_left h))

/-- The round and the relayers can be read from their encoding. -/
theorem encodeRoundupParam_injective {round round' : U256} {newRelayers newRelayers' : List Address}
    (h : encodeRoundupParam round newRelayers = encodeRoundupParam round' newRelayers') :
    round = round' ∧ newRelayers = newRelayers' := by
  rw [encodeRoundupParam_eq, encodeRoundupParam_eq] at h
  obtain ⟨hround, h⟩ := List.append_inj h (by simp)
  obtain ⟨-, h⟩ := List.append_inj h (by simp)
  obtain ⟨-, h⟩ := List.append_inj h (by simp)
  constructor
  · apply BitVec.eq_of_toNat_eq
    rw [← beNat_word round.isLt, ← beNat_word round'.isLt, hround]
  · have hwords (addresses : List Address) : ∀ w ∈ addresses.map addressWord, w.length = 32 := by
      intro w hw
      obtain ⟨a, -, rfl⟩ := List.mem_map.mp hw
      exact length_addressWord a
    exact List.map_injective_iff.mpr addressWord_injective (words_inj (hwords _) (hwords _) h)

/-! ### Signing and recovering -/

/-- A signer of the client. -/
structure Wallet where
  address : Address
  /-- `sign_hash`. -/
  signHash : List UInt8 → Except Report Signature

/-- `EthClient::sign_message`. -/
def Wallet.signMessage (wallet : Wallet) (message : List UInt8) : Except Report Signature :=
  wallet.signHash (keccak256 message)

/-- `recover_message`, with the signer of a digest. -/
def recoverMessage (recover : Signature → List UInt8 → Except Report Address) (sig : Signature)
    (message : List UInt8) : Except Report Address :=
  recover sig (keccak256 message)

/-- The emitter and the handler agree on a round-up whose relayers they see in different orders: the
bytes that are signed are those that signers are recovered against, so a signature recovers to its
signer; the submitted relayers are the same; and the bytes determine the round and the relayers. -/
theorem roundup_signatures_verify {recover : Signature → List UInt8 → Except Report Address}
    {wallet : Wallet}
    (hrecover : ∀ digest sig, wallet.signHash digest = .ok sig →
      recover sig digest = .ok wallet.address)
    {r : TickReplies} (hsign : r.signMessage = wallet.signMessage) {replies : RoundupReplies}
    (hhandler : replies.recoverMessage = recoverMessage recover) {round : U256}
    {listed eventRelayers : List Address} (hlisted : r.previousSelectedRelayers round = .ok listed)
    (hperm : listed.Perm eventRelayers) :
    (∃ newRelayers bytes, fetchValidatorList r round = .ok newRelayers ∧
      (∀ sender, buildTransaction r round newRelayers sender =
        (wallet.signMessage bytes).map fun sig =>
          ⟨⟨round, newRelayers, .ofSignature sig⟩, sender⟩) ∧
      (∀ signatures, replies.getRoundSignatures round = .ok signatures →
        replies.buildRoundupSubmit round eventRelayers =
          (signatures.toVec.map (sortByRecovery fun sig => recoverMessage recover sig bytes)).map
            fun reply => reply.map fun sigs => ⟨round, newRelayers, sigs⟩) ∧
      ∀ sig, wallet.signMessage bytes = .ok sig →
        recoverMessage recover sig bytes = .ok wallet.address) ∧
    ∀ (round' round'' : U256) (relayers relayers' : List Address),
      encodeRoundupParam round' relayers = encodeRoundupParam round'' relayers' →
      round' = round'' ∧ relayers = relayers' := by
  refine ⟨⟨sortAddresses listed, encodeRoundupParam round (sortAddresses listed), ?_, ?_, ?_, ?_⟩,
    fun _ _ _ _ => encodeRoundupParam_injective⟩
  · rw [fetchValidatorList, hlisted]
    rfl
  · intro sender
    rw [buildTransaction, hsign]
  · intro signatures hreply
    rw [RoundupReplies.buildRoundupSubmit, RoundupReplies.getSortedSignatures_eq hreply, hhandler,
      sortAddresses_eq_of_perm hperm]
  · intro sig hsig
    exact hrecover _ sig hsig

/-- A wallet whose signature of a digest is the digest, next to the address. -/
def sampleWallet : Wallet where
  address := ⟨FixedBytes.repeatByte 20 1⟩
  signHash digest :=
    if h : digest.length = 32 then
      .ok ⟨⟨digest, h⟩, ⟨_, length_addressWord ⟨FixedBytes.repeatByte 20 1⟩⟩, false⟩
    else .error ⟨"digest"⟩

/-- The signer of a digest, if the signature is one of the digest. -/
def sampleRecover (sig : Signature) (digest : List UInt8) : Except Report Address :=
  if sig.r.val = digest then .ok ⟨⟨sig.s.val.drop 12, by simp [sig.s.property]⟩⟩
  else .error ⟨"recover"⟩

lemma sampleRecover_of_signHash {digest : List UInt8} {sig : Signature}
    (h : sampleWallet.signHash digest = .ok sig) :
    sampleRecover sig digest = .ok sampleWallet.address := by
  dsimp only [sampleWallet] at h
  split at h
  · cases h
    simp only [sampleRecover, if_true]
    rfl
  · cases h

/-- A tick of the emitter that reads the relayers in the other order than the event has them. -/
def swappedTick : TickReplies where
  latestRound := .ok 1
  previousSelectedRelayers _ := .ok sampleRelayers.reverse
  isPreviousSelectedRelayer _ _ := .ok true
  signMessage := sampleWallet.signMessage

/-- The handler has collected the signature of the emitter. -/
def swappedReplies : RoundupReplies where
  getRoundSignatures round :=
    (swappedTick.signMessage (encodeRoundupParam round sampleRelayers)).map .ofSignature
  recoverMessage := recoverMessage sampleRecover

theorem swapped_relayers_verify :
    sampleRelayers.reverse ≠ sampleRelayers ∧
    ∃ newRelayers bytes, fetchValidatorList swappedTick 1 = .ok newRelayers ∧
      (∀ sender, buildTransaction swappedTick 1 newRelayers sender =
        (sampleWallet.signMessage bytes).map fun sig =>
          ⟨⟨1, newRelayers, .ofSignature sig⟩, sender⟩) ∧
      (∀ signatures, swappedReplies.getRoundSignatures 1 = .ok signatures →
        swappedReplies.buildRoundupSubmit 1 sampleRelayers =
          (signatures.toVec.map
            (sortByRecovery fun sig => recoverMessage sampleRecover sig bytes)).map
            fun reply => reply.map fun sigs => ⟨1, newRelayers, sigs⟩) ∧
      ∀ sig, sampleWallet.signMessage bytes = .ok sig →
        recoverMessage sampleRecover sig bytes = .ok sampleWallet.address := by
  have hsign : swappedTick.signMessage = sampleWallet.signMessage := rfl
  have hhandler : swappedReplies.recoverMessage = recoverMessage sampleRecover := rfl
  exact ⟨by decide, (roundup_signatures_verify (fun _ _ => sampleRecover_of_signHash) hsign hhandler
    rfl (List.reverse_perm sampleRelayers)).1⟩

end Roundup

end BifrostRelayer
