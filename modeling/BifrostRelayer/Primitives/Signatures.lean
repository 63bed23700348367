import BifrostRelayer.Foundation.Fallible
import BifrostRelayer.Primitives.Socket

/-!
# The signatures of a socket message

The contracts take the signatures of several relayers as three parallel lists.  A relayer passes on
its own signature, or the ones that the contract has collected, ordered by the addresses of their
signers.
-/

namespace BifrostRelayer

open Fallible SolidityAbi

/-- A signature: the numbers `r` and `s` as words, and the parity. -/
structure Signature where
  r : B256
  s : B256
  v : Bool
deriving DecidableEq

/-- The byte of the parity, `v() as u8 + 27`. -/
def Signature.parity (sig : Signature) : UInt8 := (if sig.v then 1 else 0) + 27

/-- `Socket_Struct.Signatures`. -/
structure Signatures where
  r : List B256
  s : List B256
  v : List UInt8
deriving DecidableEq

namespace Signatures

/-- `Signatures::default()`. -/
def empty : Signatures := ⟨[], [], []⟩

/-- `From<Signature> for Signatures`. -/
def ofSignature (sig : Signature) : Signatures := ⟨[sig.r], [sig.s], [sig.parity]⟩

/-- `From<Vec<Signature>> for Signatures`. -/
def ofVec (sigs : List Signature) : Signatures :=
  ⟨sigs.map Signature.r, sigs.map Signature.s, sigs.map Signature.parity⟩

/-- The loop of `From<Signatures> for Vec<Signature>`, which indexes the other two lists by the
positions of the first and panics if one of them is too short. -/
def zipSignatures : List B256 → List B256 → List UInt8 → Option (List Signature)
  | [], _, _ => some []
  | r :: rs, s :: ss, v :: vs => (zipSignatures rs ss vs).map (⟨r, s, v - 27 != 0⟩ :: ·)
  | _ :: _, _, _ => none

/-- `From<Signatures> for Vec<Signature>`. -/
def toVec (signatures : Signatures) : Option (List Signature) :=
  zipSignatures signatures.r signatures.s signatures.v

/-- Splitting signatures into lists loses nothing. -/
theorem toVec_ofVec (sigs : List Signature) : (ofVec sigs).toVec = some sigs := by
  induction sigs with
  | nil => rfl
  | cons sig sigs ih =>
    have hparity : (sig.parity - 27 != 0) = sig.v := by
      cases hv : sig.v <;> simp [Signature.parity, hv]
    simp only [toVec, ofVec, List.map_cons, zipSignatures, hparity] at ih ⊢
    rw [ih, Option.map_some]

/-- The three lists have the same length, and the parities are 27 or 28. -/
structure WellFormed (signatures : Signatures) : Prop where
  length_s : signatures.s.length = signatures.r.length
  length_v : signatures.v.length = signatures.r.length
  parity : ∀ v ∈ signatures.v, v = 27 ∨ v = 28

/-- The three lists side by side. -/
def triples (signatures : Signatures) : List (B256 × B256 × UInt8) :=
  signatures.r.zip (signatures.s.zip signatures.v)

lemma wellFormed_ofVec (sigs : List Signature) : (ofVec sigs).WellFormed where
  length_s := by simp [ofVec]
  length_v := by simp [ofVec]
  parity := by
    intro v hv
    obtain ⟨sig, -, rfl⟩ := List.mem_map.mp hv
    cases hparity : sig.v <;> simp [Signature.parity, hparity]

lemma triples_ofVec (sigs : List Signature) :
    (ofVec sigs).triples = sigs.map fun sig => (sig.r, sig.s, sig.parity) := by
  simp only [triples, ofVec, List.zip_map']

/-- A parity byte is read and written back. -/
lemma parity_read {r s : B256} {v : UInt8} (hv : v = 27 ∨ v = 28) :
    (Signature.mk r s (v - 27 != 0)).parity = v := by
  obtain rfl | rfl := hv <;> rfl

/-- Lists that are well formed are put together and split again. -/
theorem exists_toVec {signatures : Signatures} (hwf : signatures.WellFormed) :
    ∃ sigs, signatures.toVec = some sigs ∧ ofVec sigs = signatures := by
  obtain ⟨rs, ss, vs⟩ := signatures
  obtain ⟨hs, hv, hparity⟩ := hwf
  dsimp only at hs hv hparity
  induction rs generalizing ss vs with
  | nil =>
    obtain rfl := List.length_eq_zero_iff.mp hs
    obtain rfl := List.length_eq_zero_iff.mp hv
    exact ⟨[], rfl, rfl⟩
  | cons r rs ih =>
    obtain ⟨s, ss, rfl⟩ := List.exists_cons_of_length_eq_add_one hs
    obtain ⟨v, vs, rfl⟩ := List.exists_cons_of_length_eq_add_one hv
    obtain ⟨hparity, hparities⟩ := List.forall_mem_cons.mp hparity
    obtain ⟨sigs, hsigs, hback⟩ := ih ss vs (Nat.succ.inj hs) (Nat.succ.inj hv) hparities
    refine ⟨⟨r, s, v - 27 != 0⟩ :: sigs, ?_, ?_⟩
    · rw [toVec] at hsigs ⊢
      rw [zipSignatures, hsigs, Option.map_some]
    · rw [ofVec, Signatures.mk.injEq] at hback ⊢
      simp only [List.map_cons, parity_read hparity, hback, and_self]

end Signatures

/-! ### Round-ups -/

/-- `encode_roundup_param`: the parameters `(uint256, address[])`. -/
def encodeRoundupParam (round : BitVec 256) (newRelayers : List Address) : List UInt8 :=
  abiEncodeParams [.word (beBytes 32 round.toNat), .array (newRelayers.map addressWord)]

lemma encodeRoundupParam_eq (round : BitVec 256) (newRelayers : List Address) :
    encodeRoundupParam round newRelayers =
      beBytes 32 round.toNat ++ (beBytes 32 64 ++
        (beBytes 32 newRelayers.length ++ (newRelayers.map addressWord).flatten)) := by
  simp [encodeRoundupParam, abiEncodeParams, Param.heads, Param.tail]

/-! ### Signing and collecting -/

/-- What the code for signatures asks others for. -/
structure SigningReplies where
  /-- `sign_message` of a client that has the signer of its default address. -/
  signMessage : List UInt8 → Except Report Signature
  /-- `get_signatures` of the socket contract. -/
  getSignatures : RequestId → BitVec 8 → Except Report Signatures
  /-- `recover_message`. -/
  recoverMessage : Signature → List UInt8 → Except Report Address

/-- The order of signatures by the addresses of their signers. -/
def signerLe (a b : Address × Signature) : Bool := decide (a.1.bytes.val ≤ b.1.bytes.val)

/-- The signatures of a list, ordered by the addresses that they recover to: what both
`get_sorted_signatures` make of the reply of the contract. -/
def sortByRecovery (recover : Signature → Except Report Address) (sigs : List Signature) :
    Except Report Signatures := do
  let keyed ← sigs.mapM fun sig => (recover sig).map fun addr => (addr, sig)
  return .ofVec ((keyed.insertionSort fun a b => signerLe a b = true).map Prod.snd)

/-- The signer of one signature is not behind that of another. -/
def SignerOrder (recover : Signature → Except Report Address) (a b : Signature) : Prop :=
  ∀ x y, recover a = .ok x → recover b = .ok y → x.bytes.val ≤ y.bytes.val

/-- If no signer can be recovered from some signature, the call fails. -/
lemma exists_sortByRecovery_eq_error {recover : Signature → Except Report Address}
    {sigs : List Signature} {sig : Signature} (hmem : sig ∈ sigs) {report : Report}
    (hrecover : recover sig = .error report) :
    ∃ report', sortByRecovery recover sigs = .error report' := by
  have hkeyed : (recover sig).map (fun addr => (addr, sig)) = .error report := by
    rw [hrecover]
    rfl
  obtain ⟨report', hreport⟩ :=
    exists_mapM_eq_error (f := fun sig => (recover sig).map fun addr => (addr, sig)) hmem hkeyed
  exact ⟨report', by rw [sortByRecovery, hreport]; rfl⟩

/-- Otherwise the signatures are reordered by their signers. -/
lemma exists_sortByRecovery_eq_ok {recover : Signature → Except Report Address}
    {sigs : List Signature} (hrecover : ∀ sig ∈ sigs, ∃ signer, recover sig = .ok signer) :
    ∃ sorted, sortByRecovery recover sigs = .ok (.ofVec sorted) ∧ sorted.Perm sigs ∧
      sorted.Pairwise (SignerOrder recover) := by
  -- The keyed list has the recovered signer next to each signature.
  obtain ⟨keyed, hkeyed, hsigs, hsigners⟩ : ∃ keyed : List (Address × Signature),
      (sigs.mapM fun sig => (recover sig).map fun addr => (addr, sig)) = .ok keyed ∧
        keyed.map Prod.snd = sigs ∧ ∀ entry ∈ keyed, recover entry.2 = .ok entry.1 := by
    induction sigs with
    | nil => exact ⟨[], rfl, rfl, by simp⟩
    | cons sig sigs ih =>
      obtain ⟨⟨signer, hsigner⟩, hrest⟩ := List.forall_mem_cons.mp hrecover
      obtain ⟨keyed, hkeyed, hsigs, hsigners⟩ := ih hrest
      refine ⟨(signer, sig) :: keyed, ?_, by rw [List.map_cons, hsigs], ?_⟩
      · rw [List.mapM_cons, hsigner, hkeyed]
        rfl
      · exact List.forall_mem_cons.mpr ⟨hsigner, hsigners⟩
  have htotal : Std.Total fun a b : Address × Signature => signerLe a b = true :=
    ⟨fun a b => by simpa [signerLe] using List.le_total a.1.bytes.val b.1.bytes.val⟩
  have htrans : IsTrans (Address × Signature) fun a b => signerLe a b = true :=
    ⟨fun a b c hab hbc => by
      simp only [signerLe, decide_eq_true_eq] at hab hbc ⊢
      exact List.le_trans hab hbc⟩
  have hperm := List.perm_insertionSort (fun a b : Address × Signature => signerLe a b = true) keyed
  have hsorted :=
    List.pairwise_insertionSort (fun a b : Address × Signature => signerLe a b = true) keyed
  refine ⟨_, by rw [sortByRecovery, hkeyed]; rfl, hsigs ▸ hperm.map Prod.snd, ?_⟩
  rw [List.pairwise_map]
  refine hsorted.imp_of_mem fun {a b} ha hb hle x y hx hy => ?_
  rw [hsigners a (hperm.mem_iff.mp ha), Except.ok.injEq] at hx
  rw [hsigners b (hperm.mem_iff.mp hb), Except.ok.injEq] at hy
  rw [← hx, ← hy]
  exact of_decide_eq_true hle

/-- A reply is sorted right: if some signature has no signer, the result is an error; otherwise it is
the reply with its triples in the order of their signers. -/
def SortsSignatures (recover : Signature → Except Report Address) (signatures : Signatures)
    (result : Option (Except Report Signatures)) : Prop :=
  ∃ sigs, signatures.toVec = some sigs ∧
    ((∃ sig ∈ sigs, ∃ report, recover sig = .error report) →
      ∃ report, result = some (.error report)) ∧
    ((∀ sig ∈ sigs, ∃ signer, recover sig = .ok signer) →
      ∃ sorted sortedSigs, result = some (.ok sorted) ∧ sorted.WellFormed ∧
        sorted.triples.Perm signatures.triples ∧ sorted.toVec = some sortedSigs ∧
        sortedSigs.Pairwise (SignerOrder recover))

/-- What both `get_sorted_signatures` make of a reply that is well formed. -/
theorem sortsSignatures_sortByRecovery (recover : Signature → Except Report Address)
    {signatures : Signatures} (hwf : signatures.WellFormed) :
    SortsSignatures recover signatures (signatures.toVec.map (sortByRecovery recover)) := by
  obtain ⟨sigs, hsigs, hback⟩ := Signatures.exists_toVec hwf
  refine ⟨sigs, hsigs, ?_, ?_⟩
  · rintro ⟨sig, hmem, report, hreport⟩
    obtain ⟨report', hresult⟩ := exists_sortByRecovery_eq_error hmem hreport
    exact ⟨report', by rw [hsigs, Option.map_some, hresult]⟩
  · intro hrecover
    obtain ⟨sorted, hresult, hperm, hsorted⟩ := exists_sortByRecovery_eq_ok hrecover
    refine ⟨.ofVec sorted, sorted, by rw [hsigs, Option.map_some, hresult],
      Signatures.wellFormed_ofVec sorted, ?_, Signatures.toVec_ofVec sorted, hsorted⟩
    rw [← hback, Signatures.triples_ofVec, Signatures.triples_ofVec]
    exact hperm.map _

namespace SigningReplies

/-- `sign_socket_message`. -/
def signSocketMessage (replies : SigningReplies) (msg : SocketMessage) : Except Report Signature :=
  replies.signMessage msg.toVec

/-- `get_sorted_signatures`; `none` is the panic in the conversion of the reply. -/
def getSortedSignatures (replies : SigningReplies) (msg : SocketMessage) :
    Option (Except Report Signatures) :=
  match replies.getSignatures msg.reqId msg.status with
  | .error e => some (.error e)
  | .ok signatures =>
      signatures.toVec.map fun sigs => do
        let keyed ← sigs.mapM fun sig =>
          (replies.recoverMessage sig msg.abiEncode).map fun addr => (addr, sig)
        return .ofVec ((keyed.insertionSort fun a b => signerLe a b = true).map Prod.snd)

lemma getSortedSignatures_eq {replies : SigningReplies} {msg : SocketMessage}
    {signatures : Signatures} (h : replies.getSignatures msg.reqId msg.status = .ok signatures) :
    replies.getSortedSignatures msg = signatures.toVec.map
      (sortByRecovery fun sig => replies.recoverMessage sig msg.abiEncode) := by
  rw [getSortedSignatures, h]
  rfl

end SigningReplies

end BifrostRelayer
