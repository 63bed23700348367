import BifrostRelayer.Foundation.Fallible
import BifrostRelayer.Keystore.KeypairStorage
import BifrostRelayer.Keystore.Submission
import BifrostRelayer.Payloads.Submissions
import BifrostRelayer.Primitives.Bitcoin

/-!
# The PSBT signer

A relay executive signs the unsigned PSBTs of Bifrost with the keys of its keystore.  What it may
sign depends on the phase of the vault migration: everything in the normal phase, nothing while the
next vault is being set up, and only transfers to the next system vault while the funds move there.

For the last the signer compares each output with the vault, through the address of the output's
script.  A script need not have an address, and the signer unwraps it, so the first output that does
not pay the vault ends the task when it has none.  A broken entry of the keystore and a default
address without a signer end it as well.  `build_payload_phase_iff` says that these are the only
ways in which a payload goes wrong.

The Bitcoin library is a parameter.  A panic is `none`.
-/

namespace BifrostRelayer

namespace Bitcoin

open Fallible Keystore Payloads SolidityAbi

/-! ### The library and the replies -/

/-- An output script. -/
abbrev Script : Type := List UInt8

/-- `Psbt::sign`, which asks its `GetKey` for the private keys of public keys, one after the other.
To other requests the keystores say that they do not support them. -/
inductive PsbtSigning (Psbt : Type) where
  /-- The PSBT is left as it is now. -/
  | done (psbt : Psbt)
  | ask (key : FixedBytes 33) (next : Option (List UInt8) → PsbtSigning Psbt)

namespace PsbtSigning

variable {Psbt : Type}

/-- Signing with a `get_key` that can panic. -/
def run (getKey : FixedBytes 33 → Option (Option (List UInt8))) : PsbtSigning Psbt → Option Psbt
  | .done psbt => some psbt
  | .ask key next =>
      match getKey key with
      | none => none
      | some privateKey => (next privateKey).run getKey

/-- The public keys that are asked for, with a table of private keys. -/
def asked (privateKey : FixedBytes 33 → Option (List UInt8)) :
    PsbtSigning Psbt → List (FixedBytes 33)
  | .done _ => []
  | .ask key next => key :: (next (privateKey key)).asked privateKey

/-- The PSBT that a table of private keys leaves. -/
def signed (privateKey : FixedBytes 33 → Option (List UInt8)) : PsbtSigning Psbt → Psbt
  | .done psbt => psbt
  | .ask key next => (next (privateKey key)).signed privateKey

/-- Signing with a keystore panics on the first entry that is not sound. -/
lemma run_getKey (access : KeyAccess) (signing : PsbtSigning Psbt) :
    ((∀ key ∈ signing.asked access.privateKey, access.Sound key) →
      signing.run access.getKey = some (signing.signed access.privateKey)) ∧
    (¬ (∀ key ∈ signing.asked access.privateKey, access.Sound key) →
      signing.run access.getKey = none) := by
  induction signing with
  | done psbt => exact ⟨fun _ => rfl, fun hbroken => absurd (fun _ hkey => by cases hkey) hbroken⟩
  | ask key next ih =>
    rw [asked, List.forall_mem_cons, run, signed]
    by_cases hsound : access.Sound key
    · rw [(access.getKey_eq key).1 hsound]
      exact ⟨fun hall => (ih _).1 hall.2, fun hbroken => (ih _).2 fun hall => hbroken ⟨hsound, hall⟩⟩
    · rw [(access.getKey_eq key).2 hsound]
      exact ⟨fun hall => absurd hall.1 hsound, fun _ => rfl⟩

end PsbtSigning

/-- What the signer uses of the Bitcoin library, for the network of the relayer. -/
structure BitcoinLibrary (Psbt Inputs : Type) where
  /-- `script_pubkey` of each output of `psbt.unsigned_tx`. -/
  outputScripts : Psbt → List Script
  /-- `psbt.inputs`. -/
  inputs : Psbt → Inputs
  /-- `psbt.sign(..)`. -/
  sign : Psbt → PsbtSigning Psbt
  /-- `psbt.serialize()`. -/
  serialize : Psbt → List UInt8
  /-- `psbt.unsigned_tx.compute_txid()`. -/
  computeTxid : Psbt → B256
  /-- `BtcAddress::from_script(..)`. -/
  fromScript : Script → Option BtcAddress
  /-- `BtcAddress::from_str(..)?.assume_checked()`. -/
  fromStr : String → Except Report BtcAddress
  /-- `script_pubkey()`, the script that an address stands for. -/
  scriptPubkey : BtcAddress → Script
  /-- The address of a script stands for it. -/
  scriptPubkey_of_fromScript :
    ∀ {script address}, fromScript script = some address → scriptPubkey address = script

/-- What the chain and the wallet of the client reply to `build_payload`. -/
structure SignerReplies where
  currentRound : Except Report UInt32
  vaultAddress : UInt32 → Except Report String
  isSignedPsbtSubmitted : B256 → List UInt8 → Except Report Bool
  /-- The addresses that the wallet has signers for. -/
  signers : List Address
  /-- The default address, which other tasks change, when the message is made. -/
  authority : Address
  /-- The default address when `sign_message` reads it. -/
  defaultAddress : Address
  /-- `sign_hash` of the signer of an address. -/
  signHash : Address → (hash : List UInt8) → Except Report (List UInt8)

/-- `sign_message`: without a signer for the default address it panics. -/
def SignerReplies.signMessage (replies : SignerReplies) (message : List UInt8) :
    Option (Except Report (List UInt8)) :=
  if replies.defaultAddress ∈ replies.signers then
    some (replies.signHash replies.defaultAddress (Keccak.keccak256 message))
  else none

/-- `SignedPsbtMessage`. -/
structure SignedPsbtMessage where
  authorityId : AccountId20
  unsignedPsbt : List UInt8
  signedPsbt : List UInt8
deriving DecidableEq

/-- The message that is signed, a label and the signed PSBT. -/
def SignedPsbtMessage.message (m : SignedPsbtMessage) : List UInt8 :=
  Keccak.keccak256 (ascii "SignedPsbt") ++ m.signedPsbt

section Signer

variable {Psbt Inputs : Type} (lib : BitcoinLibrary Psbt Inputs) (replies : SignerReplies)

/-! ### The look at the migration -/

/-- `get_system_vault`. -/
def getSystemVault (round : UInt32) : Except Report BtcAddress := do
  let systemVault ← replies.vaultAddress round
  lib.fromStr systemVault

/-- Whether all outputs pay the vault; the first that does not decides. -/
def allPayVault (systemVault : BtcAddress) : List Script → Option Bool
  | [] => some true
  | script :: scripts =>
      match lib.fromScript script with
      | none => none
      | some address => if address = systemVault then allPayVault systemVault scripts else some false

/-- The look at `migration_sequence`: whether the PSBT may be signed. -/
def checkMigrationSequence (sequence : ServiceState) (unsignedPsbt : Psbt) :
    Option (Except Report Bool) :=
  match sequence with
  | .normal => some (.ok true)
  | .setExecutiveMembers => some (.ok false)
  | .prepareNextSystemVault => some (.ok false)
  | .utxoTransfer =>
      match replies.currentRound with
      | .error report => some (.error report)
      | .ok round =>
          match getSystemVault lib replies (round + 1) with
          | .error report => some (.error report)
          | .ok systemVault =>
              (allPayVault lib systemVault (lib.outputScripts unsignedPsbt)).map .ok

/-- The system vault of the round after the current one. -/
def NextVault (systemVault : BtcAddress) : Prop :=
  ∃ round, replies.currentRound = .ok round ∧
    getSystemVault lib replies (round + 1) = .ok systemVault

/-- The addresses of all outputs are the vault's. -/
def AddressedToVault (systemVault : BtcAddress) (unsignedPsbt : Psbt) : Prop :=
  ∀ script ∈ lib.outputScripts unsignedPsbt, lib.fromScript script = some systemVault

/-- The first output that is not addressed to the vault has an address. -/
def ForeignOutputAddressed (systemVault : BtcAddress) (unsignedPsbt : Psbt) : Prop :=
  ∀ script, (lib.outputScripts unsignedPsbt).find?
      (fun script => lib.fromScript script ≠ some systemVault) = some script →
    lib.fromScript script ≠ none

lemma allPayVault_eq (systemVault : BtcAddress) (scripts : List Script) :
    allPayVault lib systemVault scripts =
      match scripts.find? fun script => lib.fromScript script ≠ some systemVault with
      | none => some true
      | some script => (lib.fromScript script).map fun _ => false := by
  induction scripts with
  | nil => rfl
  | cons script scripts ih =>
    cases haddress : lib.fromScript script with
    | none => simp [allPayVault, haddress]
    | some address =>
      by_cases heq : address = systemVault
      · simp [allPayVault, haddress, heq, ih]
      · simp [allPayVault, haddress, heq]

lemma allPayVault_eq_true_iff (systemVault : BtcAddress) (unsignedPsbt : Psbt) :
    allPayVault lib systemVault (lib.outputScripts unsignedPsbt) = some true ↔
      AddressedToVault lib systemVault unsignedPsbt := by
  rw [allPayVault_eq, AddressedToVault]
  cases hfind : (lib.outputScripts unsignedPsbt).find?
      fun script => lib.fromScript script ≠ some systemVault with
  | none => simpa [List.find?_eq_none] using hfind
  | some script =>
    have hne : lib.fromScript script ≠ some systemVault := by
      simpa using List.find?_some hfind
    refine iff_of_false (by simp) fun hall => hne (hall script (List.mem_of_find?_eq_some hfind))

lemma allPayVault_eq_none_iff (systemVault : BtcAddress) (unsignedPsbt : Psbt) :
    allPayVault lib systemVault (lib.outputScripts unsignedPsbt) = none ↔
      ¬ ForeignOutputAddressed lib systemVault unsignedPsbt := by
  rw [allPayVault_eq, ForeignOutputAddressed]
  cases hfind : (lib.outputScripts unsignedPsbt).find?
      fun script => lib.fromScript script ≠ some systemVault with
  | none => simp
  | some script => simp

/-- The PSBTs that the look at the migration lets through. -/
def MaySign (sequence : ServiceState) (unsignedPsbt : Psbt) : Prop :=
  sequence = .normal ∨ sequence = .utxoTransfer ∧
    ∃ systemVault, NextVault lib replies systemVault ∧
      AddressedToVault lib systemVault unsignedPsbt

lemma checkMigrationSequence_utxoTransfer {systemVault : BtcAddress}
    (hvault : NextVault lib replies systemVault) (unsignedPsbt : Psbt) :
    checkMigrationSequence lib replies .utxoTransfer unsignedPsbt =
      (allPayVault lib systemVault (lib.outputScripts unsignedPsbt)).map .ok := by
  obtain ⟨round, hround, hsystem⟩ := hvault
  simp [checkMigrationSequence, hround, hsystem]

/-- Without a vault to compare with, the look at the migration fails. -/
lemma checkMigrationSequence_of_not_nextVault
    (hvault : ∀ systemVault, ¬ NextVault lib replies systemVault) (unsignedPsbt : Psbt) :
    ∃ report, checkMigrationSequence lib replies .utxoTransfer unsignedPsbt =
      some (.error report) := by
  unfold checkMigrationSequence
  cases hround : replies.currentRound with
  | error report => exact ⟨report, rfl⟩
  | ok round =>
    cases hsystem : getSystemVault lib replies (round + 1) with
    | error report => exact ⟨report, by simp [hsystem]⟩
    | ok systemVault => exact absurd ⟨round, hround, hsystem⟩ (hvault systemVault)

lemma NextVault.unique {systemVault systemVault' : BtcAddress}
    (h : NextVault lib replies systemVault) (h' : NextVault lib replies systemVault') :
    systemVault = systemVault' := by
  obtain ⟨round, hround, hsystem⟩ := h
  obtain ⟨round', hround', hsystem'⟩ := h'
  rw [hround, Except.ok.injEq] at hround'
  rw [← hround', hsystem, Except.ok.injEq] at hsystem'
  exact hsystem'

lemma checkMigrationSequence_eq_none_iff (sequence : ServiceState) (unsignedPsbt : Psbt) :
    checkMigrationSequence lib replies sequence unsignedPsbt = none ↔
      sequence = .utxoTransfer ∧ ∃ systemVault, NextVault lib replies systemVault ∧
        ¬ ForeignOutputAddressed lib systemVault unsignedPsbt := by
  cases sequence with
  | normal => simp [checkMigrationSequence]
  | setExecutiveMembers => simp [checkMigrationSequence]
  | prepareNextSystemVault => simp [checkMigrationSequence]
  | utxoTransfer =>
    rw [eq_self, true_and]
    by_cases hvault : ∃ systemVault, NextVault lib replies systemVault
    · obtain ⟨systemVault, hvault⟩ := hvault
      rw [checkMigrationSequence_utxoTransfer lib replies hvault, Option.map_eq_none_iff,
        allPayVault_eq_none_iff]
      refine ⟨fun hforeign => ⟨systemVault, hvault, hforeign⟩, fun ⟨vault, hvault', hforeign⟩ => ?_⟩
      rwa [NextVault.unique lib replies hvault hvault']
    · obtain ⟨report, hcheck⟩ :=
        checkMigrationSequence_of_not_nextVault lib replies (not_exists.mp hvault) unsignedPsbt
      rw [hcheck]
      exact iff_of_false (by simp) fun ⟨systemVault, hvault', _⟩ => hvault ⟨systemVault, hvault'⟩

lemma checkMigrationSequence_eq_true_iff (sequence : ServiceState) (unsignedPsbt : Psbt) :
    checkMigrationSequence lib replies sequence unsignedPsbt = some (.ok true) ↔
      MaySign lib replies sequence unsignedPsbt := by
  unfold MaySign
  cases sequence with
  | normal => simp [checkMigrationSequence]
  | setExecutiveMembers => simp [checkMigrationSequence]
  | prepareNextSystemVault => simp [checkMigrationSequence]
  | utxoTransfer =>
    rw [eq_self, true_and, or_iff_right (by simp)]
    by_cases hvault : ∃ systemVault, NextVault lib replies systemVault
    · obtain ⟨systemVault, hvault⟩ := hvault
      have hpay : (allPayVault lib systemVault (lib.outputScripts unsignedPsbt)).map
            Except.ok = some (.ok true : Except Report Bool) ↔
          AddressedToVault lib systemVault unsignedPsbt := by
        rw [← allPayVault_eq_true_iff, Option.map_eq_some_iff]
        simp
      rw [checkMigrationSequence_utxoTransfer lib replies hvault, hpay]
      refine ⟨fun haddressed => ⟨systemVault, hvault, haddressed⟩,
        fun ⟨vault, hvault', haddressed⟩ => ?_⟩
      rwa [NextVault.unique lib replies hvault hvault']
    · obtain ⟨report, hcheck⟩ :=
        checkMigrationSequence_of_not_nextVault lib replies (not_exists.mp hvault) unsignedPsbt
      rw [hcheck]
      exact iff_of_false (by simp) fun ⟨systemVault, hvault', _⟩ => hvault ⟨systemVault, hvault'⟩

/-! ### The functions -/

variable [DecidableEq Inputs] (access : KeyAccess)

/-- `KeypairStorageT::sign_psbt`: the PSBT that signing leaves, and whether its inputs changed.  What
`sign_psbt_inner` returns is only logged. -/
def signPsbt (psbt : Psbt) : Option (Psbt × Bool) :=
  ((lib.sign psbt).run access.getKey).map fun signed =>
    (signed, decide (lib.inputs signed ≠ lib.inputs psbt))

/-- `build_payload` behind `sign_psbt`. -/
def submitPayload (unsignedPsbt psbt : Psbt) :
    Option (Except Report (Option (SignedPsbtMessage × List UInt8))) :=
  let signedPsbt := lib.serialize psbt
  match replies.isSignedPsbtSubmitted (reverseBytes (lib.computeTxid psbt)) signedPsbt with
  | .error report => some (.error report)
  | .ok true => some (.ok none)
  | .ok false =>
      let msg : SignedPsbtMessage :=
        ⟨replies.authority.bytes, lib.serialize unsignedPsbt, signedPsbt⟩
      (replies.signMessage msg.message).map fun reply =>
        reply.map fun signature => some (msg, signature)

/-- `build_payload` behind the look at `migration_sequence`. -/
def signPayload (unsignedPsbt : Psbt) :
    Option (Except Report (Option (SignedPsbtMessage × List UInt8))) :=
  match signPsbt lib access unsignedPsbt with
  | none => none
  | some (psbt, true) => submitPayload lib replies unsignedPsbt psbt
  | some (_, false) => some (.ok none)

/-- `PsbtSigner::build_payload`. -/
def buildSignedPayload (sequence : ServiceState) (unsignedPsbt : Psbt) :
    Option (Except Report (Option (SignedPsbtMessage × List UInt8))) :=
  match checkMigrationSequence lib replies sequence unsignedPsbt with
  | none => none
  | some (.error report) => some (.error report)
  | some (.ok false) => some (.ok none)
  | some (.ok true) => signPayload lib replies access unsignedPsbt

/-! ### What a payload should be -/

/-- Every output pays the system vault of the next round. -/
def PaysNextVault (unsignedPsbt : Psbt) : Prop :=
  ∃ systemVault, NextVault lib replies systemVault ∧
    ∀ script ∈ lib.outputScripts unsignedPsbt, script = lib.scriptPubkey systemVault

/-- The PSBT, signed with the private keys of the keystore. -/
def signedPsbt (unsignedPsbt : Psbt) : Psbt := (lib.sign unsignedPsbt).signed access.privateKey

/-- The keystore has a signature to add, and the chain does not have the result yet. -/
def IsNew (unsignedPsbt : Psbt) : Prop :=
  lib.inputs (signedPsbt lib access unsignedPsbt) ≠ lib.inputs unsignedPsbt ∧
    replies.isSignedPsbtSubmitted
      (reverseBytes (lib.computeTxid (signedPsbt lib access unsignedPsbt)))
      (lib.serialize (signedPsbt lib access unsignedPsbt)) = .ok false

/-- A payload is built without a panic; a signed message respects the phase of the migration, is made
of changed inputs, is new, and has the original PSBT next to the signed one. -/
def RespectsPhase (sequence : ServiceState) (unsignedPsbt : Psbt) : Prop :=
  ∃ result, buildSignedPayload lib replies access sequence unsignedPsbt = some result ∧
    ∀ msg signature, result = .ok (some (msg, signature)) →
      (sequence = .normal ∨ sequence = .utxoTransfer ∧ PaysNextVault lib replies unsignedPsbt) ∧
      IsNew lib replies access unsignedPsbt ∧
      msg = ⟨replies.authority.bytes, lib.serialize unsignedPsbt,
        lib.serialize (signedPsbt lib access unsignedPsbt)⟩

/-- The inputs on which `build_payload` does not panic. -/
structure SignerUnharmed (sequence : ServiceState) (unsignedPsbt : Psbt) : Prop where
  outputs : sequence = .utxoTransfer → ∀ systemVault, NextVault lib replies systemVault →
    ForeignOutputAddressed lib systemVault unsignedPsbt
  /-- The entries of the keystore that a PSBT needs which may be signed. -/
  keystore : MaySign lib replies sequence unsignedPsbt →
    ∀ key ∈ (lib.sign unsignedPsbt).asked access.privateKey, access.Sound key
  /-- The signer of a PSBT which may be signed and is new. -/
  signer : MaySign lib replies sequence unsignedPsbt → IsNew lib replies access unsignedPsbt →
    replies.defaultAddress ∈ replies.signers

/-! ### Payloads -/

lemma signPsbt_eq (unsignedPsbt : Psbt) :
    ((∀ key ∈ (lib.sign unsignedPsbt).asked access.privateKey, access.Sound key) →
      signPsbt lib access unsignedPsbt = some (signedPsbt lib access unsignedPsbt,
        decide (lib.inputs (signedPsbt lib access unsignedPsbt) ≠ lib.inputs unsignedPsbt))) ∧
    (¬ (∀ key ∈ (lib.sign unsignedPsbt).asked access.privateKey, access.Sound key) →
      signPsbt lib access unsignedPsbt = none) := by
  obtain ⟨hsound, hbroken⟩ := (lib.sign unsignedPsbt).run_getKey access
  unfold signPsbt
  exact ⟨fun h => by rw [hsound h]; rfl, fun h => by rw [hbroken h]; rfl⟩

/-- What a signed message is made of. -/
lemma signPayload_eq_some {unsignedPsbt : Psbt} {msg : SignedPsbtMessage} {signature : List UInt8}
    (h : signPayload lib replies access unsignedPsbt = some (.ok (some (msg, signature)))) :
    IsNew lib replies access unsignedPsbt ∧
      msg = ⟨replies.authority.bytes, lib.serialize unsignedPsbt,
        lib.serialize (signedPsbt lib access unsignedPsbt)⟩ := by
  unfold signPayload at h
  by_cases hsound : ∀ key ∈ (lib.sign unsignedPsbt).asked access.privateKey, access.Sound key
  · rw [(signPsbt_eq lib access unsignedPsbt).1 hsound] at h
    by_cases hchanged : lib.inputs (signedPsbt lib access unsignedPsbt) ≠ lib.inputs unsignedPsbt
    · rw [decide_eq_true hchanged] at h
      simp only [submitPayload] at h
      split at h
      next => cases h
      next => cases h
      next hnew =>
        obtain ⟨reply, -, h⟩ := Option.map_eq_some_iff.mp h
        cases reply with
        | error report => cases h
        | ok signature' =>
          cases h
          exact ⟨⟨hchanged, hnew⟩, rfl⟩
    · rw [decide_eq_false hchanged] at h
      cases h
  · rw [(signPsbt_eq lib access unsignedPsbt).2 hsound] at h
    cases h

lemma signPayload_eq_none_iff (unsignedPsbt : Psbt) :
    signPayload lib replies access unsignedPsbt = none ↔
      ¬ ((∀ key ∈ (lib.sign unsignedPsbt).asked access.privateKey, access.Sound key) ∧
        (IsNew lib replies access unsignedPsbt → replies.defaultAddress ∈ replies.signers)) := by
  unfold signPayload
  by_cases hsound : ∀ key ∈ (lib.sign unsignedPsbt).asked access.privateKey, access.Sound key
  · rw [(signPsbt_eq lib access unsignedPsbt).1 hsound]
    by_cases hchanged : lib.inputs (signedPsbt lib access unsignedPsbt) ≠ lib.inputs unsignedPsbt
    · rw [decide_eq_true hchanged]
      simp only [submitPayload]
      split
      next report hreply =>
        exact iff_of_false (by simp) fun hnot =>
          hnot ⟨hsound, fun hnew => by cases hreply.symm.trans hnew.2⟩
      next hreply =>
        exact iff_of_false (by simp) fun hnot =>
          hnot ⟨hsound, fun hnew => by cases hreply.symm.trans hnew.2⟩
      next hreply =>
        by_cases hsigner : replies.defaultAddress ∈ replies.signers
        · exact iff_of_false (by simp [SignerReplies.signMessage, hsigner]) fun hnot =>
            hnot ⟨hsound, fun _ => hsigner⟩
        · exact iff_of_true (by simp [SignerReplies.signMessage, hsigner]) fun hall =>
            hsigner (hall.2 ⟨hchanged, hreply⟩)
    · rw [decide_eq_false hchanged]
      refine iff_of_false (by simp) fun hnot => hnot ⟨hsound, fun hnew => absurd hnew.1 hchanged⟩
  · rw [(signPsbt_eq lib access unsignedPsbt).2 hsound]
    exact iff_of_true rfl fun hall => hsound hall.1

/-- What ends the task. -/
lemma buildSignedPayload_eq_none_iff (sequence : ServiceState) (unsignedPsbt : Psbt) :
    buildSignedPayload lib replies access sequence unsignedPsbt = none ↔
      ¬ SignerUnharmed lib replies access sequence unsignedPsbt := by
  have hunharmed : SignerUnharmed lib replies access sequence unsignedPsbt ↔
      checkMigrationSequence lib replies sequence unsignedPsbt ≠ none ∧
        (checkMigrationSequence lib replies sequence unsignedPsbt = some (.ok true) →
          signPayload lib replies access unsignedPsbt ≠ none) := by
    rw [Ne, checkMigrationSequence_eq_none_iff, checkMigrationSequence_eq_true_iff, Ne,
      signPayload_eq_none_iff, not_not]
    refine ⟨fun h => ⟨?_, fun hmay => ⟨h.keystore hmay, h.signer hmay⟩⟩,
      fun h => ⟨?_, fun hmay => (h.2 hmay).1, fun hmay => (h.2 hmay).2⟩⟩
    · rintro ⟨hsequence, systemVault, hvault, hforeign⟩
      exact hforeign (h.outputs hsequence systemVault hvault)
    · intro hsequence systemVault hvault
      by_contra hforeign
      exact h.1 ⟨hsequence, systemVault, hvault, hforeign⟩
  rw [hunharmed]
  unfold buildSignedPayload
  cases hcheck : checkMigrationSequence lib replies sequence unsignedPsbt with
  | none => simp
  | some result =>
    match result with
    | .error report => simp
    | .ok false => simp
    | .ok true => simp

/-- A payload is built without a panic and respects the phase of the migration exactly when, during
the transfer, the first output that does not pay the next vault has an address, the entries of the
keystore are sound that a PSBT needs which may be signed, and the default address has a signer when
there is something new to sign. -/
theorem build_payload_phase_iff (sequence : ServiceState) (unsignedPsbt : Psbt) :
    RespectsPhase lib replies access sequence unsignedPsbt ↔
      SignerUnharmed lib replies access sequence unsignedPsbt := by
  refine ⟨fun ⟨result, hresult, _⟩ => ?_, fun hunharmed => ?_⟩
  · by_contra hharmed
    rw [(buildSignedPayload_eq_none_iff lib replies access sequence unsignedPsbt).mpr hharmed]
      at hresult
    cases hresult
  · obtain ⟨result, hresult⟩ := Option.ne_none_iff_exists'.mp fun hnone =>
      (buildSignedPayload_eq_none_iff lib replies access sequence unsignedPsbt).mp hnone hunharmed
    refine ⟨result, hresult, fun msg signature hmsg => ?_⟩
    rw [hmsg, buildSignedPayload] at hresult
    -- Only a PSBT that may be signed gets behind the look at the migration.
    split at hresult
    · cases hresult
    · cases hresult
    · cases hresult
    · rename_i hcheck
      have hmay := (checkMigrationSequence_eq_true_iff lib replies sequence unsignedPsbt).mp hcheck
      refine ⟨hmay.imp_right fun ⟨hsequence, systemVault, hvault, haddressed⟩ => ?_,
        signPayload_eq_some lib replies access hresult⟩
      exact ⟨hsequence, systemVault, hvault, fun script hscript =>
        (lib.scriptPubkey_of_fromScript (haddressed script hscript)).symm⟩

end Signer

/-! ### An output without an address -/

/-- A witness program of 20 bytes, as an output script. -/
def witnessScript (x : UInt8) : Script := [0x00, 0x14] ++ List.replicate 20 x

/-- A library in which a PSBT is the list of its output scripts and the number of its signatures, only
witness programs of 20 bytes have addresses, and signing needs one key. -/
def sampleBitcoinLibrary : BitcoinLibrary (List Script × ℕ) ℕ where
  outputScripts psbt := psbt.1
  inputs psbt := psbt.2
  sign psbt := .ask (FixedBytes.repeatByte 33 2) fun privateKey =>
    .done (psbt.1, if privateKey.isSome then psbt.2 + 1 else psbt.2)
  serialize psbt := psbt.1.flatten ++ [.ofNat psbt.2]
  computeTxid _ := FixedBytes.repeatByte 32 7
  fromScript script :=
    if script.take 2 = [0x00, 0x14] then
      some ⟨String.ofList (script.map fun b => Char.ofNat b.toNat)⟩
    else none
  fromStr text := .ok ⟨text⟩
  scriptPubkey address := address.text.toList.map fun c => .ofNat c.toNat
  scriptPubkey_of_fromScript := by
    intro script address haddress
    obtain ⟨-, haddress⟩ := Option.ite_none_right_eq_some.mp haddress
    obtain rfl := Option.some.inj haddress
    rw [String.toList_ofList, List.map_map]
    refine (List.map_congr_left fun b _ => ?_).trans (List.map_id script)
    have hvalid : b.toNat.isValidChar := .inl (b.toNat_lt.trans (by norm_num))
    simp [Char.toNat_ofNat, hvalid]

/-- A chain in round 1 whose next vault is a witness program, and a wallet with one signer. -/
def sampleSignerReplies : SignerReplies where
  currentRound := .ok 1
  vaultAddress _ := .ok (String.ofList ((witnessScript 9).map fun b => Char.ofNat b.toNat))
  isSignedPsbtSubmitted _ _ := .ok false
  signers := [⟨FixedBytes.repeatByte 20 1⟩]
  authority := ⟨FixedBytes.repeatByte 20 1⟩
  defaultAddress := ⟨FixedBytes.repeatByte 20 1⟩
  signHash _ hash := .ok hash

/-- A keystore without encryption that has the key. -/
def sampleKeyAccess : KeyAccess where
  services := ⟨fun _ => true, fun _ _ _ => none, fun _ _ _ => none, fun _ _ _ => none,
    fun _ _ => none, fun _ _ _ => none⟩
  storage := (KeypairStorage.new "./keys" (.password none)).load 1
  disk _ := AList.singleton (FixedBytes.repeatByte 33 2).val (Hex.encode [5])
  unreadable _ := false
  publicKey _ := some (FixedBytes.repeatByte 33 2)

/-- An unsigned PSBT that pays the next vault and has a data output behind it ends the task, although
its keys and its signer are there. -/
theorem data_output_panics :
    ¬ RespectsPhase sampleBitcoinLibrary sampleSignerReplies sampleKeyAccess .utxoTransfer
      ([witnessScript 9, [0x6a, 0x01, 0xff]], 0) := by
  rintro ⟨result, hresult, -⟩
  have hpanic : (buildSignedPayload sampleBitcoinLibrary sampleSignerReplies sampleKeyAccess
      .utxoTransfer ([witnessScript 9, [0x6a, 0x01, 0xff]], 0)).isNone = true := by decide +kernel
  rw [hresult] at hpanic
  cases hpanic

/-- Without the data output, a message is signed. -/
example : (buildSignedPayload sampleBitcoinLibrary sampleSignerReplies sampleKeyAccess
    .utxoTransfer ([witnessScript 9], 0)).any (fun result =>
      result.toOption.any Option.isSome) = true := by
  decide +kernel

end Bitcoin

end BifrostRelayer
