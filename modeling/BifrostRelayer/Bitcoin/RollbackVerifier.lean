import BifrostRelayer.Foundation.Runs
import BifrostRelayer.Primitives.Bitcoin
import BifrostRelayer.Rollback.Emitter
import Mathlib.Data.List.AList

/-!
# The verifier of rollback requests

A user can ask for a Bitcoin output back that the bridge did not process.  The relayers fetch the
pending requests from the chain, compare each with the Bitcoin transaction it names, and vote.
`is_rollback_valid` is the comparison.  It misses two cases: an index that is the number of outputs
passes the bounds check and panics, and a transaction without confirmations passes the check of
their number.  `isRollbackValid_eq_iff` says that it is exact on all other inputs, and the runs of
the verifier say what this means for its votes.
-/

namespace BifrostRelayer

namespace Bitcoin

open SolidityAbi Rollback

/-! ### Requests and transactions -/

/-- What a run checks of an output of a transaction. -/
structure TransactionOutput (A : Type) where
  /-- The amount in satoshi. -/
  value : UInt64
  /-- The address of the script, if it has one. -/
  address : Option A
deriving DecidableEq

/-- What a run checks of `GetRawTransactionResult`. -/
structure GetRawTransactionResult (A : Type) where
  confirmations : Option UInt32
  vout : List (TransactionOutput A)
deriving DecidableEq

/-- `rollback_requestReturn`. -/
structure RollbackRequestReturn where
  unsignedPsbt : List UInt8
  who : Address
  txid : B256
  vout : BitVec 256
  toAddress : List UInt8
  amount : BitVec 256
  voters : List Address
  votes : List Bool
  isApproved : Bool

/-- `RollbackRequest`. -/
structure RollbackRequest (A : Type) where
  unsignedPsbt : List UInt8
  who : Address
  txid : B256
  vout : UInt64
  toAddress : A
  amount : UInt64
  votes : AList fun _ : Address => Bool
  isApproved : Bool

/-- A number that is read back from its decimal digits as 64 bits wide; a larger one panics. -/
def parseU64 (n : BitVec 256) : Option UInt64 :=
  if n.toNat < 2 ^ 64 then some (.ofNat n.toNat) else none

/-- The votes, by voter; a voter without a vote panics. -/
def collectVotes (voters : List Address) (votes : List Bool) :
    Option (AList fun _ : Address => Bool) :=
  voters.zipIdx.foldlM (fun collected voter =>
    (votes[voter.2]?).map fun vote => collected.insert voter.1 vote) ∅

/-- `From<rollback_requestReturn>`; `none` is a panic. -/
def RollbackRequest.ofReturn {A : Type} (parseAddress : List UInt8 → Option A)
    (value : RollbackRequestReturn) : Option (RollbackRequest A) := do
  let votes ← collectVotes value.voters value.votes
  let vout ← parseU64 value.vout
  let toAddress ← parseAddress value.toAddress
  let amount ← parseU64 value.amount
  return {
    unsignedPsbt := value.unsignedPsbt
    who := value.who
    txid := reverseBytes value.txid
    vout := vout
    toAddress := toAddress
    amount := amount
    votes := votes
    isApproved := value.isApproved }

section Validity

variable {A : Type} [DecidableEq A]

/-- The first check of `is_rollback_valid`. -/
def GetRawTransactionResult.isUnconfirmed (tx : GetRawTransactionResult A) : Bool :=
  match tx.confirmations with
  | some confirmations => decide (confirmations < 6)
  | none => false

/-- `is_rollback_valid`; `none` is a panic. -/
def isRollbackValid (tx : GetRawTransactionResult A) (request : RollbackRequest A) : Option Bool :=
  if tx.isUnconfirmed then some false
  else if tx.vout.length < request.vout.toNat then some false
  else
    match tx.vout[request.vout.toNat]? with
    | none => none
    | some output =>
      match output.address with
      | some toAddress =>
          if toAddress ≠ request.toAddress then some false
          else if output.value ≠ request.amount then some false
          else some true
      | none => some false

/-- The output that a request names exists, and pays the amount to the address. -/
def Paid (tx : GetRawTransactionResult A) (request : RollbackRequest A) : Prop :=
  ∃ output ∈ tx.vout[request.vout.toNat]?,
    output.address = some request.toAddress ∧ output.value = request.amount

/-- What `is_rollback_valid` is for: the output is paid, with at least six confirmations. -/
def ValidRollback (tx : GetRawTransactionResult A) (request : RollbackRequest A) : Prop :=
  (∃ confirmations ∈ tx.confirmations, 6 ≤ confirmations) ∧ Paid tx request

/-- The inputs that `is_rollback_valid` does not miss: the confirmations are too few, or else the
index is not the number of outputs, and the number of confirmations is known unless the output is
not paid. -/
def NotMissed (tx : GetRawTransactionResult A) (request : RollbackRequest A) : Prop :=
  (∃ confirmations ∈ tx.confirmations, confirmations < 6) ∨
    (request.vout.toNat ≠ tx.vout.length ∧ (tx.confirmations = none → ¬ Paid tx request))

instance (tx : GetRawTransactionResult A) (request : RollbackRequest A) :
    Decidable (Paid tx request) :=
  inferInstanceAs (Decidable (∃ output ∈ tx.vout[request.vout.toNat]?, _))

instance (tx : GetRawTransactionResult A) (request : RollbackRequest A) :
    Decidable (ValidRollback tx request) :=
  inferInstanceAs (Decidable (_ ∧ _))

variable {tx : GetRawTransactionResult A} {request : RollbackRequest A}

omit [DecidableEq A] in
/-- The first check refuses a known number of confirmations below six. -/
lemma isUnconfirmed_iff :
    tx.isUnconfirmed = true ↔ ∃ confirmations ∈ tx.confirmations, confirmations < 6 := by
  unfold GetRawTransactionResult.isUnconfirmed
  cases tx.confirmations <;> simp

/-- An index in range: the code compares the output. -/
lemma isRollbackValid_of_lt (hconf : tx.isUnconfirmed = false)
    (hlt : request.vout.toNat < tx.vout.length) :
    isRollbackValid tx request = some (decide (Paid tx request)) := by
  obtain ⟨⟨value, address⟩, hget⟩ : ∃ output, tx.vout[request.vout.toNat]? = some output :=
    ⟨_, List.getElem?_eq_getElem hlt⟩
  have hpaid : Paid tx request ↔ address = some request.toAddress ∧ value = request.amount := by
    unfold Paid
    simp [hget]
  have hdecide : decide (Paid tx request) =
      decide (address = some request.toAddress ∧ value = request.amount) :=
    decide_eq_decide.2 hpaid
  rw [hdecide, isRollbackValid, hconf, if_neg Bool.false_ne_true, if_neg hlt.not_gt, hget]
  cases address with
  | none => simp
  | some toAddress =>
    rcases eq_or_ne toAddress request.toAddress with hto | hto
    · rcases eq_or_ne value request.amount with hvalue | hvalue
      · simp [hto, hvalue]
      · simp [hto, hvalue]
    · simp [hto]

/-- An index behind the outputs is refused. -/
lemma isRollbackValid_of_gt (hconf : tx.isUnconfirmed = false)
    (hgt : tx.vout.length < request.vout.toNat) : isRollbackValid tx request = some false := by
  rw [isRollbackValid, hconf, if_neg Bool.false_ne_true, if_pos hgt]

/-- The index that is the number of outputs panics. -/
lemma isRollbackValid_of_eq (hconf : tx.isUnconfirmed = false)
    (heq : request.vout.toNat = tx.vout.length) : isRollbackValid tx request = none := by
  rw [isRollbackValid, hconf, if_neg Bool.false_ne_true, heq, if_neg (lt_irrefl _),
    List.getElem?_eq_none le_rfl]

omit [DecidableEq A] in
/-- A request is not paid by an output that does not exist. -/
lemma not_paid_of_le (hle : tx.vout.length ≤ request.vout.toNat) : ¬ Paid tx request := by
  rintro ⟨output, houtput, -⟩
  rw [List.getElem?_eq_none hle] at houtput
  cases houtput

omit [DecidableEq A] in
/-- Behind the first check a paid request is valid just if the number of confirmations is known. -/
lemma validRollback_iff (hconf : tx.isUnconfirmed = false) :
    ValidRollback tx request ↔ tx.confirmations ≠ none ∧ Paid tx request := by
  unfold ValidRollback
  refine and_congr_left fun _ => ?_
  unfold GetRawTransactionResult.isUnconfirmed at hconf
  cases hsome : tx.confirmations with
  | none => simp
  | some confirmations =>
    rw [hsome] at hconf
    simpa using hconf

/-- The check is exact just on the inputs that it does not miss. -/
lemma isRollbackValid_eq_iff (tx : GetRawTransactionResult A) (request : RollbackRequest A) :
    isRollbackValid tx request = some (decide (ValidRollback tx request)) ↔
      NotMissed tx request := by
  cases hconf : tx.isUnconfirmed with
  | true =>
    have hfew := isUnconfirmed_iff.1 hconf
    have hinvalid : ¬ ValidRollback tx request := by
      rintro ⟨⟨confirmations, hsome, hsix⟩, -⟩
      obtain ⟨few, hsome', hlt⟩ := hfew
      obtain rfl := Option.mem_unique hsome hsome'
      exact UInt32.not_lt.2 hsix hlt
    refine iff_of_true ?_ (.inl hfew)
    rw [isRollbackValid, if_pos hconf, decide_eq_false hinvalid]
  | false =>
    have hfew : ¬ ∃ confirmations ∈ tx.confirmations, confirmations < 6 := by
      rw [← isUnconfirmed_iff, hconf]
      exact Bool.false_ne_true
    have hiff : ValidRollback tx request ↔ tx.confirmations ≠ none ∧ Paid tx request :=
      validRollback_iff hconf
    unfold NotMissed
    rw [or_iff_right hfew]
    rcases lt_trichotomy request.vout.toNat tx.vout.length with hlt | heq | hgt
    · rw [isRollbackValid_of_lt hconf hlt, Option.some.injEq, decide_eq_decide, hiff]
      have hne : request.vout.toNat ≠ tx.vout.length := hlt.ne
      tauto
    · rw [isRollbackValid_of_eq hconf heq]
      exact iff_of_false nofun fun h => h.1 heq
    · have hunpaid := not_paid_of_le hgt.le
      rw [isRollbackValid_of_gt hconf hgt, decide_eq_false fun h => hunpaid (hiff.1 h).2]
      exact iff_of_true rfl ⟨hgt.ne', fun _ => hunpaid⟩

end Validity

/-! ### The runs of the verifier -/

/-- The replies that the work on one pending transaction gets. -/
structure PsbtReplies (A : Type) where
  /-- The pending transaction. -/
  rawPsbt : List UInt8
  /-- `rollback_request`. -/
  rollbackRequest : Except Report RollbackRequestReturn
  /-- `get_raw_transaction_info`. -/
  rawTransactionInfo : Except Report (GetRawTransactionResult A)
  /-- `sign_message`. -/
  signMessage : Except Report Unit

/-- The replies in one pass of the loop of `run`. -/
structure PassReplies (A : Type) where
  isSelectedRelayer : Except Report Bool
  rollbackPsbts : Except Report (List (PsbtReplies A))

/-- `SubmitRollbackPollMetadata`: a vote. -/
structure RollbackVote where
  txid : B256
  isApproved : Bool
deriving DecidableEq

/-- The verifier: its account, and what it takes from libraries. -/
structure RollbackVerifier (A : Type) where
  self : Address
  /-- The transaction hash of a serialized PSBT. -/
  psbtTxid : List UInt8 → Except Report B256
  /-- `Address::from_str`. -/
  parseAddress : List UInt8 → Option A

namespace RollbackVerifier

variable {A : Type} [DecidableEq A] (v : RollbackVerifier A)

/-- The vote on a request: the transaction must have been fetched and must be valid. -/
def decideVote (request : RollbackRequest A) : Except Report (GetRawTransactionResult A) →
    Option Bool
  | .ok tx => isRollbackValid tx request
  | .error _ => some false

/-- The work on one pending transaction: the vote that is sent, if there is one. -/
def handlePsbt (r : PsbtReplies A) : Outcome (Option RollbackVote) :=
  match v.psbtTxid r.rawPsbt with
  | .error report => .failed report
  | .ok txid =>
    match r.rollbackRequest with
    | .error report => .failed report
    | .ok value =>
      match RollbackRequest.ofReturn v.parseAddress value with
      | none => .panicked
      | some request =>
        -- the request must exist, and must not have been approved yet
        if request.who = ⟨FixedBytes.repeatByte 20 0⟩ then .ok none
        else if request.isApproved then .ok none
        else
          match decideVote request r.rawTransactionInfo with
          | none => .panicked
          | some isApproved =>
            if request.votes.lookup v.self = some isApproved then .ok none
            else
              match r.signMessage with
              | .error report => .failed report
              | .ok _ => .ok (some ⟨txid, isApproved⟩)

/-- The loop over the pending transactions: the votes sent, and whether it ended early. -/
def handlePsbts : List (PsbtReplies A) → List RollbackVote × Bool
  | [] => ([], false)
  | r :: rs =>
      match v.handlePsbt r with
      | .ok vote =>
          let rest := handlePsbts rs
          (vote.toList ++ rest.1, rest.2)
      | .failed _ => ([], true)
      | .panicked => ([], true)

/-- One pass of the loop of `run`.  The state says whether `run` has ended, by an error or a
panic. -/
def pass (ended : Bool) (replies : PassReplies A) : Bool × List RollbackVote :=
  if ended then (true, [])
  else
    match replies.isSelectedRelayer, replies.rollbackPsbts with
    | .ok false, _ => (false, [])
    | .ok true, .ok rs =>
        let handled := v.handlePsbts rs
        (handled.2, handled.1)
    | _, _ => (true, [])

/-- The runs of the verifier. -/
def system : LabelledSystem Bool (PassReplies A × List RollbackVote) := .ofHandler false v.pass

/-- No request of a pass is one that the check misses. -/
def PassNotMissed (replies : PassReplies A) : Prop :=
  ∀ rs, replies.rollbackPsbts = .ok rs → ∀ r ∈ rs, ∀ value request tx,
    r.rollbackRequest = .ok value → RollbackRequest.ofReturn v.parseAddress value = some request →
      r.rawTransactionInfo = .ok tx → NotMissed tx request

/-- A vote of a pass is for a request of the pass that is valid. -/
def ApprovedValid (replies : PassReplies A) (vote : RollbackVote) : Prop :=
  ∃ rs, replies.rollbackPsbts = .ok rs ∧ ∃ r ∈ rs, ∃ value request tx,
    v.psbtTxid r.rawPsbt = .ok vote.txid ∧ r.rollbackRequest = .ok value ∧
      RollbackRequest.ofReturn v.parseAddress value = some request ∧
      r.rawTransactionInfo = .ok tx ∧ ValidRollback tx request

/-- What is known of a vote: the request it is about, and that it is the vote decided. -/
lemma handlePsbt_eq_some {r : PsbtReplies A} {vote : RollbackVote}
    (h : v.handlePsbt r = .ok (some vote)) :
    ∃ value request, v.psbtTxid r.rawPsbt = .ok vote.txid ∧ r.rollbackRequest = .ok value ∧
      RollbackRequest.ofReturn v.parseAddress value = some request ∧
      decideVote request r.rawTransactionInfo = some vote.isApproved := by
  unfold handlePsbt at h
  cases htxid : v.psbtTxid r.rawPsbt with
  | error report => simp [htxid] at h
  | ok txid =>
  cases hvalue : r.rollbackRequest with
  | error report => simp [htxid, hvalue] at h
  | ok value =>
  cases hrequest : RollbackRequest.ofReturn v.parseAddress value with
  | none => simp [htxid, hvalue, hrequest] at h
  | some request =>
  cases hvote : decideVote request r.rawTransactionInfo with
  | none =>
    simp only [htxid, hvalue, hrequest, hvote] at h
    split_ifs at h <;> simp at h
  | some isApproved =>
    simp only [htxid, hvalue, hrequest, hvote] at h
    split_ifs at h
    · simp at h
    · simp at h
    · simp at h
    · cases hsign : r.signMessage with
      | error report => simp [hsign] at h
      | ok _ =>
        obtain rfl : (⟨txid, isApproved⟩ : RollbackVote) = vote := by simpa [hsign] using h
        exact ⟨value, request, rfl, rfl, hrequest, hvote⟩

/-- A vote of the loop is one of its pending transactions. -/
lemma exists_of_mem_handlePsbts {rs : List (PsbtReplies A)} {vote : RollbackVote}
    (h : vote ∈ (v.handlePsbts rs).1) : ∃ r ∈ rs, v.handlePsbt r = .ok (some vote) := by
  induction rs with
  | nil => simp [handlePsbts] at h
  | cons r rs ih =>
    cases hr : v.handlePsbt r with
    | failed report => simp [handlePsbts, hr] at h
    | panicked => simp [handlePsbts, hr] at h
    | ok sent =>
      simp only [handlePsbts, hr, List.mem_append, Option.mem_toList] at h
      rcases h with hsent | hrest
      · refine ⟨r, List.mem_cons_self .., ?_⟩
        rw [hr, hsent]
      · obtain ⟨r', hr', hvote⟩ := ih hrest
        exact ⟨r', List.mem_cons_of_mem r hr', hvote⟩

/-- A pass approves valid requests only, if none of its requests is missed. -/
lemma approvedValid_of_pass {ended : Bool} {replies : PassReplies A} {vote : RollbackVote}
    (hmissed : v.PassNotMissed replies) (h : vote ∈ (v.pass ended replies).2)
    (happroved : vote.isApproved = true) : v.ApprovedValid replies vote := by
  obtain ⟨rs, hrs, hmem⟩ : ∃ rs, replies.rollbackPsbts = .ok rs ∧ vote ∈ (v.handlePsbts rs).1 := by
    unfold pass at h
    split_ifs at h
    · cases h
    · split at h
      · cases h
      · exact ⟨_, ‹_›, h⟩
      · cases h
  obtain ⟨r, hr, hsent⟩ := v.exists_of_mem_handlePsbts hmem
  obtain ⟨value, request, htxid, hvalue, hrequest, hvote⟩ := v.handlePsbt_eq_some hsent
  rw [happroved] at hvote
  cases htx : r.rawTransactionInfo with
  | error report =>
    rw [htx] at hvote
    cases hvote
  | ok tx =>
    rw [htx] at hvote
    have hexact := (isRollbackValid_eq_iff tx request).2
      (hmissed rs hrs r hr value request tx hvalue hrequest htx)
    have hvalid : decide (ValidRollback tx request) = true :=
      Option.some.inj (hexact.symm.trans hvote)
    exact ⟨rs, hrs, r, hr, value, request, tx, htxid, hvalue, hrequest, htx, of_decide_eq_true hvalid⟩

/-- `is_rollback_valid` returns, and returns whether the request is valid, just on the inputs that it
does not miss; and in every run of the verifier whose requests are none of those that it misses, an
approving vote is for a valid request. -/
theorem is_rollback_valid_exact_iff :
    (∀ (tx : GetRawTransactionResult A) (request : RollbackRequest A),
      isRollbackValid tx request = some (decide (ValidRollback tx request)) ↔
        NotMissed tx request) ∧
    ∀ tr ended, (v.system.restrict fun _ label => v.PassNotMissed label.1).Run tr ended →
      ∀ label ∈ tr, ∀ vote ∈ label.2, vote.isApproved = true → v.ApprovedValid label.1 vote := by
  refine ⟨isRollbackValid_eq_iff, fun tr ended hrun => ?_⟩
  induction hrun with
  | start _ => nofun
  | @snoc tr s s' label hrun hstep ih =>
    intro label' hlabel' vote hvote happroved
    rcases List.mem_append.1 hlabel' with hbefore | hlast
    · exact ih label' hbefore vote hvote happroved
    · obtain rfl := List.mem_singleton.1 hlast
      obtain ⟨hpass, hmissed⟩ := hstep
      have hvotes : label'.2 = (v.pass s label'.1).2 := by
        rw [show v.pass s label'.1 = (s', label'.2) from hpass]
      rw [hvotes] at hvote
      exact v.approvedValid_of_pass hmissed hvote happroved

/-- A serialized PSBT with one input and one output. -/
def samplePsbt : List UInt8 :=
  [0x70, 0x73, 0x62, 0x74, 0xff, 0x01, 0x00, 0x55, 0x02, 0x00, 0x00, 0x00, 0x01, 0x11, 0x11, 0x11,
    0x11, 0x11, 0x11, 0x11, 0x11, 0x11, 0x11, 0x11, 0x11, 0x11, 0x11, 0x11, 0x11, 0x11, 0x11, 0x11,
    0x11, 0x11, 0x11, 0x11, 0x11, 0x11, 0x11, 0x11, 0x11, 0x11, 0x11, 0x11, 0x11, 0x00, 0x00, 0x00,
    0x00, 0x00, 0xff, 0xff, 0xff, 0xff, 0x01, 0xe8, 0x03, 0x00, 0x00, 0x00, 0x00, 0x00, 0x00, 0x19,
    0x76, 0xa9, 0x14, 0x62, 0xe9, 0x07, 0xb1, 0x5c, 0xbf, 0x27, 0xd5, 0x42, 0x53, 0x99, 0xeb, 0xf6,
    0xf0, 0xfb, 0x50, 0xeb, 0xb8, 0x8f, 0x18, 0x88, 0xac, 0x00, 0x00, 0x00, 0x00, 0x00, 0x00, 0x00]

/-- The hash of its transaction. -/
def samplePsbtTxid : B256 :=
  ⟨[0x5b, 0x25, 0x6b, 0xb4, 0xff, 0xe9, 0xbf, 0xd5, 0x79, 0x91, 0x4f, 0x62, 0x5d, 0xcd, 0x3a, 0xa0,
    0xec, 0x09, 0xf8, 0x60, 0x65, 0x2e, 0xa7, 0xe6, 0x7f, 0x3e, 0xe3, 0xf7, 0xde, 0x18, 0x65, 0xa2],
    rfl⟩

/-- The address `1A1zP1eP5QGefi2DMPTfTL5SLmv7DivfNa`. -/
def sampleAddress : List UInt8 :=
  [0x31, 0x41, 0x31, 0x7a, 0x50, 0x31, 0x65, 0x50, 0x35, 0x51, 0x47, 0x65, 0x66, 0x69, 0x32, 0x44,
    0x4d, 0x50, 0x54, 0x66, 0x54, 0x4c, 0x35, 0x53, 0x4c, 0x6d, 0x76, 0x37, 0x44, 0x69, 0x76, 0x66,
    0x4e, 0x61]

/-- A verifier for this transaction and address; an address is its text. -/
def sampleVerifier : RollbackVerifier (List UInt8) where
  self := ⟨FixedBytes.repeatByte 20 9⟩
  psbtTxid rawPsbt :=
    if rawPsbt = samplePsbt then .ok samplePsbtTxid else .error ⟨"invalid magic"⟩
  parseAddress text := if text = sampleAddress then some text else none

/-- The request of 1000 satoshi back, from an output of a transaction with one output. -/
def sampleRequest (vout : BitVec 256) : RollbackRequestReturn where
  unsignedPsbt := samplePsbt
  who := ⟨FixedBytes.repeatByte 20 1⟩
  txid := FixedBytes.repeatByte 32 0x11
  vout := vout
  toAddress := sampleAddress
  amount := 1000
  voters := []
  votes := []
  isApproved := false

/-- The transaction. -/
def sampleTransaction (confirmations : Option UInt32) : GetRawTransactionResult (List UInt8) where
  confirmations := confirmations
  vout := [⟨1000, some sampleAddress⟩]

/-- A pass with one pending request. -/
def samplePass (vout : BitVec 256) (confirmations : Option UInt32) : PassReplies (List UInt8) where
  isSelectedRelayer := .ok true
  rollbackPsbts := .ok [{
    rawPsbt := samplePsbt
    rollbackRequest := .ok (sampleRequest vout)
    rawTransactionInfo := .ok (sampleTransaction confirmations)
    signMessage := .ok () }]

/-- The request, converted. -/
def sampleConverted (vout : UInt64) : RollbackRequest (List UInt8) where
  unsignedPsbt := samplePsbt
  who := ⟨FixedBytes.repeatByte 20 1⟩
  txid := reverseBytes (FixedBytes.repeatByte 32 0x11)
  vout := vout
  toAddress := sampleAddress
  amount := 1000
  votes := ∅
  isApproved := false

/-- A confirmed request is approved, and it is valid. -/
theorem is_rollback_valid_exact_sample :
    (sampleVerifier.pass false (samplePass 0 (some 6))).2 = [⟨samplePsbtTxid, true⟩] ∧
      sampleVerifier.ApprovedValid (samplePass 0 (some 6)) ⟨samplePsbtTxid, true⟩ := by
  have hvotes : (sampleVerifier.pass false (samplePass 0 (some 6))).2 =
      [⟨samplePsbtTxid, true⟩] := by
    decide +kernel
  have hconverted : RollbackRequest.ofReturn sampleVerifier.parseAddress (sampleRequest 0) =
      some (sampleConverted 0) := by
    rfl
  have hmissed : sampleVerifier.PassNotMissed (samplePass 0 (some 6)) := by
    rintro rs ⟨⟩ r hr value request tx hvalue hrequest htx
    obtain rfl := List.mem_singleton.1 hr
    obtain rfl := Except.ok.inj hvalue
    obtain rfl := Except.ok.inj htx
    obtain rfl := Option.some.inj (hconverted.symm.trans hrequest)
    exact .inr ⟨by decide, nofun⟩
  refine ⟨hvotes, ?_⟩
  have hrun := LabelledSystem.Run.snoc (.start rfl) (S := sampleVerifier.system.restrict
    fun _ label => sampleVerifier.PassNotMissed label.1) (s := false)
    (a := (samplePass 0 (some 6), (sampleVerifier.pass false (samplePass 0 (some 6))).2))
    ⟨rfl, hmissed⟩
  refine sampleVerifier.is_rollback_valid_exact_iff.2 _ _ hrun _ (List.mem_singleton_self _) _ ?_ rfl
  rw [hvotes]
  exact List.mem_singleton_self _

/-- A transaction in the memory pool is approved, and the index behind the last output panics. -/
theorem is_rollback_valid_misses :
    (isRollbackValid (sampleTransaction none) (sampleConverted 0) = some true ∧
      ¬ ValidRollback (sampleTransaction none) (sampleConverted 0) ∧
      (sampleVerifier.pass false (samplePass 0 none)).2 = [⟨samplePsbtTxid, true⟩]) ∧
    isRollbackValid (sampleTransaction (some 6)) (sampleConverted 1) = none ∧
      (sampleVerifier.pass false (samplePass 1 (some 6))) = (true, []) := by
  refine ⟨⟨by decide +kernel, by decide, by decide +kernel⟩, by decide, by decide +kernel⟩

end RollbackVerifier

end Bitcoin

end BifrostRelayer
