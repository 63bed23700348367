import BifrostRelayer.Foundation.Runs
import BifrostRelayer.Payloads.Submissions
import BifrostRelayer.Primitives.Bitcoin

/-!
# The PSBT broadcaster

On its schedule the broadcaster reads the finalized PSBTs from Bifrost and brings each to the Bitcoin
network: a transaction that the node does not know is tested against its mempool and sent.  Then it
reports to Bifrost that the transaction was executed.

The report does not depend on how the broadcast went.  `report_confirmed_iff` says, for every
iteration of every run, what the node must have answered for the report to be true.

The PSBT library is a parameter.  An iteration is presented by the calls that it makes, with their
outcomes, so that what it reports can be compared with what it saw.
-/

namespace BifrostRelayer

namespace Bitcoin

open Keccak Payloads SolidityAbi

/-! ### The library and the replies -/

/-- What the broadcaster uses of the PSBT library. -/
structure PsbtLibrary (Psbt Transaction : Type) where
  /-- `Psbt::deserialize`. -/
  deserialize : List UInt8 → Except Report Psbt
  /-- `psbt.unsigned_tx.compute_txid()`. -/
  computeTxid : Psbt → B256
  /-- `psbt.extract_tx()`; the broadcaster does not expect an error. -/
  extractTx : Psbt → Option Transaction

/-- `TestMempoolAcceptResult`. -/
structure MempoolResult where
  allowed : Bool
  rejectReason : Option String

/-- What the node and the signer reply in one iteration. -/
structure BroadcastReplies where
  getRawTransaction : Except Report (List UInt8)
  testMempoolAccept : Except Report (List MempoolResult)
  sendRawTransaction : Except Report B256
  signMessage : List UInt8 → Except Report (List UInt8)

/-- The payload of `submit_executed_request`. -/
structure ExecutedRequest where
  submission : Submission
  signature : List UInt8
deriving DecidableEq

/-- The calls of an iteration, with their outcomes. -/
inductive BroadcastCall (Transaction : Type) where
  | getRawTransaction (txid : B256) (found : Bool)
  | testMempoolAccept (tx : Transaction) (results : Except Report (List MempoolResult))
  | sendRawTransaction (tx : Transaction) (result : Except Report B256)
  | submitExecutedRequest (txid : B256) (request : ExecutedRequest)

/-- How an iteration or a tick ends. -/
inductive Ending where
  | continued
  | returned (report : Report)
  | panicked
deriving DecidableEq

section Broadcaster

variable {Psbt Transaction : Type} (lib : PsbtLibrary Psbt Transaction) (address : AccountId20)

/-! ### The functions -/

/-- `is_transaction_broadcasted`. -/
def isTransactionBroadcasted (replies : BroadcastReplies) : Bool :=
  match replies.getRawTransaction with
  | .ok _ => true
  | .error _ => false

/-- `build_payload`. -/
def buildExecutedRequest (replies : BroadcastReplies) (txid : B256) :
    Except Report ExecutedRequest := do
  let message : ExecutedPsbtMessage := ⟨reverseBytes txid⟩
  let signature ← replies.signMessage message.message
  return ⟨⟨address, .executedPsbt message⟩, signature⟩

/-- `broadcast_transaction`: its calls, or a panic. -/
def broadcastTransaction (replies : BroadcastReplies) (psbt : Psbt) :
    Option (List (BroadcastCall Transaction)) := do
  let tx ← lib.extractTx psbt
  let tested := BroadcastCall.testMempoolAccept tx replies.testMempoolAccept
  match replies.testMempoolAccept with
  | .error _ => return [tested]
  | .ok results =>
      match results.head? with
      | none => return [tested]
      | some result =>
          if result.allowed then return [tested, .sendRawTransaction tx replies.sendRawTransaction]
          else return [tested]

/-- The end of an iteration: the report. -/
def reportExecuted (replies : BroadcastReplies) (txid : B256)
    (calls : List (BroadcastCall Transaction)) : List (BroadcastCall Transaction) × Ending :=
  match buildExecutedRequest address replies txid with
  | .error report => (calls, .returned report)
  | .ok request => (calls ++ [.submitExecutedRequest txid request], .continued)

/-- One iteration of the loop over the finalized PSBTs. -/
def processPsbt (finalizedPsbt : List UInt8) (replies : BroadcastReplies) :
    List (BroadcastCall Transaction) × Ending :=
  match lib.deserialize finalizedPsbt with
  | .error report => ([], .returned report)
  | .ok psbt =>
      let txid := lib.computeTxid psbt
      if isTransactionBroadcasted replies then
        reportExecuted address replies txid [.getRawTransaction txid true]
      else
        match broadcastTransaction lib replies psbt with
        | none => ([.getRawTransaction txid false], .panicked)
        | some calls =>
            reportExecuted address replies txid (.getRawTransaction txid false :: calls)

/-- An iteration: the finalized PSBT, the replies, and the calls that were made. -/
structure Iteration (Transaction : Type) where
  finalizedPsbt : List UInt8
  replies : BroadcastReplies
  calls : List (BroadcastCall Transaction)

/-- The loop over the finalized PSBTs, which ends with the first iteration that does. -/
def processPsbts :
    List (List UInt8 × BroadcastReplies) → List (Iteration Transaction) × Ending
  | [] => ([], .continued)
  | (finalizedPsbt, replies) :: rest =>
      let result := processPsbt lib address finalizedPsbt replies
      let iteration : Iteration Transaction := ⟨finalizedPsbt, replies, result.1⟩
      match result.2 with
      | .continued =>
          let later := processPsbts rest
          (iteration :: later.1, later.2)
      | ending => ([iteration], ending)

/-- The replies of one tick: those of Bifrost, and for each finalized PSBT those of its iteration. -/
structure BroadcastTick where
  isSelectedRelayer : Except Report Bool
  blazeActivation : Except Report Bool
  finalizedPsbts : Except Report (List (List UInt8 × BroadcastReplies))

/-- One round of the loop in `run`. -/
def broadcastTick (tick : BroadcastTick) : List (Iteration Transaction) × Ending :=
  match tick.isSelectedRelayer with
  | .error report => ([], .returned report)
  | .ok false => ([], .continued)
  | .ok true =>
      match tick.blazeActivation with
      | .error report => ([], .returned report)
      | .ok false => ([], .continued)
      | .ok true =>
          match tick.finalizedPsbts with
          | .error report => ([], .returned report)
          | .ok finalizedPsbts => processPsbts lib address finalizedPsbts

/-- `PsbtBroadcaster::run`: the state says how the task ended, if it did. -/
def broadcasterSystem : LabelledSystem Ending (BroadcastTick × List (Iteration Transaction)) :=
  .ofHandler .continued fun ending tick =>
    if ending = .continued then ((broadcastTick lib address tick).2, (broadcastTick lib address tick).1)
    else (ending, [])

/-! ### What a report should say -/

/-- The report of a transaction follows a lookup that found it or a broadcast of it that went
through. -/
def ReportsConfirmed (iteration : Iteration Transaction) : Prop :=
  ∀ txid request, .submitExecutedRequest txid request ∈ iteration.calls →
    .getRawTransaction txid true ∈ iteration.calls ∨
      ∃ psbt tx sent, lib.deserialize iteration.finalizedPsbt = .ok psbt ∧
        lib.computeTxid psbt = txid ∧ lib.extractTx psbt = some tx ∧
        .sendRawTransaction tx (.ok sent) ∈ iteration.calls

/-- The first result of the mempool test allows the transaction. -/
def MempoolAllows (replies : BroadcastReplies) : Prop :=
  ∃ results result, replies.testMempoolAccept = .ok results ∧ results.head? = some result ∧
    result.allowed = true

/-- The node has the transaction: it knows it, or its mempool test allows it and it takes it. -/
def NodeHas (replies : BroadcastReplies) : Prop :=
  (∃ tx, replies.getRawTransaction = .ok tx) ∨
    MempoolAllows replies ∧ ∃ sent, replies.sendRawTransaction = .ok sent

/-- An iteration does not come to its report. -/
def Interrupted (finalizedPsbt : List UInt8) (replies : BroadcastReplies) : Prop :=
  ∀ psbt, lib.deserialize finalizedPsbt = .ok psbt →
    (∃ report, replies.getRawTransaction = .error report) ∧ lib.extractTx psbt = none ∨
      ∃ report, replies.signMessage
        (ExecutedPsbtMessage.mk (reverseBytes (lib.computeTxid psbt))).message = .error report

/-! ### The calls of an iteration -/

lemma isTransactionBroadcasted_iff (replies : BroadcastReplies) :
    isTransactionBroadcasted replies = true ↔ ∃ tx, replies.getRawTransaction = .ok tx := by
  unfold isTransactionBroadcasted
  cases replies.getRawTransaction <;> simp

lemma mem_reportExecuted_iff {replies : BroadcastReplies} {txid : B256}
    {calls : List (BroadcastCall Transaction)} {call : BroadcastCall Transaction} :
    call ∈ (reportExecuted address replies txid calls).1 ↔
      call ∈ calls ∨ ∃ request, buildExecutedRequest address replies txid = .ok request ∧
        call = .submitExecutedRequest txid request := by
  unfold reportExecuted
  cases buildExecutedRequest address replies txid <;> simp

/-- A report is built when the message is signed. -/
lemma exists_buildExecutedRequest {replies : BroadcastReplies} {txid : B256}
    (hsign : ¬ ∃ report, replies.signMessage (ExecutedPsbtMessage.mk (reverseBytes txid)).message =
      .error report) :
    ∃ request, buildExecutedRequest address replies txid = .ok request := by
  cases hsigned : replies.signMessage (ExecutedPsbtMessage.mk (reverseBytes txid)).message with
  | error report => exact absurd ⟨report, hsigned⟩ hsign
  | ok signature => exact ⟨_, by rw [buildExecutedRequest, hsigned]; rfl⟩

lemma buildExecutedRequest_ne_ok {replies : BroadcastReplies} {txid : B256} {report : Report}
    (hsign : replies.signMessage (ExecutedPsbtMessage.mk (reverseBytes txid)).message =
      .error report) (request : ExecutedRequest) :
    buildExecutedRequest address replies txid ≠ .ok request := by
  rw [buildExecutedRequest, hsign]
  rintro ⟨⟩

lemma broadcastTransaction_of_allows {replies : BroadcastReplies} {psbt : Psbt} {tx : Transaction}
    (htx : lib.extractTx psbt = some tx) (hallows : MempoolAllows replies) :
    broadcastTransaction lib replies psbt =
      some [.testMempoolAccept tx replies.testMempoolAccept,
        .sendRawTransaction tx replies.sendRawTransaction] := by
  obtain ⟨results, result, htest, hfirst, hallowed⟩ := hallows
  simp [broadcastTransaction, htx, htest, hfirst, hallowed]

lemma broadcastTransaction_of_not_allows {replies : BroadcastReplies} {psbt : Psbt}
    {tx : Transaction} (htx : lib.extractTx psbt = some tx) (hallows : ¬ MempoolAllows replies) :
    broadcastTransaction lib replies psbt =
      some [.testMempoolAccept tx replies.testMempoolAccept] := by
  cases htest : replies.testMempoolAccept with
  | error report => simp [broadcastTransaction, htx, htest]
  | ok results =>
    cases hfirst : results.head? with
    | none => simp [broadcastTransaction, htx, htest, hfirst]
    | some result =>
      have hallowed : result.allowed = false := by
        by_contra hallowed
        exact hallows ⟨results, result, htest, hfirst, by simpa using hallowed⟩
      simp [broadcastTransaction, htx, htest, hfirst, hallowed]

section Iteration

variable {finalizedPsbt : List UInt8} {replies : BroadcastReplies} {psbt : Psbt}
  (hpsbt : lib.deserialize finalizedPsbt = .ok psbt)
include hpsbt

lemma processPsbt_of_found (hfound : ∃ tx, replies.getRawTransaction = .ok tx) :
    processPsbt lib address finalizedPsbt replies =
      reportExecuted address replies (lib.computeTxid psbt)
        [.getRawTransaction (lib.computeTxid psbt) true] := by
  simp [processPsbt, hpsbt, (isTransactionBroadcasted_iff replies).mpr hfound]

lemma processPsbt_of_not_found (hfound : ¬ ∃ tx, replies.getRawTransaction = .ok tx) :
    processPsbt lib address finalizedPsbt replies =
      match broadcastTransaction lib replies psbt with
      | none => ([.getRawTransaction (lib.computeTxid psbt) false], .panicked)
      | some calls =>
          reportExecuted address replies (lib.computeTxid psbt)
            (.getRawTransaction (lib.computeTxid psbt) false :: calls) := by
  simp [processPsbt, hpsbt, (isTransactionBroadcasted_iff replies).not.mpr hfound]

/-- A transaction that the node has is reported truly. -/
lemma reportsConfirmed_of_nodeHas (hhas : NodeHas replies) :
    ReportsConfirmed lib
      ⟨finalizedPsbt, replies, (processPsbt lib address finalizedPsbt replies).1⟩ := by
  intro txid request hreport
  dsimp only at hreport ⊢
  by_cases hfound : ∃ tx, replies.getRawTransaction = .ok tx
  · rw [processPsbt_of_found lib address hpsbt hfound, mem_reportExecuted_iff] at hreport ⊢
    obtain hreport | ⟨request', -, hreport⟩ := hreport
    · simp at hreport
    · cases hreport
      exact .inl (.inl (by simp))
  · obtain ⟨hallows, sent, hsent⟩ := hhas.resolve_left hfound
    cases htx : lib.extractTx psbt with
    | none =>
      simp [processPsbt_of_not_found lib address hpsbt hfound, broadcastTransaction, htx] at hreport
    | some tx =>
      rw [processPsbt_of_not_found lib address hpsbt hfound,
        broadcastTransaction_of_allows lib htx hallows] at hreport ⊢
      obtain hreport | ⟨request', -, hreport⟩ := (mem_reportExecuted_iff address).mp hreport
      · simp at hreport
      · cases hreport
        refine .inr ⟨psbt, tx, sent, hpsbt, rfl, htx, (mem_reportExecuted_iff address).mpr (.inl ?_)⟩
        simp [hsent]

/-- A transaction that the node does not have is reported falsely, unless the iteration ends before
the report. -/
lemma not_reportsConfirmed (hhas : ¬ NodeHas replies)
    (hextract : ¬ ((∃ report, replies.getRawTransaction = .error report) ∧ lib.extractTx psbt = none))
    (hsign : ¬ ∃ report, replies.signMessage
      (ExecutedPsbtMessage.mk (reverseBytes (lib.computeTxid psbt))).message = .error report) :
    ¬ ReportsConfirmed lib
      ⟨finalizedPsbt, replies, (processPsbt lib address finalizedPsbt replies).1⟩ := by
  intro hconfirmed
  have hfound : ¬ ∃ tx, replies.getRawTransaction = .ok tx := fun hfound => hhas (.inl hfound)
  obtain ⟨report, herror⟩ : ∃ report, replies.getRawTransaction = .error report := by
    cases hget : replies.getRawTransaction with
    | ok tx => exact absurd ⟨tx, hget⟩ hfound
    | error report => exact ⟨report, rfl⟩
  obtain ⟨tx, htx⟩ : ∃ tx, lib.extractTx psbt = some tx :=
    Option.ne_none_iff_exists'.mp fun hnone => hextract ⟨⟨report, herror⟩, hnone⟩
  obtain ⟨request, hrequest⟩ := exists_buildExecutedRequest address hsign
  have hprocess := processPsbt_of_not_found lib address hpsbt hfound
  by_cases hallows : MempoolAllows replies
  · rw [broadcastTransaction_of_allows lib htx hallows] at hprocess
    rw [hprocess] at hconfirmed
    obtain hreport | ⟨psbt', tx', sent, -, -, -, hsent⟩ := hconfirmed (lib.computeTxid psbt) request
      ((mem_reportExecuted_iff address).mpr (.inr ⟨request, hrequest, rfl⟩))
    · simp [mem_reportExecuted_iff] at hreport
    · have hok : replies.sendRawTransaction = .ok sent := by
        simp only [mem_reportExecuted_iff, List.mem_cons, List.not_mem_nil, reduceCtorEq, false_or,
          or_false, and_false, exists_false, BroadcastCall.sendRawTransaction.injEq] at hsent
        exact hsent.2.symm
      exact hhas (.inr ⟨hallows, sent, hok⟩)
  · rw [broadcastTransaction_of_not_allows lib htx hallows] at hprocess
    rw [hprocess] at hconfirmed
    obtain hreport | ⟨psbt', tx', sent, -, -, -, hsent⟩ := hconfirmed (lib.computeTxid psbt) request
      ((mem_reportExecuted_iff address).mpr (.inr ⟨request, hrequest, rfl⟩))
    · simp [mem_reportExecuted_iff] at hreport
    · simp [mem_reportExecuted_iff] at hsent

end Iteration

/-- An interrupted iteration reports nothing. -/
lemma reportsConfirmed_of_interrupted {finalizedPsbt : List UInt8} {replies : BroadcastReplies}
    (hinterrupted : Interrupted lib finalizedPsbt replies) :
    ReportsConfirmed lib
      ⟨finalizedPsbt, replies, (processPsbt lib address finalizedPsbt replies).1⟩ := by
  intro txid request hreport
  exfalso
  cases hpsbt : lib.deserialize finalizedPsbt with
  | error report => simp [processPsbt, hpsbt] at hreport
  | ok psbt =>
    obtain ⟨⟨report, herror⟩, hnone⟩ | ⟨report, hsign⟩ := hinterrupted psbt hpsbt
    · have hfound : ¬ ∃ tx, replies.getRawTransaction = .ok tx := by simp [herror]
      simp [processPsbt_of_not_found lib address hpsbt hfound, broadcastTransaction, hnone] at hreport
    · have hbuild := buildExecutedRequest_ne_ok address hsign
      by_cases hfound : ∃ tx, replies.getRawTransaction = .ok tx
      · rw [processPsbt_of_found lib address hpsbt hfound] at hreport
        simp [mem_reportExecuted_iff, hbuild] at hreport
      · rw [processPsbt_of_not_found lib address hpsbt hfound] at hreport
        cases htx : lib.extractTx psbt with
        | none => simp [broadcastTransaction, htx] at hreport
        | some tx =>
          by_cases hallows : MempoolAllows replies
          · simp [broadcastTransaction_of_allows lib htx hallows, mem_reportExecuted_iff,
              hbuild] at hreport
          · simp [broadcastTransaction_of_not_allows lib htx hallows, mem_reportExecuted_iff,
              hbuild] at hreport

/-- What an iteration reports is true exactly when the node has the transaction, or nothing is
reported. -/
lemma reportsConfirmed_iff (finalizedPsbt : List UInt8) (replies : BroadcastReplies) :
    ReportsConfirmed lib
        ⟨finalizedPsbt, replies, (processPsbt lib address finalizedPsbt replies).1⟩ ↔
      NodeHas replies ∨ Interrupted lib finalizedPsbt replies := by
  refine ⟨fun hconfirmed => ?_, ?_⟩
  · by_contra hneither
    obtain ⟨hhas, hinterrupted⟩ := not_or.mp hneither
    obtain ⟨psbt, hpsbt⟩ := not_forall.mp hinterrupted
    obtain ⟨hpsbt, hneither⟩ := Classical.not_imp.mp hpsbt
    obtain ⟨hextract, hsign⟩ := not_or.mp hneither
    exact not_reportsConfirmed lib address hpsbt hhas hextract hsign hconfirmed
  · rintro (hhas | hinterrupted)
    · cases hpsbt : lib.deserialize finalizedPsbt with
      | error report =>
        intro txid request hreport
        simp [processPsbt, hpsbt] at hreport
      | ok psbt => exact reportsConfirmed_of_nodeHas lib address hpsbt hhas
    · exact reportsConfirmed_of_interrupted lib address hinterrupted

/-! ### Runs -/

/-- The iterations of the loop make the calls of `processPsbt`. -/
lemma calls_of_mem_processPsbts {finalizedPsbts : List (List UInt8 × BroadcastReplies)}
    {iteration : Iteration Transaction}
    (hmem : iteration ∈ (processPsbts lib address finalizedPsbts).1) :
    iteration.calls = (processPsbt lib address iteration.finalizedPsbt iteration.replies).1 := by
  induction finalizedPsbts with
  | nil => cases hmem
  | cons entry rest ih =>
    obtain ⟨finalizedPsbt, replies⟩ := entry
    have hsplit :
        iteration = ⟨finalizedPsbt, replies, (processPsbt lib address finalizedPsbt replies).1⟩ ∨
          iteration ∈ (processPsbts lib address rest).1 := by
      simp only [processPsbts] at hmem
      split at hmem
      · exact List.mem_cons.mp hmem
      · exact .inl (List.mem_singleton.mp hmem)
    obtain rfl | hmem := hsplit
    · rfl
    · exact ih hmem

lemma calls_of_mem_broadcastTick {tick : BroadcastTick} {iteration : Iteration Transaction}
    (hmem : iteration ∈ (broadcastTick lib address tick).1) :
    iteration.calls = (processPsbt lib address iteration.finalizedPsbt iteration.replies).1 := by
  unfold broadcastTick at hmem
  split at hmem
  · cases hmem
  · cases hmem
  · split at hmem
    · cases hmem
    · cases hmem
    · split at hmem
      · cases hmem
      · exact calls_of_mem_processPsbts lib address hmem

/-- In every iteration of every run, what is reported as executed was found or sent exactly when the
node knows the transaction or allows and takes it, or the iteration ends before its report. -/
theorem report_confirmed_iff {tr : List (BroadcastTick × List (Iteration Transaction))}
    {ending : Ending} (hrun : (broadcasterSystem lib address).Run tr ending) :
    ∀ label ∈ tr, ∀ iteration ∈ label.2,
      (ReportsConfirmed lib iteration ↔
        NodeHas iteration.replies ∨
          Interrupted lib iteration.finalizedPsbt iteration.replies) := by
  refine hrun.forall_mem ?_
  rintro ending ⟨tick, iterations⟩ ending' hstep ⟨finalizedPsbt, replies, calls⟩ hmem
  have hiterations : iterations = if ending = .continued then (broadcastTick lib address tick).1
      else [] := by
    have hsnd := congrArg Prod.snd hstep
    split_ifs with hcontinued
    · simpa [hcontinued] using hsnd.symm
    · simpa [hcontinued] using hsnd.symm
  rw [hiterations] at hmem
  split_ifs at hmem with hcontinued
  · have hcalls : calls = (processPsbt lib address finalizedPsbt replies).1 :=
      calls_of_mem_broadcastTick lib address hmem
    rw [hcalls]
    exact reportsConfirmed_iff lib address finalizedPsbt replies
  · cases hmem

end Broadcaster

/-! ### Two nodes -/

/-- A library for which a PSBT is its bytes. -/
def sampleLibrary : PsbtLibrary (List UInt8) (List UInt8) where
  deserialize := .ok
  computeTxid _ := FixedBytes.repeatByte 32 7
  extractTx := some

/-- A tick with one finalized PSBT. -/
def sampleTick (replies : BroadcastReplies) : BroadcastTick where
  isSelectedRelayer := .ok true
  blazeActivation := .ok true
  finalizedPsbts := .ok [([0x70, 0x73, 0x62, 0x74, 0xff], replies)]

/-- A node that does not know a transaction and whose mempool rejects it. -/
def rejectingNode : BroadcastReplies where
  getRawTransaction := .error ⟨"No such mempool or blockchain transaction"⟩
  testMempoolAccept := .ok [⟨false, some "min relay fee not met"⟩]
  sendRawTransaction := .error ⟨"min relay fee not met"⟩
  signMessage message := .ok message

/-- A node that takes the transaction. -/
def acceptingNode : BroadcastReplies where
  getRawTransaction := .error ⟨"No such mempool or blockchain transaction"⟩
  testMempoolAccept := .ok [⟨true, none⟩]
  sendRawTransaction := .ok (FixedBytes.repeatByte 32 7)
  signMessage message := .ok message

/-- The iteration of the sample tick. -/
def sampleIteration (replies : BroadcastReplies) : Iteration (List UInt8) where
  finalizedPsbt := [0x70, 0x73, 0x62, 0x74, 0xff]
  replies := replies
  calls := (processPsbt sampleLibrary (accountOf 1) [0x70, 0x73, 0x62, 0x74, 0xff] replies).1

/-- The report of an accepted transaction. -/
def sampleRequest : ExecutedRequest where
  submission := ⟨accountOf 1, .executedPsbt ⟨FixedBytes.repeatByte 32 7⟩⟩
  signature := (ExecutedPsbtMessage.mk (FixedBytes.repeatByte 32 7)).message

theorem accepted_transaction_reported :
    ∃ tr ending, (broadcasterSystem sampleLibrary (accountOf 1)).Run tr ending ∧
      (∃ label ∈ tr, sampleIteration acceptingNode ∈ label.2) ∧
      .submitExecutedRequest (FixedBytes.repeatByte 32 7) sampleRequest ∈
        (sampleIteration acceptingNode).calls ∧
      ReportsConfirmed sampleLibrary (sampleIteration acceptingNode) := by
  have hrun : (broadcasterSystem sampleLibrary (accountOf 1)).Run
      [(sampleTick acceptingNode, [sampleIteration acceptingNode])] .continued :=
    LabelledSystem.run_execute _ _ [sampleTick acceptingNode]
  have hnode : NodeHas acceptingNode :=
    .inr ⟨⟨_, _, rfl, rfl, rfl⟩, _, rfl⟩
  refine ⟨_, _, hrun, ⟨_, List.mem_singleton_self _, List.mem_singleton_self _⟩, ?_,
    (report_confirmed_iff sampleLibrary (accountOf 1) hrun _ (List.mem_singleton_self _) _
      (List.mem_singleton_self _)).mpr (.inl hnode)⟩
  exact List.mem_cons_of_mem _ (List.mem_cons_of_mem _ (List.mem_cons_of_mem _
    (List.mem_singleton_self _)))

/-- A rejected transaction is reported as executed. -/
theorem rejected_transaction_reported :
    ∃ tr ending, (broadcasterSystem sampleLibrary (accountOf 1)).Run tr ending ∧
      (∃ label ∈ tr, sampleIteration rejectingNode ∈ label.2) ∧
      ¬ ReportsConfirmed sampleLibrary (sampleIteration rejectingNode) := by
  have hrun : (broadcasterSystem sampleLibrary (accountOf 1)).Run
      [(sampleTick rejectingNode, [sampleIteration rejectingNode])] .continued :=
    LabelledSystem.run_execute _ _ [sampleTick rejectingNode]
  refine ⟨_, _, hrun, ⟨_, List.mem_singleton_self _, List.mem_singleton_self _⟩, ?_⟩
  refine not_reportsConfirmed sampleLibrary (accountOf 1) rfl ?_ ?_ ?_
  · rintro (⟨tx, htx⟩ | ⟨-, sent, hsent⟩)
    · cases htx
    · cases hsent
  · rintro ⟨-, hnone⟩
    cases hnone
  · rintro ⟨report, hsign⟩
    cases hsign

end Bitcoin

end BifrostRelayer
