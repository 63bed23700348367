import BifrostRelayer.Foundation.Fallible
import BifrostRelayer.Foundation.Ranges
import BifrostRelayer.Primitives.Socket

/-!
# Flushing stalled transactions

When transactions of the relayer are stuck in the pool of a chain, the client reads them from the
pool, orders them by nonce, and sends them again at a higher price, one after the other.  If the
first nonce is not the nonce of the account, all of them get new nonces, which begin with the
account's.

The pool and the account are read at different times, and only the first nonce is compared.  Of a
transaction the requests take over the recipient, the input, the gas limit and the fees of the two
usual types.  `flush_rebuilds_queue_iff` says when this is enough: no transaction of the pool was
mined in between, there is no gap behind a first nonce that fits, and no transaction has anything
else.  A panic is `none`.
-/

namespace BifrostRelayer

namespace Evm

open Fallible SolidityAbi
open Std (ExtTreeMap)

/-! ### Transactions -/

/-- `AccessListItem`. -/
structure AccessListItem where
  address : Address
  storageKeys : List B256
deriving DecidableEq

/-- A transaction in the pool.  A fee is missing where the type of the transaction does not have
it. -/
structure PoolTransaction where
  /-- `ty()`: 0 for legacy transactions and 2 for those of EIP-1559. -/
  ty : UInt8
  toAddress : Option Address
  value : BitVec 256
  input : List UInt8
  nonce : UInt64
  gasLimit : UInt64
  accessList : Option (List AccessListItem)
  maxFeePerGas : Option (BitVec 128)
  maxPriorityFeePerGas : Option (BitVec 128)
  gasPrice : Option (BitVec 128)
deriving DecidableEq

/-- `is_eip1559()`. -/
def PoolTransaction.isEip1559 (tx : PoolTransaction) : Bool := tx.ty == 2

/-- The fees of a request. -/
inductive Fees where
  | eip1559 (maxFeePerGas maxPriorityFeePerGas : BitVec 128)
  | legacy (gasPrice : BitVec 128)
deriving DecidableEq

/-- The request of a transaction that is sent again. -/
structure TransactionRequest where
  toAddress : Address
  value : Option (BitVec 256)
  input : List UInt8
  nonce : UInt64
  gasLimit : UInt64
  accessList : Option (List AccessListItem)
  fees : Fees
deriving DecidableEq

/-- `output_tx_type()`, which the fees decide where there is no access list. -/
def TransactionRequest.outputTxType (request : TransactionRequest) : UInt8 :=
  match request.fees with
  | .eip1559 _ _ => 2
  | .legacy _ => if request.accessList.isSome then 1 else 0

/-- The key of a transaction in the pool. -/
def poolKey (nonce : UInt64) : String := toString nonce.toNat

/-- `TxpoolContentFrom`: the pending and the queued transactions of an account, each under its
nonce. -/
structure TxpoolContentFrom where
  pending : ExtTreeMap String PoolTransaction
  queued : ExtTreeMap String PoolTransaction
  pending_keyed : ∀ (key : String) (tx : PoolTransaction), pending[key]? = some tx →
    key = poolKey tx.nonce
  queued_keyed : ∀ (key : String) (tx : PoolTransaction), queued[key]? = some tx →
    key = poolKey tx.nonce

/-- The transactions of the pool, `pending` extended by `queued`. -/
def TxpoolContentFrom.transactions (content : TxpoolContentFrom) : List PoolTransaction :=
  (content.pending ∪ content.queued).toList.map Prod.snd

/-! ### The queue -/

/-- The request of a transaction, but for its recipient; the other fields have their defaults. -/
def PoolTransaction.requestTo (tx : PoolTransaction) (toAddress : Address) : TransactionRequest where
  toAddress
  value := none
  input := tx.input
  nonce := tx.nonce
  gasLimit := tx.gasLimit
  accessList := none
  fees :=
    if tx.isEip1559 then .eip1559 (tx.maxFeePerGas.getD 0) (tx.maxPriorityFeePerGas.getD 0)
    else .legacy (tx.gasPrice.getD 0)

/-- The request of a transaction, which must have a recipient. -/
def PoolTransaction.toRequest (tx : PoolTransaction) : Option TransactionRequest :=
  tx.toAddress.map tx.requestTo

/-- `sort_by_key(|a| a.nonce())`. -/
def sortByNonce (requests : List TransactionRequest) : List TransactionRequest :=
  requests.insertionSort fun a b => a.nonce ≤ b.nonce

/-- The loop that gives consecutive nonces. -/
def renumber : UInt64 → List TransactionRequest → List TransactionRequest
  | _, [] => []
  | count, tx :: transactions => { tx with nonce := count } :: renumber (count + 1) transactions

/-- The queue made of sorted requests and the nonce of the account. -/
def renumberUnlessFirst (count : UInt64) (transactions : List TransactionRequest) :
    List TransactionRequest :=
  match transactions.head? with
  | none => transactions
  | some first => if first.nonce ≠ count then renumber count transactions else transactions

/-- What the chain replies to a flush. -/
structure FlushReplies where
  txpoolStatus : Except Report Unit
  txpoolContentFrom : Except Report TxpoolContentFrom
  /-- The part of `txpool_content` that belongs to the account. -/
  txpoolContent : Except Report TxpoolContentFrom
  transactionCount : Except Report UInt64

/-- The queue of `flush_stalled_transactions` for the content of the pool. -/
def stalledQueue (content : TxpoolContentFrom) (transactionCount : Except Report UInt64) :
    Option (Except Report (List TransactionRequest)) := do
  if content.transactions.isEmpty then return .ok []
  let requests ← content.transactions.mapM PoolTransaction.toRequest
  let transactions := sortByNonce requests
  return transactionCount.map fun count => renumberUnlessFirst count transactions

/-- `flush_stalled_transactions` up to its loop: the queue that it begins to send. -/
def flushStalledTransactions (replies : FlushReplies) :
    Option (Except Report (List TransactionRequest)) :=
  match replies.txpoolStatus with
  | .error _ => some (.ok [])
  | .ok () =>
      match replies.txpoolContentFrom with
      | .ok content => stalledQueue content replies.transactionCount
      | .error _ =>
          match replies.txpoolContent with
          | .error report => some (.error report)
          | .ok content => stalledQueue content replies.transactionCount

/-! ### What the queue should be -/

/-- Consecutive nonces from a given one on. -/
def consecutive (count : UInt64) (requests : List TransactionRequest) : List TransactionRequest :=
  requests.mapIdx fun i request => { request with nonce := .ofNat (count.toNat + i) }

/-- What a flush reads: the content of the pool, by one call or the other, and then the nonce of the
account. -/
def ReadsPool (replies : FlushReplies) (content : TxpoolContentFrom) (count : UInt64) : Prop :=
  replies.txpoolStatus = .ok () ∧
    (replies.txpoolContentFrom = .ok content ∨
      (∃ report, replies.txpoolContentFrom = .error report) ∧ replies.txpoolContent = .ok content) ∧
    replies.transactionCount = .ok count

/-- The request stands for the transaction, whatever its nonce is. -/
structure Renews (tx : PoolTransaction) (request : TransactionRequest) : Prop where
  toAddress : tx.toAddress = some request.toAddress
  value : tx.value = request.value.getD 0
  input : tx.input = request.input
  gasLimit : tx.gasLimit = request.gasLimit
  accessList : tx.accessList.getD [] = request.accessList.getD []
  ty : tx.ty = request.outputTxType
  fees :
    match request.fees with
    | .eip1559 maxFeePerGas maxPriorityFeePerGas =>
        tx.maxFeePerGas = some maxFeePerGas ∧ tx.maxPriorityFeePerGas = some maxPriorityFeePerGas
    | .legacy gasPrice => tx.gasPrice = some gasPrice

/-- The queue stands for the transactions of the pool that are not mined, in the order of their
nonces, and has consecutive nonces from the account's on. -/
def RebuildsQueue (content : TxpoolContentFrom) (count : UInt64)
    (queue : Option (Except Report (List TransactionRequest))) : Prop :=
  ∃ transactions requests,
    transactions.Perm (content.transactions.filter fun tx => count ≤ tx.nonce) ∧
    (transactions.Pairwise fun a b => a.nonce < b.nonce) ∧
    queue = some (.ok requests) ∧ List.Forall₂ Renews transactions requests ∧
    requests = consecutive count requests

/-- A transaction that has nothing but what a request takes over. -/
structure PoolTransaction.Plain (tx : PoolTransaction) : Prop where
  value : tx.value = 0
  accessList : tx.accessList.getD [] = []
  fees : tx.ty = 2 ∧ tx.maxFeePerGas ≠ none ∧ tx.maxPriorityFeePerGas ≠ none ∨
    tx.ty = 0 ∧ tx.gasPrice ≠ none

/-- A pool whose queue is rebuilt: every transaction has a recipient, is plain and is not mined, and
if one of them has the nonce of the account, there is no gap. -/
structure PoolFlushable (content : TxpoolContentFrom) (count : UInt64) : Prop where
  recipient : ∀ tx ∈ content.transactions, tx.toAddress ≠ none
  plain : ∀ tx ∈ content.transactions, tx.Plain
  unmined : ∀ tx ∈ content.transactions, count ≤ tx.nonce
  no_gap : (∃ tx ∈ content.transactions, tx.nonce = count) →
    ∀ tx ∈ content.transactions, tx.nonce.toNat < count.toNat + content.transactions.length

/-! ### Nonces -/

lemma TxpoolContentFrom.keyed (content : TxpoolContentFrom) {key : String} {tx : PoolTransaction}
    (htx : (content.pending ∪ content.queued)[key]? = some tx) : key = poolKey tx.nonce := by
  rw [ExtTreeMap.getElem?_union, Option.or_eq_some_iff] at htx
  obtain htx | ⟨-, htx⟩ := htx
  · exact content.queued_keyed key tx htx
  · exact content.pending_keyed key tx htx

/-- No two transactions of a pool have the same nonce. -/
lemma TxpoolContentFrom.nodup_nonces (content : TxpoolContentFrom) :
    (content.transactions.map PoolTransaction.nonce).Nodup := by
  rw [transactions, List.map_map, List.Nodup, List.pairwise_map]
  refine ExtTreeMap.distinct_keys_toList.imp_of_mem ?_
  rintro ⟨key, tx⟩ ⟨key', tx'⟩ htx htx' hne hnonce
  have hkey := content.keyed (ExtTreeMap.mem_toList_iff_getElem?_eq_some.mp htx)
  have hkey' := content.keyed (ExtTreeMap.mem_toList_iff_getElem?_eq_some.mp htx')
  refine hne (compare_eq_iff_eq.mpr ?_)
  rw [hkey, hkey']
  exact congrArg poolKey hnonce

lemma pairwise_sortByNonce (requests : List TransactionRequest) :
    (sortByNonce requests).Pairwise fun a b => a.nonce ≤ b.nonce := by
  have htotal : Std.Total fun a b : TransactionRequest => a.nonce ≤ b.nonce :=
    ⟨fun a b => UInt64.le_total a.nonce b.nonce⟩
  have htrans : IsTrans TransactionRequest fun a b => a.nonce ≤ b.nonce :=
    ⟨fun _ _ _ => UInt64.le_trans⟩
  exact List.pairwise_insertionSort _ requests

lemma sortByNonce_perm (requests : List TransactionRequest) : (sortByNonce requests).Perm requests :=
  List.perm_insertionSort _ requests

/-- The nonces of sorted requests increase when no two are the same. -/
lemma pairwise_lt_sortByNonce {requests : List TransactionRequest}
    (hnodup : (requests.map TransactionRequest.nonce).Nodup) :
    ((sortByNonce requests).map fun request => request.nonce.toNat).Pairwise (· < ·) := by
  have hnodup' : ((sortByNonce requests).map TransactionRequest.nonce).Nodup :=
    ((sortByNonce_perm requests).map _).nodup_iff.mpr hnodup
  rw [List.pairwise_map]
  refine (pairwise_sortByNonce requests).and (List.pairwise_map.mp hnodup') |>.imp ?_
  rintro a b ⟨hle, hne⟩
  exact lt_of_le_of_ne (UInt64.le_iff_toNat_le.mp hle) fun heq => hne (UInt64.toNat_inj.mp heq)

/-! ### Renumbering -/

lemma renumber_eq (count : UInt64) (requests : List TransactionRequest) :
    renumber count requests = consecutive count requests := by
  induction requests generalizing count with
  | nil => rfl
  | cons request requests ih =>
    have hshift (i : ℕ) : UInt64.ofNat ((count + 1).toNat + i) = .ofNat (count.toNat + (i + 1)) := by
      rw [← UInt64.toNat_inj]
      simp only [UInt64.toNat_ofNat', UInt64.toNat_add, UInt64.toNat_one]
      omega
    rw [renumber, ih]
    simp only [consecutive, List.mapIdx_cons, hshift, Nat.add_zero, UInt64.ofNat_toNat]

lemma length_consecutive (count : UInt64) (requests : List TransactionRequest) :
    (consecutive count requests).length = requests.length := List.length_mapIdx

/-- Requests from a nonce on keep their nonces when these are consecutive, that is, when they have no
room for a gap. -/
lemma consecutive_eq_self_iff {count : UInt64} {requests : List TransactionRequest}
    (hsorted : (requests.map fun request => request.nonce.toNat).Pairwise (· < ·))
    (hfrom : ∀ request ∈ requests, count ≤ request.nonce) :
    consecutive count requests = requests ↔
      ∀ request ∈ requests, request.nonce.toNat < count.toNat + requests.length := by
  constructor
  · intro heq request hmem
    obtain ⟨i, hi, rfl⟩ := List.getElem_of_mem hmem
    have hget : (consecutive count requests)[i]? = requests[i]? := by rw [heq]
    rw [consecutive, List.getElem?_mapIdx, List.getElem?_eq_getElem hi, Option.map_some,
      Option.some.injEq] at hget
    have hnonce := congrArg (fun request => request.nonce.toNat) hget
    simp only [UInt64.toNat_ofNat'] at hnonce
    have hmod := Nat.mod_le (count.toNat + i) (2 ^ 64)
    omega
  · intro hlt
    have hrange : (requests.map fun request => request.nonce.toNat) =
        List.range' count.toNat requests.length := by
      have hfilled := eq_range'_of_pairwise_lt (a := count.toNat) hsorted ?_
      · rwa [List.length_map] at hfilled
      · intro n hn
        obtain ⟨request, hmem, rfl⟩ := List.mem_map.mp hn
        rw [List.length_map]
        exact ⟨UInt64.le_iff_toNat_le.mp (hfrom request hmem), hlt request hmem⟩
    refine List.ext_getElem (length_consecutive count requests) fun i hi hi' => ?_
    have hnonce : requests[i].nonce.toNat = count.toNat + i := by
      have hget : (requests.map fun request => request.nonce.toNat)[i]? =
          (List.range' count.toNat requests.length)[i]? := by rw [hrange]
      simpa [hi'] using hget
    simp only [consecutive, List.getElem_mapIdx, ← hnonce, UInt64.ofNat_toNat]

lemma length_renumberUnlessFirst (count : UInt64) (requests : List TransactionRequest) :
    (renumberUnlessFirst count requests).length = requests.length := by
  unfold renumberUnlessFirst
  split
  · rfl
  · split_ifs
    · rw [renumber_eq, length_consecutive]
    · rfl

/-- The queue of requests that are not mined. -/
lemma renumberUnlessFirst_eq_iff_of_unmined {count : UInt64} {requests : List TransactionRequest}
    (hnodup : (requests.map TransactionRequest.nonce).Nodup)
    (hfrom : ∀ request ∈ requests, count ≤ request.nonce) :
    renumberUnlessFirst count (sortByNonce requests) = consecutive count (sortByNonce requests) ↔
      ((∃ request ∈ requests, request.nonce = count) →
        ∀ request ∈ requests, request.nonce.toNat < count.toNat + requests.length) := by
  have hperm := sortByNonce_perm requests
  have hlength := hperm.length_eq
  have hfrom' : ∀ request ∈ sortByNonce requests, count ≤ request.nonce :=
    fun request hmem => hfrom request (hperm.mem_iff.mp hmem)
  have hgap := consecutive_eq_self_iff (pairwise_lt_sortByNonce hnodup) hfrom'
  simp only [hperm.mem_iff, hlength] at hgap
  unfold renumberUnlessFirst
  cases hhead : (sortByNonce requests).head? with
  | none =>
    obtain rfl : requests = [] := by
      have hnil := List.head?_eq_none_iff.mp hhead
      rw [hnil] at hperm
      exact hperm.symm.eq_nil
    simp [List.head?_eq_none_iff.mp hhead, consecutive]
  | some first =>
    obtain ⟨rest, hrest⟩ := List.head?_eq_some_iff.mp hhead
    have hfirst : first ∈ requests := hperm.mem_iff.mp (by simp [hrest])
    dsimp only
    by_cases hcount : first.nonce = count
    · -- The requests keep their nonces, so these must be consecutive.
      rw [if_neg (not_not.mpr hcount), eq_comm, hgap]
      exact ⟨fun hlt _ => hlt, fun hlt => hlt ⟨first, hfirst, hcount⟩⟩
    · refine iff_of_true (by rw [if_pos hcount, renumber_eq]) fun ⟨request, hmem, heq⟩ => ?_
      -- The first nonce is the least, so no request has the nonce of the account.
      have hle : first.nonce ≤ request.nonce := by
        have hsorted := pairwise_sortByNonce requests
        rw [hrest, List.pairwise_cons] at hsorted
        have hmem' : request ∈ first :: rest := hrest ▸ hperm.mem_iff.mpr hmem
        obtain rfl | hmem' := List.mem_cons.mp hmem'
        · exact UInt64.le_refl _
        · exact hsorted.1 request hmem'
      exact absurd (UInt64.le_antisymm (heq ▸ hle) (hfrom first hfirst)) hcount

/-- Nonces are all that changes. -/
lemma exists_renumberUnlessFirst_eq (count : UInt64) (requests : List TransactionRequest) :
    ∃ nonce : ℕ → TransactionRequest → UInt64, renumberUnlessFirst count requests =
      requests.mapIdx fun i request => { request with nonce := nonce i request } := by
  have hsame : requests =
      requests.mapIdx fun _ request => { request with nonce := request.nonce } := by
    simp [List.mapIdx_eq_zipIdx_map]
  unfold renumberUnlessFirst
  split
  · exact ⟨fun _ request => request.nonce, hsame⟩
  · split_ifs
    · exact ⟨fun i _ => .ofNat (count.toNat + i), renumber_eq count requests⟩
    · exact ⟨fun _ request => request.nonce, hsame⟩

/-- Requests that differ in their nonces get the same consecutive ones. -/
lemma consecutive_mapIdx (count : UInt64) (requests : List TransactionRequest)
    (nonce : ℕ → TransactionRequest → UInt64) :
    consecutive count (requests.mapIdx fun i request =>
      { request with nonce := nonce i request }) = consecutive count requests := by
  simp [consecutive, List.mapIdx_mapIdx, Function.comp_def]

/-- The queue has consecutive nonces if it is the one that is renumbered. -/
lemma consecutive_renumberUnlessFirst (count : UInt64) (requests : List TransactionRequest) :
    consecutive count (renumberUnlessFirst count requests) = consecutive count requests := by
  obtain ⟨nonce, hqueue⟩ := exists_renumberUnlessFirst_eq count requests
  rw [hqueue, consecutive_mapIdx]

/-! ### Requests -/

/-- The transactions of the pool, sorted by their nonces. -/
def TxpoolContentFrom.sorted (content : TxpoolContentFrom) : List PoolTransaction :=
  content.transactions.insertionSort fun a b => a.nonce ≤ b.nonce

lemma TxpoolContentFrom.sorted_perm (content : TxpoolContentFrom) :
    content.sorted.Perm content.transactions := List.perm_insertionSort _ _

lemma TxpoolContentFrom.pairwise_sorted (content : TxpoolContentFrom) :
    content.sorted.Pairwise fun a b => a.nonce < b.nonce := by
  have htotal : Std.Total fun a b : PoolTransaction => a.nonce ≤ b.nonce :=
    ⟨fun a b => UInt64.le_total a.nonce b.nonce⟩
  have htrans : IsTrans PoolTransaction fun a b => a.nonce ≤ b.nonce :=
    ⟨fun _ _ _ => UInt64.le_trans⟩
  have hnodup : (content.sorted.map PoolTransaction.nonce).Nodup :=
    (content.sorted_perm.map _).nodup_iff.mpr content.nodup_nonces
  refine (List.pairwise_insertionSort _ content.transactions).and
    (List.pairwise_map.mp hnodup) |>.imp ?_
  rintro a b ⟨hle, hne⟩
  exact UInt64.lt_of_le_of_ne hle hne

/-- There is one list of the transactions in the order of their nonces. -/
lemma TxpoolContentFrom.eq_sorted {content : TxpoolContentFrom}
    {transactions : List PoolTransaction} (hperm : transactions.Perm content.transactions)
    (hsorted : transactions.Pairwise fun a b => a.nonce < b.nonce) :
    transactions = content.sorted := by
  refine List.Perm.eq_of_pairwise (fun a b _ _ hab hba => ?_) hsorted content.pairwise_sorted
    (hperm.trans content.sorted_perm.symm)
  exact absurd (UInt64.lt_trans hab hba) (UInt64.lt_irrefl _)

/-- A request with the recipient of its transaction. -/
def PoolTransaction.request (tx : PoolTransaction) : TransactionRequest :=
  tx.requestTo (tx.toAddress.getD ⟨FixedBytes.repeatByte 20 0⟩)

lemma mapM_toRequest {transactions : List PoolTransaction}
    (h : ∀ tx ∈ transactions, tx.toAddress ≠ none) :
    transactions.mapM PoolTransaction.toRequest = some (transactions.map PoolTransaction.request) := by
  refine mapM_eq_some_iff.mpr (List.forall₂_map_right_iff.mpr (List.forall₂_same.mpr ?_))
  intro tx hmem
  obtain ⟨toAddress, hto⟩ := Option.ne_none_iff_exists'.mp (h tx hmem)
  simp [PoolTransaction.toRequest, PoolTransaction.request, hto]

/-- A request stands for its transaction if this is plain. -/
lemma renews_request_iff {tx : PoolTransaction} (hto : tx.toAddress ≠ none) (nonce : UInt64) :
    Renews tx { tx.request with nonce } ↔ tx.Plain := by
  obtain ⟨toAddress, hto⟩ := Option.ne_none_iff_exists'.mp hto
  have hrequest : ({ tx.request with nonce } : TransactionRequest).toAddress = toAddress := by
    simp [PoolTransaction.request, PoolTransaction.requestTo, hto]
  cases heip : tx.isEip1559 with
  | true =>
    have hty : tx.ty = 2 := by simpa [PoolTransaction.isEip1559] using heip
    have hfees : tx.request.fees =
        .eip1559 (tx.maxFeePerGas.getD 0) (tx.maxPriorityFeePerGas.getD 0) := by
      simp [PoolTransaction.request, PoolTransaction.requestTo, heip]
    constructor
    · intro h
      have h' := h.fees
      rw [hfees] at h'
      exact ⟨h.value, h.accessList, .inl ⟨hty, Option.ne_none_iff_exists'.mpr ⟨_, h'.1⟩,
        Option.ne_none_iff_exists'.mpr ⟨_, h'.2⟩⟩⟩
    · intro h
      obtain ⟨-, hmax, hpriority⟩ := h.fees.resolve_right fun hlegacy => by simp [hty] at hlegacy
      obtain ⟨maxFee, hmax⟩ := Option.ne_none_iff_exists'.mp hmax
      obtain ⟨priority, hpriority⟩ := Option.ne_none_iff_exists'.mp hpriority
      refine ⟨by rw [hrequest, hto], h.value, rfl, rfl, h.accessList, ?_, ?_⟩
      · simp [TransactionRequest.outputTxType, hfees, hty]
      · simp [hfees, hmax, hpriority]
  | false =>
    have hty : tx.ty ≠ 2 := by simpa [PoolTransaction.isEip1559] using heip
    have hfees : tx.request.fees = .legacy (tx.gasPrice.getD 0) := by
      simp [PoolTransaction.request, PoolTransaction.requestTo, heip]
    have hlist : tx.request.accessList = none := rfl
    have hout : ({ tx.request with nonce } : TransactionRequest).outputTxType = 0 := by
      simp [TransactionRequest.outputTxType, hfees, hlist]
    constructor
    · intro h
      have h' := h.fees
      rw [hfees] at h'
      exact ⟨h.value, h.accessList, .inr ⟨h.ty.trans hout,
        Option.ne_none_iff_exists'.mpr ⟨_, h'⟩⟩⟩
    · intro h
      obtain ⟨hzero, hprice⟩ := h.fees.resolve_left fun heip' => hty heip'.1
      obtain ⟨price, hprice⟩ := Option.ne_none_iff_exists'.mp hprice
      refine ⟨by rw [hrequest, hto], h.value, rfl, rfl, h.accessList, hzero.trans hout.symm, ?_⟩
      simp [hfees, hprice]

/-! ### The flush -/

lemma flushStalledTransactions_eq {replies : FlushReplies} {content : TxpoolContentFrom}
    {count : UInt64} (hreads : ReadsPool replies content count) :
    flushStalledTransactions replies = stalledQueue content (.ok count) := by
  obtain ⟨hstatus, hcontent | ⟨⟨report, herror⟩, hcontent⟩, hcount⟩ := hreads
  · simp [flushStalledTransactions, hstatus, hcontent, hcount]
  · simp [flushStalledTransactions, hstatus, herror, hcontent, hcount]

/-- It makes no difference whether the transactions or their requests are sorted. -/
lemma sortByNonce_request (content : TxpoolContentFrom) :
    sortByNonce (content.transactions.map PoolTransaction.request) =
      content.sorted.map PoolTransaction.request :=
  (List.map_insertionSort (fun a b : PoolTransaction => a.nonce ≤ b.nonce)
    (fun a b : TransactionRequest => a.nonce ≤ b.nonce) PoolTransaction.request
    content.transactions fun _ _ _ _ => Iff.rfl).symm

lemma stalledQueue_eq {content : TxpoolContentFrom}
    (hrecipient : ∀ tx ∈ content.transactions, tx.toAddress ≠ none) (count : UInt64) :
    stalledQueue content (.ok count) =
      some (.ok (renumberUnlessFirst count (content.sorted.map PoolTransaction.request))) := by
  unfold stalledQueue
  by_cases hempty : content.transactions = []
  · simp [hempty, TxpoolContentFrom.sorted, renumberUnlessFirst]
  · simp [hempty, mapM_toRequest hrecipient, sortByNonce_request, Except.map]

/-- Without the recipient of a transaction there is no queue. -/
lemma stalledQueue_eq_none {content : TxpoolContentFrom} {tx : PoolTransaction}
    (hmem : tx ∈ content.transactions) (hnone : tx.toAddress = none) (count : UInt64) :
    stalledQueue content (.ok count) = none := by
  have hrequests : content.transactions.mapM PoolTransaction.toRequest = none := by
    by_contra hsome
    refine exists_mapM_eq_some_iff.mp (Option.ne_none_iff_exists'.mp hsome) tx hmem ?_
    rw [PoolTransaction.toRequest, hnone, Option.map_none]
  have hempty : content.transactions ≠ [] := List.ne_nil_of_mem hmem
  simp [stalledQueue, hempty, hrequests]

section Sorted

variable {content : TxpoolContentFrom} {count : UInt64}

/-- The requests of the queue stand for the sorted transactions if these are plain. -/
lemma forall₂_renews_iff (hrecipient : ∀ tx ∈ content.transactions, tx.toAddress ≠ none) :
    List.Forall₂ Renews content.sorted
        (renumberUnlessFirst count (content.sorted.map PoolTransaction.request)) ↔
      ∀ tx ∈ content.transactions, tx.Plain := by
  have hmem : ∀ tx, tx ∈ content.sorted ↔ tx ∈ content.transactions :=
    fun tx => content.sorted_perm.mem_iff
  obtain ⟨nonce, hqueue⟩ :=
    exists_renumberUnlessFirst_eq count (content.sorted.map PoolTransaction.request)
  rw [hqueue, List.forall₂_iff_get]
  simp only [List.length_mapIdx, List.length_map, true_and, List.get_eq_getElem,
    List.getElem_mapIdx, List.getElem_map]
  constructor
  · intro h tx htx
    obtain ⟨i, hi, rfl⟩ := List.getElem_of_mem ((hmem tx).mpr htx)
    exact (renews_request_iff (hrecipient _ htx) _).mp (h i hi hi)
  · intro h i hi _
    have htx := (hmem _).mp (List.getElem_mem hi)
    exact (renews_request_iff (hrecipient _ htx) _).mpr (h _ htx)

/-- The nonces of the queue are consecutive if there is no gap behind the nonce of the account. -/
lemma renumberUnlessFirst_sorted_iff (hunmined : ∀ tx ∈ content.transactions, count ≤ tx.nonce) :
    renumberUnlessFirst count (content.sorted.map PoolTransaction.request) =
        consecutive count (content.sorted.map PoolTransaction.request) ↔
      ((∃ tx ∈ content.transactions, tx.nonce = count) →
        ∀ tx ∈ content.transactions,
          tx.nonce.toNat < count.toNat + content.transactions.length) := by
  have hnodup : ((content.transactions.map PoolTransaction.request).map
      TransactionRequest.nonce).Nodup := by
    rw [List.map_map]
    exact content.nodup_nonces
  have hfrom : ∀ request ∈ content.transactions.map PoolTransaction.request,
      count ≤ request.nonce := List.forall_mem_map.mpr hunmined
  rw [← sortByNonce_request, renumberUnlessFirst_eq_iff_of_unmined hnodup hfrom]
  refine imp_congr ?_ ?_
  · simp only [List.mem_map, exists_exists_and_eq_and]
    exact Iff.rfl
  · simp only [List.forall_mem_map, List.length_map]
    exact Iff.rfl

end Sorted

/-- Without recipients there is no queue to begin with. -/
lemma recipient_of_rebuildsQueue {replies : FlushReplies} {content : TxpoolContentFrom}
    {count : UInt64} (hreads : ReadsPool replies content count)
    (h : RebuildsQueue content count (flushStalledTransactions replies)) :
    ∀ tx ∈ content.transactions, tx.toAddress ≠ none := by
  intro tx htx hnone
  obtain ⟨_, _, _, _, hqueue, _⟩ := h
  rw [flushStalledTransactions_eq hreads, stalledQueue_eq_none htx hnone] at hqueue
  cases hqueue

/-- What is wrong with the pool shows in the queue. -/
lemma poolFlushable_of_rebuildsQueue {replies : FlushReplies} {content : TxpoolContentFrom}
    {count : UInt64} (hreads : ReadsPool replies content count)
    (h : RebuildsQueue content count (flushStalledTransactions replies)) :
    PoolFlushable content count := by
  have hrecipient := recipient_of_rebuildsQueue hreads h
  obtain ⟨transactions, requests, hperm, hsorted, hqueue, hrenews, hnonces⟩ := h
  rw [flushStalledTransactions_eq hreads, stalledQueue_eq hrecipient] at hqueue
  obtain rfl : renumberUnlessFirst count (content.sorted.map PoolTransaction.request) =
    requests := by simpa using hqueue
  -- The queue is as long as the pool, so no transaction is left out.
  have hfilter : (content.transactions.filter fun tx => count ≤ tx.nonce) =
      content.transactions := by
    refine List.Sublist.eq_of_length List.filter_sublist ?_
    rw [← hperm.length_eq, hrenews.length_eq, length_renumberUnlessFirst, List.length_map,
      content.sorted_perm.length_eq]
  have hunmined : ∀ tx ∈ content.transactions, count ≤ tx.nonce := fun tx htx => by
    simpa using List.filter_eq_self.mp hfilter tx htx
  rw [hfilter] at hperm
  obtain rfl := TxpoolContentFrom.eq_sorted hperm hsorted
  rw [consecutive_renumberUnlessFirst] at hnonces
  exact ⟨hrecipient, (forall₂_renews_iff hrecipient).mp hrenews, hunmined,
    (renumberUnlessFirst_sorted_iff hunmined).mp hnonces⟩

/-- The queue of a pool with which nothing is wrong. -/
lemma rebuildsQueue_of_poolFlushable {replies : FlushReplies} {content : TxpoolContentFrom}
    {count : UInt64} (hreads : ReadsPool replies content count)
    (h : PoolFlushable content count) :
    RebuildsQueue content count (flushStalledTransactions replies) := by
  rw [flushStalledTransactions_eq hreads, stalledQueue_eq h.recipient]
  refine ⟨content.sorted, _, ?_, content.pairwise_sorted, rfl,
    (forall₂_renews_iff h.recipient).mpr h.plain, ?_⟩
  · rw [List.filter_eq_self.mpr fun tx htx => by simpa using h.unmined tx htx]
    exact content.sorted_perm
  · rw [consecutive_renumberUnlessFirst]
    exact (renumberUnlessFirst_sorted_iff h.unmined).mpr h.no_gap

/-- A flush that reads the pool and then the nonce of the account rebuilds the queue exactly when
every transaction of the pool has a recipient, is plain and is not mined, and there is no gap behind a
transaction with the nonce of the account. -/
theorem flush_rebuilds_queue_iff {replies : FlushReplies} {content : TxpoolContentFrom}
    {count : UInt64} (hreads : ReadsPool replies content count) :
    RebuildsQueue content count (flushStalledTransactions replies) ↔
      PoolFlushable content count :=
  ⟨poolFlushable_of_rebuildsQueue hreads, rebuildsQueue_of_poolFlushable hreads⟩

/-! ### The loop that sends the queue -/

/-- How the sending of a request ends: it is confirmed, it is not confirmed in time, or it cannot be
sent, which ends the flush. -/
inductive SendOutcome where
  | confirmed
  | unconfirmed
  | failed

/-- The replies of one round: the fees by which the old ones are replaced, and the outcome. -/
structure ResubmitReplies where
  raiseFees : Fees → Except Report Fees
  outcome : SendOutcome

/-- The loop of `flush_stalled_transactions`, over the rounds that have taken place: the requests that
were sent. -/
def resubmit : List ResubmitReplies → List TransactionRequest → List TransactionRequest
  | [], _ => []
  | _ :: _, [] => []
  | round :: rounds, tx :: transactions =>
      match round.raiseFees tx.fees with
      | .error _ => []
      | .ok fees =>
          let request := { tx with fees }
          match round.outcome with
          | .confirmed => request :: resubmit rounds transactions
          | .unconfirmed => request :: resubmit rounds (request :: transactions)
          | .failed => [request]

/-! ### Three pools -/

/-- The map of transactions under their nonces. -/
def pendingOf : List PoolTransaction → ExtTreeMap String PoolTransaction
  | [] => ∅
  | tx :: transactions => (pendingOf transactions).insert (poolKey tx.nonce) tx

/-- A pool with pending transactions only. -/
def contentOf (transactions : List PoolTransaction) : TxpoolContentFrom where
  pending := pendingOf transactions
  queued := ∅
  pending_keyed := by
    induction transactions with
    | nil => simp [pendingOf]
    | cons first transactions ih =>
      intro key tx htx
      rw [pendingOf, ExtTreeMap.getElem?_insert] at htx
      split_ifs at htx with hkey
      · rw [← Option.some.inj htx]
        exact (compare_eq_iff_eq.mp hkey).symm
      · exact ih key tx htx
  queued_keyed := by simp

/-- A legacy transaction with a given nonce. -/
def sampleTransaction (nonce : UInt64) : PoolTransaction where
  ty := 0
  toAddress := some ⟨FixedBytes.repeatByte 20 1⟩
  value := 0
  input := [1, 2]
  nonce := nonce
  gasLimit := 21000
  accessList := none
  maxFeePerGas := none
  maxPriorityFeePerGas := none
  gasPrice := some 10

/-- One of EIP-1559. -/
def sampleDynamicTransaction (nonce : UInt64) : PoolTransaction :=
  { sampleTransaction nonce with
    ty := 2
    accessList := some []
    maxFeePerGas := some 100
    maxPriorityFeePerGas := some 30
    gasPrice := none }

/-- The replies of a chain with a given pool and nonce. -/
def sampleFlushReplies (transactions : List PoolTransaction) (count : UInt64) : FlushReplies where
  txpoolStatus := .ok ()
  txpoolContentFrom := .ok (contentOf transactions)
  txpoolContent := .error ⟨"the method txpool_content does not exist"⟩
  transactionCount := .ok count

theorem flush_fills_gap :
    RebuildsQueue (contentOf [sampleTransaction 7, sampleDynamicTransaction 9]) 6
      (flushStalledTransactions
        (sampleFlushReplies [sampleTransaction 7, sampleDynamicTransaction 9] 6)) := by
  have hall : (contentOf [sampleTransaction 7, sampleDynamicTransaction 9]).transactions =
      [sampleTransaction 7, sampleDynamicTransaction 9] := by decide +kernel
  refine (flush_rebuilds_queue_iff ⟨rfl, .inl rfl, rfl⟩).mpr ⟨?_, ?_, ?_, ?_⟩
  · decide +kernel
  · intro tx htx
    rw [hall, List.mem_pair] at htx
    obtain rfl | rfl := htx
    · exact ⟨rfl, rfl, .inr ⟨rfl, by decide⟩⟩
    · exact ⟨rfl, rfl, .inl ⟨rfl, by decide, by decide⟩⟩
  · decide +kernel
  · decide +kernel

/-- A transaction that was mined after the pool was read is sent again, a gap behind a first nonce
that fits is left, and a value is lost. -/
theorem flush_resends_mined_and_leaves_gap :
    ¬ RebuildsQueue (contentOf [sampleTransaction 5]) 6
        (flushStalledTransactions (sampleFlushReplies [sampleTransaction 5] 6)) ∧
      ¬ RebuildsQueue (contentOf [sampleTransaction 5, sampleTransaction 7]) 5
        (flushStalledTransactions
          (sampleFlushReplies [sampleTransaction 5, sampleTransaction 7] 5)) ∧
      ¬ RebuildsQueue (contentOf [{ sampleTransaction 5 with value := 1 }]) 5
        (flushStalledTransactions
          (sampleFlushReplies [{ sampleTransaction 5 with value := 1 }] 5)) := by
  have hread (transactions : List PoolTransaction) (count : UInt64) :
      ReadsPool (sampleFlushReplies transactions count) (contentOf transactions) count :=
    ⟨rfl, .inl rfl, rfl⟩
  refine ⟨fun h => ?_, fun h => ?_, fun h => ?_⟩
  · have hunmined := (poolFlushable_of_rebuildsQueue (hread _ _) h).unmined
    revert hunmined
    decide +kernel
  · have hgap := (poolFlushable_of_rebuildsQueue (hread _ _) h).no_gap
    revert hgap
    decide +kernel
  · have hplain := (poolFlushable_of_rebuildsQueue (hread _ _) h).plain
    have hvalue : ∀ tx ∈ (contentOf [{ sampleTransaction 5 with value := 1 }]).transactions,
        tx.value = 0 := fun tx htx => (hplain tx htx).value
    revert hvalue
    decide +kernel

end Evm

end BifrostRelayer
