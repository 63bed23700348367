import BifrostRelayer.Onflight.Handler

/-!
# Runs of the on-flight handler

Two results about every run, restarts included.  No transfer is swallowed or sent early: a marked
hash was sent since it was marked or is still pending, and a Standard transfer is sent only by a
pass that found it confirmed in its own block.  And there is at most one pending copy of a transfer
as long as no step meets one of two situations, a recovery that runs over live collections or a
mark that the cleanup took from a pending transfer (`NoSecondCopy`).
-/

namespace BifrostRelayer

namespace Onflight

/-! ### What a scan and a recovery add -/

/-- The two collections grow in step: what is inserted is sent or pushed, and conversely. -/
structure Growth (s : OnflightState) (r : ScanResult) : Prop where
  pending : r.state.pending = s.pending ++ r.pushed
  processed : ∀ h, h ∈ r.state.processed ↔ h ∈ s.processed ∨ h ∈ r.inserted
  inserted : ∀ h, h ∈ r.inserted ↔
    h ∈ r.sent.map SendCall.msgHash ∨ h ∈ r.pushed.map PendingStandardTransfer.msgHash

/-- A Fast transfer is sent and marked. -/
lemma Growth.fast {s : OnflightState} {r : ScanResult} {c : SendCall}
    (h : Growth { s with processed := insert c.msgHash s.processed } r) :
    Growth s { r with sent := c :: r.sent, inserted := c.msgHash :: r.inserted } := by
  refine ⟨h.pending, fun h' => ?_, fun h' => ?_⟩
  · simp only [h.processed h', Finset.mem_insert, List.mem_cons]
    tauto
  · simp only [List.mem_cons, h.inserted h', List.map_cons]
    tauto

/-- A Standard transfer is pushed and marked. -/
lemma Growth.standard {s : OnflightState} {r : ScanResult} {t : PendingStandardTransfer}
    (h : Growth ⟨s.pending ++ [t], insert t.msgHash s.processed⟩ r) :
    Growth s { r with inserted := t.msgHash :: r.inserted, pushed := t :: r.pushed } := by
  refine ⟨?_, fun h' => ?_, fun h' => ?_⟩
  · simp [h.pending]
  · simp only [h.processed h', Finset.mem_insert, List.mem_cons]
    tauto
  · simp only [List.mem_cons, h.inserted h', List.map_cons]
    tauto

lemma Growth.refl (s : OnflightState) (completed : Bool) : Growth s ⟨s, [], [], [], completed⟩ :=
  ⟨by simp, by simp, by simp⟩

/-- The scan grows the collections in step. -/
lemma growth_scan (cfg : OnflightConfig) (receipt : ℕ → ReceiptReply) (s : OnflightState) (idx : ℕ)
    (items : Snapshot) : Growth s (scan cfg receipt s idx items) := by
  induction items generalizing s idx with
  | nil => exact Growth.refl s true
  | cons item rest ih =>
    rcases item with report | info
    · exact Growth.refl s false
    · unfold scan
      by_cases hmark : cfg.keccak256 info.socketMessage ∈ s.processed
      · simp only [if_pos hmark]
        exact ih s (idx + 1)
      · simp only [if_neg hmark]
        split
        · exact ih s (idx + 1)
        · split
          · exact Growth.fast (c := info.sendCall _ _) (ih _ _)
          · split
            · exact Growth.standard (t := info.pendingTransfer _ _ _) (ih _ _)
            · exact ih s (idx + 1)
            · exact ih s (idx + 1)

/-- The recovery grows the collections in step, and sends nothing. -/
lemma growth_recover (cfg : OnflightConfig) (receipt : ℕ → ReceiptReply) (s : OnflightState)
    (idx : ℕ) (items : Snapshot) :
    Growth s (recover cfg receipt s idx items) ∧ (recover cfg receipt s idx items).sent = [] := by
  induction items generalizing s idx with
  | nil => exact ⟨Growth.refl s true, rfl⟩
  | cons item rest ih =>
    rcases item with report | info
    · exact ⟨Growth.refl s false, rfl⟩
    · unfold recover
      split
      · exact ih s (idx + 1)
      · split
        · exact ih s (idx + 1)
        · split
          · exact ⟨Growth.standard (t := info.pendingTransfer _ _ _) (ih _ _).1, (ih _ _).2⟩
          · exact ih s (idx + 1)
          · exact ih s (idx + 1)

/-- The send calls of a scan are for Fast transfers of the snapshot. -/
lemma mem_sent_scan {cfg : OnflightConfig} {receipt : ℕ → ReceiptReply} {s : OnflightState}
    {idx : ℕ} {items : Snapshot} {c : SendCall} (h : c ∈ (scan cfg receipt s idx items).sent) :
    ∃ info, .ok info ∈ items ∧ info.option = .fast ∧
      decodeSocketMessage info.socketMessage = .ok c.socketMessage ∧
      c = info.sendCall (cfg.keccak256 info.socketMessage) c.socketMessage := by
  induction items generalizing s idx with
  | nil => simp [scan] at h
  | cons item rest ih =>
    have hlater : ∀ {s idx}, c ∈ (scan cfg receipt s idx rest).sent →
        ∃ info, .ok info ∈ item :: rest ∧ info.option = .fast ∧
          decodeSocketMessage info.socketMessage = .ok c.socketMessage ∧
          c = info.sendCall (cfg.keccak256 info.socketMessage) c.socketMessage := by
      intro s idx hc
      obtain ⟨info, hmem, hinfo⟩ := ih hc
      exact ⟨info, List.mem_cons_of_mem _ hmem, hinfo⟩
    rcases item with report | info
    · simp [scan] at h
    · unfold scan at h
      by_cases hmark : cfg.keccak256 info.socketMessage ∈ s.processed
      · simp only [if_pos hmark] at h
        exact hlater h
      · simp only [if_neg hmark] at h
        split at h
        · exact hlater h
        · rename_i msg hdec
          split at h
          · rename_i hfast
            rcases List.mem_cons.mp h with rfl | h
            · exact ⟨info, List.mem_cons_self, hfast, hdec, rfl⟩
            · exact hlater h
          · split at h
            · exact hlater h
            · exact hlater h
            · exact hlater h

/-! ### One block -/

/-- The state after the pass of a block. -/
abbrev passState (cfg : OnflightConfig) (replies : PassReplies) (s : OnflightState) :
    OnflightState :=
  (processPendingStandardTransfers cfg replies s).1

/-- A block runs the pass, and then the collections grow from there, up to the cleanup. -/
lemma processSubstrateBlock_cases (cfg : OnflightConfig) (replies : PassReplies)
    (snapshot : Except Report Snapshot) (receipt : ℕ → ReceiptReply) (s : OnflightState) :
    ∃ r, Growth (passState cfg replies s) r ∧
      (processSubstrateBlock cfg replies snapshot receipt s).state.pending = r.state.pending ∧
      (processSubstrateBlock cfg replies snapshot receipt s).state.processed ⊆ r.state.processed ∧
      (processSubstrateBlock cfg replies snapshot receipt s).sent =
        (processPendingStandardTransfers cfg replies s).2 ++ r.sent ∧
      (processSubstrateBlock cfg replies snapshot receipt s).inserted = r.inserted ∧
      ((∃ items, snapshot = .ok items ∧ r = scan cfg receipt (passState cfg replies s) 0 items) ∨
        (r.sent = [] ∧ ∃ report, snapshot = .error report)) := by
  cases snapshot with
  | error report =>
    exact ⟨⟨passState cfg replies s, [], [], [], false⟩, Growth.refl _ _, rfl, fun _ h => h,
      by simp [processSubstrateBlock], rfl, .inr ⟨rfl, report, rfl⟩⟩
  | ok items =>
    refine ⟨scan cfg receipt (passState cfg replies s) 0 items, growth_scan _ _ _ _ _, ?_, ?_, rfl,
      rfl, .inl ⟨items, rfl, rfl⟩⟩
    · simp only [processSubstrateBlock]
      split <;> rfl
    · simp only [processSubstrateBlock]
      split
      · exact Finset.filter_subset _ _
      · exact fun _ h => h

/-! ### Nothing is swallowed, nothing is sent early -/

/-- The hashes of a list of pending transfers. -/
abbrev hashes (pending : List PendingStandardTransfer) : List B256 :=
  pending.map PendingStandardTransfer.msgHash

/-- Some step sent `h`, and no later step marked `h`: the send call was made in the step that last
marked `h` or in a later one. -/
def SentSinceMarked (h : B256) (tr : OnflightTrace) : Prop :=
  ∃ tr₁ a tr₂, tr = tr₁ ++ a :: tr₂ ∧ h ∈ a.2.sent.map SendCall.msgHash ∧
    ∀ b ∈ tr₂, h ∉ b.2.inserted

/-- The step just made sent `h`. -/
lemma SentSinceMarked.now {h : B256} {tr : OnflightTrace} {a : OnflightInput × OnflightOutput}
    (hs : h ∈ a.2.sent.map SendCall.msgHash) : SentSinceMarked h (tr ++ [a]) :=
  ⟨tr, a, [], rfl, hs, by simp⟩

/-- A step that does not mark `h` again. -/
lemma SentSinceMarked.later {h : B256} {tr : OnflightTrace} {a : OnflightInput × OnflightOutput}
    (hs : SentSinceMarked h tr) (hn : h ∉ a.2.inserted) : SentSinceMarked h (tr ++ [a]) := by
  obtain ⟨tr₁, b, tr₂, rfl, hb, hlater⟩ := hs
  refine ⟨tr₁, b, tr₂ ++ [a], by simp, hb, ?_⟩
  intro d hd
  rcases List.mem_append.mp hd with hd | hd
  · exact hlater d hd
  · rwa [List.mem_singleton.mp hd]

/-- A marked hash that a pass keeps marked was pending only if it is sent or pending after it. -/
lemma hashes_after_pass {cfg : OnflightConfig} {replies : PassReplies} {s : OnflightState}
    {h : B256} (hmark : h ∈ (passState cfg replies s).processed) (hpend : h ∈ hashes s.pending) :
    h ∈ (processPendingStandardTransfers cfg replies s).2.map SendCall.msgHash ∨
      h ∈ hashes (passState cfg replies s).pending := by
  obtain ⟨t, ht, rfl⟩ := List.mem_map.mp hpend
  obtain ⟨i, hget⟩ := List.mem_iff_getElem?.mp ht
  obtain ⟨-, hkept⟩ := (mem_processed_processPending cfg replies).mp hmark
  have hstay : ∀ t', t.fate cfg (replies.head i) (replies.receipt i) = some t' →
      t.msgHash ∈ hashes (passState cfg replies s).pending := by
    intro t' hfate
    refine List.mem_map.mpr ⟨t', ?_, msgHash_of_fate hfate⟩
    rw [pending_processPending]
    exact mem_reduceOption_mapIdx.mpr ⟨i, t, hget, hfate⟩
  cases hv : t.verdict cfg (replies.head i) (replies.receipt i) with
  | forward =>
    exact .inl (List.mem_map.mpr
      ⟨t.sendCall, (mem_sent_processPending cfg replies).mpr ⟨i, t, hget, hv, rfl⟩, rfl⟩)
  | moved newBlock => exact .inr (hstay _ (by simp [PendingStandardTransfer.fate, hv]; rfl))
  | vanished => exact absurd ⟨i, t, hget, hv, rfl⟩ hkept
  | keep => exact .inr (hstay t (by simp [PendingStandardTransfer.fate, hv]))

/-- A marked hash was sent since it was marked, or it is pending. -/
def Accounted (tr : OnflightTrace) (s : OnflightState) : Prop :=
  ∀ h ∈ s.processed, SentSinceMarked h tr ∨ h ∈ hashes s.pending

/-- Every state reached accounts for its marked hashes. -/
theorem accounted_of_run {cfg : OnflightConfig} {tr : OnflightTrace} {s : OnflightState}
    (hrun : (onflightSystem cfg).Run tr s) : Accounted tr s := by
  refine hrun.induction (P := Accounted) ?_ ?_
  · rintro s rfl h hh
    simp at hh
  · rintro tr s ⟨i, o⟩ s' - ih hstep h hh
    obtain ⟨rfl, rfl⟩ : (onflightHandle cfg s i).1 = s' ∧ (onflightHandle cfg s i).2 = o :=
      Prod.mk.inj hstep
    cases i with
    | run snapshot receipt =>
      cases snapshot with
      | error report =>
        rcases ih h hh with hs | hp
        · exact .inl (hs.later (by simp [onflightHandle, recoverPendingStandardTransfers]))
        · exact .inr hp
      | ok items =>
        have hgrow := (growth_recover cfg receipt s 0 items).1
        have hsent := (growth_recover cfg receipt s 0 items).2
        have hpend : (onflightHandle cfg s (.run (.ok items) receipt)).1.pending =
            s.pending ++ (recover cfg receipt s 0 items).pushed := hgrow.pending
        by_cases hin : h ∈ (recover cfg receipt s 0 items).inserted
        · right
          rw [hgrow.inserted, hsent] at hin
          rw [hpend, hashes, List.map_append]
          simpa using Or.inr hin
        · rcases (hgrow.processed h).mp hh with hold | hnew
          · rcases ih h hold with hs | hp
            · exact .inl (hs.later hin)
            · right
              rw [hpend, hashes, List.map_append]
              exact List.mem_append_left _ hp
          · exact absurd hnew hin
    | block replies snapshot receipt =>
      obtain ⟨r, hgrow, hpend, hproc, hsent, hins, -⟩ :=
        processSubstrateBlock_cases cfg replies snapshot receipt s
      have hpend' : (onflightHandle cfg s (.block replies snapshot receipt)).1.pending =
          (passState cfg replies s).pending ++ r.pushed := hpend.trans hgrow.pending
      by_cases hin : h ∈ r.inserted
      · -- marked by this step: sent as a Fast transfer, or pushed
        rcases (hgrow.inserted h).mp hin with hs | hp
        · refine .inl (SentSinceMarked.now ?_)
          simp only [onflightHandle, hsent, List.map_append]
          exact List.mem_append_right _ hs
        · right
          rw [hpend', hashes, List.map_append]
          exact List.mem_append_right _ hp
      · -- marked before this step, and kept by the pass
        have hpass : h ∈ (passState cfg replies s).processed :=
          ((hgrow.processed h).mp (hproc hh)).resolve_right hin
        have hold := ((mem_processed_processPending cfg replies).mp hpass).1
        have hnot : h ∉ (onflightHandle cfg s (.block replies snapshot receipt)).2.inserted := by
          simpa [onflightHandle, hins] using hin
        rcases ih h hold with hs | hp
        · exact .inl (hs.later hnot)
        · rcases hashes_after_pass hpass hp with hs | hp'
          · refine .inl (SentSinceMarked.now ?_)
            simp only [onflightHandle, hsent, List.map_append]
            exact List.mem_append_left _ hs
          · right
            rw [hpend', hashes, List.map_append]
            exact List.mem_append_left _ hp'

/-- Every send call of a step is for a Fast transfer of the snapshot, or for a pending transfer that
the pass found confirmed in its own block. -/
lemma sent_of_step {cfg : OnflightConfig} {s : OnflightState} {i : OnflightInput} {c : SendCall}
    (hc : c ∈ (onflightHandle cfg s i).2.sent) :
    ∃ replies snapshot receipt, i = .block replies snapshot receipt ∧
      ((∃ items info, snapshot = .ok items ∧ .ok info ∈ items ∧ info.option = .fast ∧
          c = info.sendCall (cfg.keccak256 info.socketMessage) c.socketMessage) ∨
        (∃ (idx : ℕ) (t : PendingStandardTransfer), s.pending[idx]? = some t ∧ c = t.sendCall ∧
          (∃ current, replies.head idx = .ok current ∧
            current - t.srcBlockNumber ≥ cfg.getBlockConfirmations t.srcChainId) ∧
          replies.receipt idx = .ok (some (some t.srcBlockNumber)))) := by
  cases i with
  | run snapshot receipt =>
    cases snapshot with
    | error report => simp [onflightHandle, recoverPendingStandardTransfers] at hc
    | ok items =>
      have hsent := (growth_recover cfg receipt s 0 items).2
      simp [onflightHandle, recoverPendingStandardTransfers, hsent] at hc
  | block replies snapshot receipt =>
    refine ⟨replies, snapshot, receipt, rfl, ?_⟩
    obtain ⟨r, -, -, -, hsent, -, hr⟩ := processSubstrateBlock_cases cfg replies snapshot receipt s
    simp only [onflightHandle, hsent] at hc
    rcases List.mem_append.mp hc with hc | hc
    · obtain ⟨idx, t, hget, hv, rfl⟩ := (mem_sent_processPending cfg replies).mp hc
      exact .inr ⟨idx, t, hget, rfl, verdict_eq_forward hv⟩
    · rcases hr with ⟨items, rfl, rfl⟩ | ⟨hnil, -⟩
      · obtain ⟨info, hmem, hfast, -, heq⟩ := mem_sent_scan hc
        exact .inl ⟨items, info, rfl, hmem, hfast, heq⟩
      · rw [hnil] at hc
        simp at hc

/-- In every run, a marked hash was sent since it was last marked or is pending; a Standard transfer
is sent only by a pass with enough confirmations and a receipt from its stored block; and a pass
keeps exactly the other transfers, in order, with new blocks for those mined elsewhere. -/
theorem transfers_accounted_and_confirmed (cfg : OnflightConfig) {tr : OnflightTrace}
    {s s' : OnflightState} {a : OnflightInput × OnflightOutput}
    (hrun : (onflightSystem cfg).Run tr s) (hstep : (onflightSystem cfg).step s a s') :
    Accounted tr s ∧ Accounted (tr ++ [a]) s' ∧
    (∀ c ∈ a.2.sent, ∃ replies snapshot receipt, a.1 = .block replies snapshot receipt ∧
      ((∃ items info, snapshot = .ok items ∧ .ok info ∈ items ∧ info.option = .fast ∧
          c = info.sendCall (cfg.keccak256 info.socketMessage) c.socketMessage) ∨
        (∃ (idx : ℕ) (t : PendingStandardTransfer), s.pending[idx]? = some t ∧ c = t.sendCall ∧
          (∃ current, replies.head idx = .ok current ∧
            current - t.srcBlockNumber ≥ cfg.getBlockConfirmations t.srcChainId) ∧
          replies.receipt idx = .ok (some (some t.srcBlockNumber))))) ∧
    (∀ replies snapshot receipt, a.1 = .block replies snapshot receipt →
      (processPendingStandardTransfers cfg replies s).1.pending =
        (s.pending.mapIdx fun i t =>
          t.fate cfg (replies.head i) (replies.receipt i)).reduceOption ∧
      (processPendingStandardTransfers cfg replies s).1.pending <+: s'.pending) := by
  refine ⟨accounted_of_run hrun, accounted_of_run (.snoc hrun hstep), ?_, ?_⟩
  · intro c hc
    have ho : (onflightHandle cfg s a.1).2 = a.2 := congrArg Prod.snd hstep
    rw [← ho] at hc
    exact sent_of_step hc
  · intro replies snapshot receipt hi
    refine ⟨pending_processPending cfg replies s, ?_⟩
    have hs' : (onflightHandle cfg s a.1).1 = s' := congrArg Prod.fst hstep
    obtain ⟨r, hgrow, hpend, -⟩ := processSubstrateBlock_cases cfg replies snapshot receipt s
    rw [← hs', hi]
    exact ⟨r.pushed, (hpend.trans hgrow.pending).symm⟩

/-! ### One transfer -/

/-- The values of `keccak256` on the sample messages. -/
@[irreducible] def sampleKeccak (bytes : List UInt8) : B256 :=
  if bytes = (sampleRequest 1 7).toVec then
    ⟨[118, 123, 102, 114, 51, 173, 78, 171, 0, 167, 252, 14, 177, 50, 14, 179, 221, 229, 133, 130,
      37, 179, 16, 148, 29, 171, 63, 77, 240, 101, 105, 255], rfl⟩
  else
    ⟨[8, 35, 148, 83, 226, 223, 237, 79, 167, 16, 54, 197, 54, 201, 195, 15, 136, 175, 157, 251,
      126, 226, 194, 250, 38, 219, 103, 154, 241, 106, 253, 116], rfl⟩

/-- A handler with a client for chain 1 that waits for two confirmations. -/
def sampleConfig : OnflightConfig where
  bitcoinChainId := none
  bifrostConfirmations := 1
  systemClients := fun chainId => if chainId = 1 then some 2 else none
  keccak256 := sampleKeccak

/-- An approved Standard transfer of the sample message. -/
def sampleTransfer : TransferInfo :=
  ⟨(sampleRequest 1 7).toVec, 1, SolidityAbi.FixedBytes.repeatByte 32 1, .standard⟩

/-- `run` is called while the transfer, mined in block 100, is in the storage. -/
def sampleStart : OnflightInput :=
  .run (.ok [.ok sampleTransfer]) fun _ => .ok (some (some 100))

/-- The entry pushed for the transfer. -/
def samplePending : PendingStandardTransfer :=
  sampleTransfer.pendingTransfer (sampleConfig.keccak256 sampleTransfer.socketMessage)
    (sampleRequest 1 7) 100

/-- The recovery pushes the transfer, whatever is pending already. -/
lemma onflightHandle_sampleStart (s : OnflightState) :
    onflightHandle sampleConfig s sampleStart =
      (⟨s.pending ++ [samplePending], insert samplePending.msgHash s.processed⟩,
        ⟨[], [samplePending.msgHash]⟩) := by
  have hdec : decodeSocketMessage sampleTransfer.socketMessage = .ok (sampleRequest 1 7) :=
    decodeSocketMessage_toVec _
  have hblock : sampleConfig.getTxBlockNumber sampleTransfer.srcChainId (.ok (some (some 100))) =
      .ok (some 100) := rfl
  have hopt : sampleTransfer.option = .standard := rfl
  simp only [onflightHandle, sampleStart, recoverPendingStandardTransfers, recover, hdec, hblock,
    hopt]
  rfl

/-- A pass at head 102 sends the transfer that was mined in block 100, and its mark is accounted
for. -/
theorem transfers_accounted_and_confirmed_first_start :
    ∃ tr s a s', (onflightSystem sampleConfig).Run tr s ∧
      (onflightSystem sampleConfig).step s a s' ∧
      samplePending.sendCall ∈ a.2.sent ∧ samplePending.msgHash ∈ s.processed ∧
      Accounted (tr ++ [a]) s' := by
  have hfirst : (onflightSystem sampleConfig).step ⟨[], ∅⟩
      (sampleStart, ⟨[], [samplePending.msgHash]⟩)
      ⟨[samplePending], insert samplePending.msgHash ∅⟩ := onflightHandle_sampleStart _
  have hrun := LabelledSystem.Run.snoc (.start rfl) hfirst
  let replies : PassReplies := ⟨fun _ => .ok 102, fun _ => .ok (some (some 100))⟩
  have hpass : (onflightSystem sampleConfig).step ⟨[samplePending], insert samplePending.msgHash ∅⟩
      (.block replies (.error ⟨"timeout"⟩) fun _ => .ok none,
        ⟨(processPendingStandardTransfers sampleConfig replies
          ⟨[samplePending], insert samplePending.msgHash ∅⟩).2, []⟩) _ := rfl
  refine ⟨_, _, _, _, hrun, hpass, ?_, Finset.mem_insert_self _ _,
    (transfers_accounted_and_confirmed sampleConfig hrun hpass).2.1⟩
  exact (mem_sent_processPending sampleConfig replies).mpr ⟨0, samplePending, rfl, rfl, rfl⟩

/-! ### One pending copy -/

/-- A Standard transfer that can be queued: its message decodes and its block is known. -/
def TransferInfo.isWaiting (cfg : OnflightConfig) (receipt : ReceiptReply) (info : TransferInfo) :
    Bool :=
  match info.option, decodeSocketMessage info.socketMessage,
    cfg.getTxBlockNumber info.srcChainId receipt with
  | .standard, .ok _, .ok (some _) => true
  | _, _, _ => false

/-- The hashes of the transfers of a snapshot that can be queued, up to an error of the iterator. -/
def waitingHashes (cfg : OnflightConfig) (receipt : ℕ → ReceiptReply) : ℕ → Snapshot → List B256
  | _, [] => []
  | _, .error _ :: _ => []
  | idx, .ok info :: rest =>
      if info.isWaiting cfg (receipt idx) then
        cfg.keccak256 info.socketMessage :: waitingHashes cfg receipt (idx + 1) rest
      else waitingHashes cfg receipt (idx + 1) rest

/-- The recovery pushes every transfer that can be queued. -/
lemma hashes_pushed_recover (cfg : OnflightConfig) (receipt : ℕ → ReceiptReply) (s : OnflightState)
    (idx : ℕ) (items : Snapshot) :
    hashes (recover cfg receipt s idx items).pushed = waitingHashes cfg receipt idx items := by
  induction items generalizing s idx with
  | nil => rfl
  | cons item rest ih =>
    rcases item with report | info
    · rfl
    · cases hopt : info.option with
      | fast => simp [recover, waitingHashes, TransferInfo.isWaiting, hopt, ih]
      | standard =>
        rcases hdec : decodeSocketMessage info.socketMessage with report | msg
        · simp [recover, waitingHashes, TransferInfo.isWaiting, hopt, hdec, ih]
        · rcases hblock : cfg.getTxBlockNumber info.srcChainId (receipt idx) with report | _ | block
          · simp [recover, waitingHashes, TransferInfo.isWaiting, hopt, hdec, hblock, ih]
          · simp [recover, waitingHashes, TransferInfo.isWaiting, hopt, hdec, hblock, ih]
          · have hrest := ih ⟨s.pending ++
              [info.pendingTransfer (cfg.keccak256 info.socketMessage) msg block],
              insert (cfg.keccak256 info.socketMessage) s.processed⟩ (idx + 1)
            simp [recover, waitingHashes, TransferInfo.isWaiting, hopt, hdec, hblock, ← hrest,
              TransferInfo.pendingTransfer]

/-- What the mark of a transfer guarantees during a scan: nothing marked is sent or pushed, and
nothing is sent or pushed twice. -/
structure Guarded (cfg : OnflightConfig) (receipt : ℕ → ReceiptReply) (s : OnflightState) (idx : ℕ)
    (items : Snapshot) (r : ScanResult) : Prop where
  nodup : (r.sent.map SendCall.msgHash ++ hashes r.pushed).Nodup
  unmarked : ∀ h ∈ r.sent.map SendCall.msgHash ++ hashes r.pushed, h ∉ s.processed
  waiting : ∀ h ∈ hashes r.pushed, h ∈ waitingHashes cfg receipt idx items

/-- The rest of a scan after an item that changes nothing. -/
lemma Guarded.skip {cfg : OnflightConfig} {receipt : ℕ → ReceiptReply} {s : OnflightState}
    {idx : ℕ} {info : TransferInfo} {rest : Snapshot} {r : ScanResult}
    (h : Guarded cfg receipt s (idx + 1) rest r) :
    Guarded cfg receipt s idx (.ok info :: rest) r := by
  refine ⟨h.nodup, h.unmarked, fun h' hh => ?_⟩
  have hrest := h.waiting h' hh
  unfold waitingHashes
  split
  · exact List.mem_cons_of_mem _ hrest
  · exact hrest

/-- The scan respects the marks. -/
lemma guarded_scan (cfg : OnflightConfig) (receipt : ℕ → ReceiptReply) (s : OnflightState) (idx : ℕ)
    (items : Snapshot) : Guarded cfg receipt s idx items (scan cfg receipt s idx items) := by
  induction items generalizing s idx with
  | nil => exact ⟨by simp [scan], by simp [scan], by simp [scan]⟩
  | cons item rest ih =>
    rcases item with report | info
    · exact ⟨by simp [scan], by simp [scan], by simp [scan]⟩
    · unfold scan
      by_cases hmark : cfg.keccak256 info.socketMessage ∈ s.processed
      · simp only [if_pos hmark]
        exact (ih s (idx + 1)).skip
      · simp only [if_neg hmark]
        split
        · exact (ih s (idx + 1)).skip
        · rename_i msg hdec
          split
          · -- the rest of the scan sees the new mark, so it cannot send the hash again
            have hrest : Guarded cfg receipt { s with
                processed := insert (cfg.keccak256 info.socketMessage) s.processed } idx
                (.ok info :: rest) _ := (ih _ (idx + 1)).skip
            refine ⟨?_, ?_, hrest.waiting⟩
            · rw [List.map_cons, List.cons_append, List.nodup_cons]
              refine ⟨fun hin => hrest.unmarked _ hin (Finset.mem_insert_self _ _), hrest.nodup⟩
            · intro h hh
              rw [List.map_cons, List.cons_append, List.mem_cons] at hh
              rcases hh with rfl | hh
              · exact hmark
              · exact fun hin => hrest.unmarked h hh (Finset.mem_insert_of_mem hin)
          · rename_i hopt
            split
            · rename_i block hblock
              have hrest := ih ⟨s.pending ++
                [info.pendingTransfer (cfg.keccak256 info.socketMessage) msg block],
                insert (cfg.keccak256 info.socketMessage) s.processed⟩ (idx + 1)
              have hself := Finset.mem_insert_self (cfg.keccak256 info.socketMessage) s.processed
              refine ⟨?_, ?_, ?_⟩
              · refine (List.perm_middle.nodup_iff).mpr (List.nodup_cons.mpr ⟨?_, hrest.nodup⟩)
                exact fun hin => hrest.unmarked _ hin hself
              · intro h hh
                rcases List.mem_cons.mp (List.perm_middle.mem_iff.mp hh) with rfl | hh
                · exact hmark
                · exact fun hin => hrest.unmarked h hh (Finset.mem_insert_of_mem hin)
              · intro h hh
                have hwait : info.isWaiting cfg (receipt idx) = true := by
                  simp [TransferInfo.isWaiting, hopt, hdec, hblock]
                simp only [waitingHashes, hwait, if_true]
                rcases List.mem_cons.mp hh with rfl | hh
                · exact List.mem_cons_self
                · exact List.mem_cons_of_mem _ (hrest.waiting h hh)
            · exact (ih s (idx + 1)).skip
            · exact (ih s (idx + 1)).skip

/-! ### The pass over distinct transfers -/

section DistinctPass

variable {cfg : OnflightConfig} {replies : PassReplies} {s : OnflightState}

/-- Equal hashes are at equal indices. -/
lemma index_unique_of_nodup (hnd : (hashes s.pending).Nodup) {i j : ℕ}
    {t u : PendingStandardTransfer} (hi : s.pending[i]? = some t) (hj : s.pending[j]? = some u)
    (hh : t.msgHash = u.msgHash) : i = j := by
  have hlt : i < (hashes s.pending).length := by
    rw [List.length_map]
    exact (List.getElem?_eq_some_iff.mp hi).1
  refine (List.getElem?_inj hlt hnd).mp ?_
  rw [List.getElem?_map, List.getElem?_map, hi, hj, Option.map_some, Option.map_some, hh]

/-- The hashes left by a pass are hashes from before, in order. -/
lemma hashes_pass_sublist :
    (hashes (passState cfg replies s).pending).Sublist (hashes s.pending) := by
  rw [pending_processPending]
  exact map_reduceOption_mapIdx_sublist s.pending fun i t t' h => msgHash_of_fate h

/-- The hashes sent by a pass are hashes from before, in order. -/
lemma sent_pass_sublist :
    ((processPendingStandardTransfers cfg replies s).2.map SendCall.msgHash).Sublist
      (hashes s.pending) := by
  rw [sent_processPending, List.map_map]
  have hsub : ((s.pending.zipIdx.filter
      fun p => decide (replies.verdictAt cfg p = .forward)).map Prod.fst).Sublist
      (s.pending.zipIdx.map Prod.fst) := List.filter_sublist.map _
  rw [List.zipIdx_map_fst] at hsub
  have hmap := hsub.map PendingStandardTransfer.msgHash
  rwa [List.map_map] at hmap

/-- A hash left by a pass has an entry that the pass kept. -/
lemma kept_of_mem_pass {h : B256} (hh : h ∈ hashes (passState cfg replies s).pending) :
    ∃ (i : ℕ) (t : PendingStandardTransfer), s.pending[i]? = some t ∧ t.msgHash = h ∧
      (t.fate cfg (replies.head i) (replies.receipt i)).isSome = true := by
  obtain ⟨t', ht', rfl⟩ := List.mem_map.mp hh
  rw [pending_processPending] at ht'
  obtain ⟨i, t, hget, hfate⟩ := mem_reduceOption_mapIdx.mp ht'
  exact ⟨i, t, hget, (msgHash_of_fate hfate).symm, by rw [hfate]; rfl⟩

/-- A pass does not both send and keep a hash. -/
lemma not_mem_pass_of_sent (hnd : (hashes s.pending).Nodup) {h : B256}
    (hs : h ∈ (processPendingStandardTransfers cfg replies s).2.map SendCall.msgHash) :
    h ∉ hashes (passState cfg replies s).pending := by
  intro hk
  obtain ⟨c, hc, hch⟩ := List.mem_map.mp hs
  obtain ⟨i, t, hget, hv, rfl⟩ := (mem_sent_processPending cfg replies).mp hc
  obtain ⟨j, u, hgetu, huh, hfate⟩ := kept_of_mem_pass hk
  obtain rfl : i = j := index_unique_of_nodup hnd hget hgetu (hch.trans huh.symm)
  obtain rfl : t = u := Option.some.inj (hget.symm.trans hgetu)
  simp [PendingStandardTransfer.fate, hv] at hfate

/-- A pass keeps the mark of a hash whose transfer did not vanish. -/
lemma marked_of_pass (hnd : (hashes s.pending).Nodup) {h : B256} (hm : h ∈ s.processed)
    (hs : h ∈ (processPendingStandardTransfers cfg replies s).2.map SendCall.msgHash ∨
      h ∈ hashes (passState cfg replies s).pending ∨ h ∉ hashes s.pending) :
    h ∈ (passState cfg replies s).processed := by
  refine (mem_processed_processPending cfg replies).mpr ⟨hm, ?_⟩
  rintro ⟨i, t, hget, hv, rfl⟩
  rcases hs with hs | hs | hs
  · obtain ⟨c, hc, hch⟩ := List.mem_map.mp hs
    obtain ⟨j, u, hgetu, hvu, rfl⟩ := (mem_sent_processPending cfg replies).mp hc
    obtain rfl : i = j := index_unique_of_nodup hnd hget hgetu hch.symm
    obtain rfl : t = u := Option.some.inj (hget.symm.trans hgetu)
    rw [hv] at hvu
    simp at hvu
  · obtain ⟨j, u, hgetu, huh, hfate⟩ := kept_of_mem_pass hs
    obtain rfl : i = j := index_unique_of_nodup hnd hget hgetu huh.symm
    obtain rfl : t = u := Option.some.inj (hget.symm.trans hgetu)
    simp [PendingStandardTransfer.fate, hv] at hfate
  · exact hs (List.mem_map_of_mem (List.mem_of_getElem? hget))

end DistinctPass

/-! ### Runs without a second copy -/

/-- The condition on a step under which it makes no second copy of a transfer.  A recovery finds its
transfers neither marked nor pending (so it does not run over the collections of an earlier call of
`run`), and a block finds a transfer that is still pending marked (so no cleanup took its mark). -/
def NoSecondCopy (cfg : OnflightConfig) (s : OnflightState)
    (a : OnflightInput × OnflightOutput) : Prop :=
  (∀ items receipt, a.1 = .run (.ok items) receipt →
    (waitingHashes cfg receipt 0 items).Nodup ∧
      ∀ h ∈ waitingHashes cfg receipt 0 items, h ∉ s.processed ∧ h ∉ hashes s.pending) ∧
  (∀ replies items receipt, a.1 = .block replies (.ok items) receipt →
    ∀ (i : ℕ) (t : PendingStandardTransfer), s.pending[i]? = some t →
      (t.fate cfg (replies.head i) (replies.receipt i)).isSome = true →
      t.msgHash ∈ waitingHashes cfg receipt 0 items → t.msgHash ∈ s.processed)

/-- The transfer is in every snapshot that a block of the trace brought. -/
def PresentThroughout (cfg : OnflightConfig) (h : B256) (tr : OnflightTrace) : Prop :=
  ∀ a ∈ tr, ∀ replies items receipt, a.1 = .block replies (.ok items) receipt →
    h ∈ currentStorageKeys cfg items

/-- The hashes sent along a trace. -/
def OnflightTrace.sentHashes (tr : OnflightTrace) : List B256 :=
  tr.flatMap fun a => a.2.sent.map SendCall.msgHash

/-- What a transfer that is present throughout can have gone through: it was not sent yet, or it was
sent once and is marked and not pending any more. -/
structure SingleCopy (cfg : OnflightConfig) (tr : OnflightTrace) (s : OnflightState) : Prop where
  nodup : (hashes s.pending).Nodup
  marked : ∀ h, PresentThroughout cfg h tr → h ∈ hashes s.pending → h ∈ s.processed
  sent : ∀ h, PresentThroughout cfg h tr → h ∈ tr.sentHashes →
    h ∈ s.processed ∧ h ∉ hashes s.pending
  once : ∀ h, PresentThroughout cfg h tr → tr.sentHashes.count h ≤ 1

lemma OnflightTrace.sentHashes_concat (tr : OnflightTrace) (a : OnflightInput × OnflightOutput) :
    OnflightTrace.sentHashes (tr ++ [a]) = tr.sentHashes ++ a.2.sent.map SendCall.msgHash := by
  simp [OnflightTrace.sentHashes]

lemma PresentThroughout.of_concat {cfg : OnflightConfig} {h : B256} {tr : OnflightTrace}
    {a : OnflightInput × OnflightOutput} (hp : PresentThroughout cfg h (tr ++ [a])) :
    PresentThroughout cfg h tr :=
  fun b hb => hp b (List.mem_append_left _ hb)

/-- A hash that the pass kept or sent was pending, hence marked, and keeps its mark. -/
lemma SingleCopy.marked_pass {cfg : OnflightConfig} {tr : OnflightTrace} {s : OnflightState}
    (h : SingleCopy cfg tr s) {replies : PassReplies} {h' : B256}
    (hp : PresentThroughout cfg h' tr)
    (hh : h' ∈ (processPendingStandardTransfers cfg replies s).2.map SendCall.msgHash ∨
      h' ∈ hashes (passState cfg replies s).pending) :
    h' ∈ (passState cfg replies s).processed := by
  have hpending : h' ∈ hashes s.pending := by
    rcases hh with hh | hh
    · exact sent_pass_sublist.subset hh
    · exact hashes_pass_sublist.subset hh
  refine marked_of_pass h.nodup (h.marked h' hp hpending) ?_
  rcases hh with hh | hh
  · exact .inl hh
  · exact .inr (.inl hh)

/-- A hash that was sent before keeps its mark in a pass. -/
lemma SingleCopy.marked_earlier {cfg : OnflightConfig} {tr : OnflightTrace} {s : OnflightState}
    (h : SingleCopy cfg tr s) {replies : PassReplies} {h' : B256}
    (hp : PresentThroughout cfg h' tr) (hh : h' ∈ tr.sentHashes) :
    h' ∈ (passState cfg replies s).processed ∧ h' ∉ hashes s.pending := by
  obtain ⟨hmark, hnot⟩ := h.sent h' hp hh
  exact ⟨marked_of_pass h.nodup hmark (.inr (.inr hnot)), hnot⟩

/-- Two lists that do not share an element hold it at most once together, if each of them does. -/
lemma count_append_le_one {α : Type*} [BEq α] [LawfulBEq α] {l₁ l₂ : List α} {a : α}
    (h₁ : l₁.count a ≤ 1) (h₂ : l₂.count a ≤ 1) (h : a ∈ l₁ → a ∉ l₂) :
    (l₁ ++ l₂).count a ≤ 1 := by
  rw [List.count_append]
  by_cases ha : a ∈ l₁
  · rw [List.count_eq_zero.mpr (h ha)]
    exact h₁
  · rw [List.count_eq_zero.mpr ha, Nat.zero_add]
    exact h₂

/-- A block keeps a single copy, if what it pushes is not pending and its cleanup keeps the marks of
the transfers that are present. -/
lemma SingleCopy.block {cfg : OnflightConfig} {tr : OnflightTrace} {s s' : OnflightState}
    (h : SingleCopy cfg tr s) {replies : PassReplies} {a : OnflightInput × OnflightOutput}
    {r : ScanResult} (hgrow : Growth (passState cfg replies s) r)
    (hpend : s'.pending = r.state.pending)
    (hsent : a.2.sent = (processPendingStandardTransfers cfg replies s).2 ++ r.sent)
    (hnodup : (r.sent.map SendCall.msgHash ++ hashes r.pushed).Nodup)
    (hunmarked : ∀ h ∈ r.sent.map SendCall.msgHash ++ hashes r.pushed,
      h ∉ (passState cfg replies s).processed)
    (hfresh : ∀ h ∈ hashes r.pushed, h ∉ hashes (passState cfg replies s).pending)
    (hkeep : ∀ h, PresentThroughout cfg h (tr ++ [a]) → h ∈ r.state.processed →
      h ∈ s'.processed) :
    SingleCopy cfg (tr ++ [a]) s' := by
  have hhashes : hashes s'.pending =
      hashes (passState cfg replies s).pending ++ hashes r.pushed := by
    rw [hpend, hgrow.pending, hashes, List.map_append]
  have hold : (passState cfg replies s).processed ⊆ r.state.processed :=
    fun h' hh => (hgrow.processed h').mpr (.inl hh)
  have hnew : ∀ h' ∈ r.sent.map SendCall.msgHash ++ hashes r.pushed, h' ∈ r.state.processed := by
    intro h' hh
    refine (hgrow.processed h').mpr (.inr ((hgrow.inserted h').mpr ?_))
    exact List.mem_append.mp hh
  refine ⟨?_, ?_, ?_, ?_⟩
  · rw [hhashes]
    refine List.nodup_append.mpr ⟨h.nodup.sublist hashes_pass_sublist,
      (List.nodup_append.mp hnodup).2.1, ?_⟩
    rintro h' hh h'' hh' rfl
    exact hfresh h' hh' hh
  · intro h' hp hh
    rw [hhashes, List.mem_append] at hh
    apply hkeep h' hp
    rcases hh with hh | hh
    · exact hold (h.marked_pass hp.of_concat (.inr hh))
    · exact hnew h' (List.mem_append_right _ hh)
  · intro h' hp hh
    rw [OnflightTrace.sentHashes_concat, hsent, List.map_append, List.mem_append,
      List.mem_append] at hh
    rw [hhashes, List.mem_append]
    rcases hh with hh | hh | hh
    · obtain ⟨hmark, hnot⟩ := h.marked_earlier hp.of_concat hh
      refine ⟨hkeep h' hp (hold hmark), ?_⟩
      rintro (hin | hin)
      · exact hnot (hashes_pass_sublist.subset hin)
      · exact hunmarked h' (List.mem_append_right _ hin) hmark
    · have hmark := h.marked_pass hp.of_concat (.inl hh)
      refine ⟨hkeep h' hp (hold hmark), ?_⟩
      rintro (hin | hin)
      · exact not_mem_pass_of_sent h.nodup hh hin
      · exact hunmarked h' (List.mem_append_right _ hin) hmark
    · refine ⟨hkeep h' hp (hnew h' (List.mem_append_left _ hh)), ?_⟩
      rintro (hin | hin)
      · exact hunmarked h' (List.mem_append_left _ hh) (h.marked_pass hp.of_concat (.inr hin))
      · exact (List.nodup_append.mp hnodup).2.2 h' hh h' hin rfl
  · intro h' hp
    rw [OnflightTrace.sentHashes_concat, hsent, List.map_append]
    have hpass :
        ((processPendingStandardTransfers cfg replies s).2.map SendCall.msgHash).count h' ≤ 1 :=
      List.nodup_iff_count_le_one.mp (h.nodup.sublist sent_pass_sublist) h'
    have hscan := List.nodup_iff_count_le_one.mp (List.nodup_append.mp hnodup).1 h'
    -- a hash sent before or by the pass is marked when the scan starts
    apply count_append_le_one (h.once h' hp.of_concat)
    · apply count_append_le_one hpass hscan
      intro hin hin'
      exact hunmarked h' (List.mem_append_left _ hin') (h.marked_pass hp.of_concat (.inl hin))
    · intro hin hin'
      obtain ⟨hmark, hnot⟩ : h' ∈ (passState cfg replies s).processed ∧ h' ∉ hashes s.pending :=
        h.marked_earlier hp.of_concat hin
      rcases List.mem_append.mp hin' with hin' | hin'
      · exact hnot (sent_pass_sublist.subset hin')
      · exact hunmarked h' (List.mem_append_left _ hin') hmark

/-- A recovery over transfers that are neither marked nor pending keeps a single copy. -/
lemma SingleCopy.recover {cfg : OnflightConfig} {tr : OnflightTrace} {s : OnflightState}
    (h : SingleCopy cfg tr s) {items : Snapshot} {receipt : ℕ → ReceiptReply}
    {a : OnflightInput × OnflightOutput} (hsent : a.2.sent = [])
    (hnodup : (waitingHashes cfg receipt 0 items).Nodup)
    (hfresh : ∀ h ∈ waitingHashes cfg receipt 0 items, h ∉ s.processed ∧ h ∉ hashes s.pending) :
    SingleCopy cfg (tr ++ [a]) (Onflight.recover cfg receipt s 0 items).state := by
  have hgrow := (growth_recover cfg receipt s 0 items).1
  have hpushed := hashes_pushed_recover cfg receipt s 0 items
  have hhashes : hashes (Onflight.recover cfg receipt s 0 items).state.pending =
      hashes s.pending ++ waitingHashes cfg receipt 0 items := by
    rw [hgrow.pending, hashes, List.map_append, ← hpushed]
  have htrace : OnflightTrace.sentHashes (tr ++ [a]) = tr.sentHashes := by
    rw [OnflightTrace.sentHashes_concat, hsent]
    simp
  refine ⟨?_, ?_, ?_, ?_⟩
  · rw [hhashes]
    refine List.nodup_append.mpr ⟨h.nodup, hnodup, ?_⟩
    rintro h' hh h'' hh' rfl
    exact (hfresh h' hh').2 hh
  · intro h' hp hh
    rw [hhashes, List.mem_append] at hh
    rcases hh with hh | hh
    · exact (hgrow.processed h').mpr (.inl (h.marked h' hp.of_concat hh))
    · refine (hgrow.processed h').mpr (.inr ((hgrow.inserted h').mpr (.inr ?_)))
      rwa [← hpushed] at hh
  · intro h' hp hh
    rw [htrace] at hh
    obtain ⟨hmark, hnot⟩ := h.sent h' hp.of_concat hh
    refine ⟨(hgrow.processed h').mpr (.inl hmark), ?_⟩
    rw [hhashes, List.mem_append]
    rintro (hin | hin)
    · exact hnot hin
    · exact (hfresh h' hin).1 hmark
  · intro h' hp
    rw [htrace]
    exact h.once h' hp.of_concat

/-- The cleanup keeps the marks of the transfers in the snapshot. -/
lemma mem_processed_block {cfg : OnflightConfig} {replies : PassReplies} {items : Snapshot}
    {receipt : ℕ → ReceiptReply} {s : OnflightState} {h : B256}
    (hkey : h ∈ currentStorageKeys cfg items)
    (hr : h ∈ (scan cfg receipt (passState cfg replies s) 0 items).state.processed) :
    h ∈ (processSubstrateBlock cfg replies (.ok items) receipt s).state.processed := by
  simp only [processSubstrateBlock]
  split
  · exact Finset.mem_filter.mpr ⟨hr, hkey⟩
  · exact hr

/-- In every run whose steps make no second copy, the pending transfers are pairwise different, and
a transfer that is in every snapshot is sent at most once. -/
theorem pending_single_copy (cfg : OnflightConfig) {tr : OnflightTrace} {s : OnflightState}
    (hrun : ((onflightSystem cfg).restrict (NoSecondCopy cfg)).Run tr s) :
    (hashes s.pending).Nodup ∧
      ∀ h, PresentThroughout cfg h tr → tr.sentHashes.count h ≤ 1 := by
  have hinv : SingleCopy cfg tr s := by
    refine hrun.induction (P := SingleCopy cfg) ?_ ?_
    · rintro s rfl
      exact ⟨by simp, by simp, by simp [OnflightTrace.sentHashes],
        by simp [OnflightTrace.sentHashes]⟩
    · rintro tr s ⟨i, o⟩ s' - ih ⟨hstep, hrecover, hblock⟩
      obtain ⟨rfl, rfl⟩ : (onflightHandle cfg s i).1 = s' ∧ (onflightHandle cfg s i).2 = o :=
        Prod.mk.inj hstep
      rcases i with ⟨report | items, receipt⟩ | ⟨replies, report | items, receipt⟩
      · -- a failed recovery changes nothing
        have htrace : OnflightTrace.sentHashes (tr ++ [(.run (.error report) receipt,
            (onflightHandle cfg s (.run (.error report) receipt)).2)]) =
            OnflightTrace.sentHashes tr := by
          rw [OnflightTrace.sentHashes_concat]
          simp [onflightHandle, recoverPendingStandardTransfers]
        exact ⟨ih.nodup, fun h hp => ih.marked h hp.of_concat,
          fun h hp hh => ih.sent h hp.of_concat (htrace ▸ hh),
          fun h hp => htrace ▸ ih.once h hp.of_concat⟩
      · obtain ⟨hnodup, hfresh⟩ := hrecover items receipt rfl
        exact ih.recover (growth_recover cfg receipt s 0 items).2 hnodup hfresh
      · exact ih.block (Growth.refl _ false) rfl (by simp [onflightHandle, processSubstrateBlock])
          (by simp) (by simp) (by simp) fun h _ hh => hh
      · have hguard := guarded_scan cfg receipt (passState cfg replies s) 0 items
        refine ih.block (growth_scan cfg receipt _ 0 items) ?_ rfl hguard.nodup hguard.unmarked
          ?_ ?_
        · simp only [onflightHandle, processSubstrateBlock]
          split <;> rfl
        · intro h hpush hkept
          obtain ⟨j, t, hget, rfl, hfate⟩ := kept_of_mem_pass hkept
          have hmark := hblock replies items receipt rfl j t hget hfate (hguard.waiting _ hpush)
          exact hguard.unmarked _ (List.mem_append_right _ hpush)
            (marked_of_pass ih.nodup hmark (.inr (.inl hkept)))
        · intro h hp hh
          have hkey := hp _ (List.mem_append_right _ List.mem_cons_self) replies items receipt rfl
          exact mem_processed_block hkey hh
  exact ⟨hinv.nodup, hinv.once⟩

/-- Another transfer, which was mined in block 101. -/
def laterTransfer : TransferInfo :=
  ⟨(sampleRequest 1 8).toVec, 1, SolidityAbi.FixedBytes.repeatByte 32 2, .standard⟩

/-- The entry pushed for it. -/
def laterPending : PendingStandardTransfer :=
  laterTransfer.pendingTransfer (sampleConfig.keccak256 laterTransfer.socketMessage)
    (sampleRequest 1 8) 101

/-- The storage with both transfers. -/
def bothTransfers : Snapshot := [.ok sampleTransfer, .ok laterTransfer]

/-- Their receipts. -/
def bothReceipts (idx : ℕ) : ReceiptReply := .ok (some (some (100 + idx)))

/-- Both transfers are marked. -/
def bothMarks : Finset B256 := insert laterPending.msgHash (insert samplePending.msgHash ∅)

lemma mem_bothMarks {h : B256} :
    h ∈ bothMarks ↔ h = samplePending.msgHash ∨ h = laterPending.msgHash := by
  simp [bothMarks, or_comm]

lemma msgHash_ne : samplePending.msgHash ≠ laterPending.msgHash := by
  decide +kernel

/-- The recovery pushes both. -/
lemma onflightHandle_bothTransfers :
    onflightHandle sampleConfig ⟨[], ∅⟩ (.run (.ok bothTransfers) bothReceipts) =
      (⟨[samplePending, laterPending], bothMarks⟩,
        ⟨[], [samplePending.msgHash, laterPending.msgHash]⟩) := by
  have hdec : decodeSocketMessage sampleTransfer.socketMessage = .ok (sampleRequest 1 7) :=
    decodeSocketMessage_toVec _
  have hdec' : decodeSocketMessage laterTransfer.socketMessage = .ok (sampleRequest 1 8) :=
    decodeSocketMessage_toVec _
  have hblock : sampleConfig.getTxBlockNumber sampleTransfer.srcChainId (bothReceipts 0) =
      .ok (some 100) := rfl
  have hblock' : sampleConfig.getTxBlockNumber laterTransfer.srcChainId (bothReceipts (0 + 1)) =
      .ok (some 101) := rfl
  have hopt : sampleTransfer.option = .standard := rfl
  have hopt' : laterTransfer.option = .standard := rfl
  simp only [onflightHandle, recoverPendingStandardTransfers, bothTransfers, recover, hdec, hdec',
    hblock, hblock', hopt, hopt']
  rfl

/-- At head 102 the first transfer is confirmed and sent, and the other one waits; nothing of the
storage is queued again. -/
lemma onflightHandle_bothPending :
    onflightHandle sampleConfig ⟨[samplePending, laterPending], bothMarks⟩
        (.block ⟨fun _ => .ok 102, bothReceipts⟩ (.ok bothTransfers) bothReceipts) =
      (⟨[laterPending], bothMarks⟩, ⟨[samplePending.sendCall], []⟩) := by
  have hpass : processPendingStandardTransfers sampleConfig ⟨fun _ => .ok 102, bothReceipts⟩
      ⟨[samplePending, laterPending], bothMarks⟩ =
        (⟨[laterPending], bothMarks⟩, [samplePending.sendCall]) := rfl
  have hfirst : sampleConfig.keccak256 sampleTransfer.socketMessage ∈ bothMarks :=
    mem_bothMarks.mpr (.inl rfl)
  have hlater : sampleConfig.keccak256 laterTransfer.socketMessage ∈ bothMarks :=
    mem_bothMarks.mpr (.inr rfl)
  have hscan : scan sampleConfig bothReceipts ⟨[laterPending], bothMarks⟩ 0 bothTransfers =
      ⟨⟨[laterPending], bothMarks⟩, [], [], [], true⟩ := by
    simp only [bothTransfers, scan, if_pos hfirst, if_pos hlater]
  have hkeys : currentStorageKeys sampleConfig bothTransfers =
      [samplePending.msgHash, laterPending.msgHash] := rfl
  have hkept : ∀ h ∈ bothMarks, h ∈ currentStorageKeys sampleConfig bothTransfers := by
    intro h hh
    rw [hkeys]
    simpa using mem_bothMarks.mp hh
  simp only [onflightHandle, processSubstrateBlock, hpass, hscan, if_true, List.append_nil,
    Finset.filter_true_of_mem hkept]

/-- A first start finds two transfers and makes no second copy of them, nor does the block that sends
one of them. -/
theorem pending_single_copy_first_start :
    ∃ tr s, ((onflightSystem sampleConfig).restrict (NoSecondCopy sampleConfig)).Run tr s ∧
      s.pending = [laterPending] ∧
      OnflightTrace.sentHashes tr = [samplePending.msgHash] ∧ (hashes s.pending).Nodup ∧
      (OnflightTrace.sentHashes tr).count samplePending.msgHash ≤ 1 := by
  have hwaiting : waitingHashes sampleConfig bothReceipts 0 bothTransfers =
      [samplePending.msgHash, laterPending.msgHash] := by
    decide +kernel
  have hfirst : ((onflightSystem sampleConfig).restrict (NoSecondCopy sampleConfig)).step ⟨[], ∅⟩
      (.run (.ok bothTransfers) bothReceipts,
        ⟨[], [samplePending.msgHash, laterPending.msgHash]⟩)
      ⟨[samplePending, laterPending], bothMarks⟩ := by
    refine ⟨onflightHandle_bothTransfers, ?_, ?_⟩
    · intro items receipt hi
      obtain ⟨rfl, rfl⟩ : bothTransfers = items ∧ bothReceipts = receipt := by simpa using hi
      rw [hwaiting]
      exact ⟨by simp [msgHash_ne], by simp [hashes]⟩
    · intro replies items receipt hi
      cases hi
  have hblock : ((onflightSystem sampleConfig).restrict (NoSecondCopy sampleConfig)).step
      ⟨[samplePending, laterPending], bothMarks⟩
      (.block ⟨fun _ => .ok 102, bothReceipts⟩ (.ok bothTransfers) bothReceipts,
        ⟨[samplePending.sendCall], []⟩)
      ⟨[laterPending], bothMarks⟩ := by
    refine ⟨onflightHandle_bothPending, ?_, ?_⟩
    · intro items receipt hi
      cases hi
    · intro replies items receipt _ i t hget _ _
      have hmem := List.mem_of_getElem? hget
      simp only [List.mem_cons, List.not_mem_nil, or_false] at hmem
      exact mem_bothMarks.mpr (hmem.imp (congrArg _) (congrArg _))
  have hrun := (LabelledSystem.Run.start rfl).snoc hfirst |>.snoc hblock
  have hsafe := pending_single_copy sampleConfig hrun
  refine ⟨_, _, hrun, rfl, rfl, hsafe.1, hsafe.2 _ ?_⟩
  intro a ha replies items receipt hi
  simp only [List.nil_append, List.cons_append, List.mem_cons, List.not_mem_nil, or_false] at ha
  rcases ha with rfl | rfl
  · cases hi
  · cases hi
    decide +kernel

/-- `run` is called, returns and is called again while the transfer is pending. -/
theorem pending_copies_after_restart :
    ∃ tr s, (onflightSystem sampleConfig).Run tr s ∧ ¬ (hashes s.pending).Nodup := by
  have hfirst : (onflightSystem sampleConfig).step ⟨[], ∅⟩
      (sampleStart, ⟨[], [samplePending.msgHash]⟩)
      ⟨[samplePending], insert samplePending.msgHash ∅⟩ := onflightHandle_sampleStart _
  have hsecond : (onflightSystem sampleConfig).step
      ⟨[samplePending], insert samplePending.msgHash ∅⟩
      (sampleStart, ⟨[], [samplePending.msgHash]⟩)
      ⟨[samplePending, samplePending],
        insert samplePending.msgHash (insert samplePending.msgHash ∅)⟩ :=
    onflightHandle_sampleStart _
  exact ⟨_, _, .snoc (.snoc (.start rfl) hfirst) hsecond, by simp [hashes]⟩

end Onflight

end BifrostRelayer
