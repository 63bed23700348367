import BifrostRelayer.Foundation.IndexEdits
import BifrostRelayer.Primitives.Socket

/-!
# The confirmation queue of the socket relay handler

`SocketRelayHandler` keeps the socket logs it received in `pending_events` until they have enough
confirmations.  `process_confirmed_pending_events` takes a snapshot, asks for every confirmed entry
where its transaction is mined now (`verify_event_on_chain`), hands the unchanged ones to
`process_confirmed_log`, and afterwards applies three lists of indices to the live vector: new
heights, bumped absence counters, removals.

`checkPending` follows the source.  `PendingEvent.fate` says what one check means for one entry,
and `checkPending_eq` shows that the index lists implement exactly that.

The log type is a parameter: the check only passes logs on.
-/

namespace BifrostRelayer

namespace SocketRelay

/-- `MAX_ABSENT_CHECKS`. -/
def maxAbsentChecks : ℕ := 5

/-- A pending event waiting for block confirmations. -/
structure PendingEvent (L : Type) where
  /-- The log event. -/
  log : L
  /-- The block number when this event was received, or the height it was re-mined at. -/
  blockNumber : ℕ
  /-- Consecutive verification attempts that did not find the event on-chain. -/
  absentChecks : ℕ
deriving DecidableEq

/-- The reply of `verify_event_on_chain`: an error, not found, or the block it is mined in. -/
abbrev VerifyReply : Type := Except Report (Option ℕ)

/-- `u32::saturating_add(1)`. -/
def saturatingSucc (n : ℕ) : ℕ := min (n + 1) (2 ^ 32 - 1)

variable {L : Type}

/-! ### One check, as the source computes it -/

/-- An entry with enough confirmations at the head `latest`. -/
def PendingEvent.isConfirmed (conf latest : ℕ) (e : PendingEvent L) : Bool :=
  decide (latest - e.blockNumber ≥ conf)

/-- The indices of the confirmed entries. -/
def confirmedIndices (conf latest : ℕ) (pending : List (PendingEvent L)) : List ℕ :=
  (pending.zipIdx.filter fun p => p.1.isConfirmed conf latest).map Prod.snd

/-- The confirmed entries with their indices. -/
def eventsToCheck (conf latest : ℕ) (pending : List (PendingEvent L)) :
    List (ℕ × PendingEvent L) :=
  (confirmedIndices conf latest pending).filterMap fun idx => pending[idx]?.map fun e => (idx, e)

/-- What the loop over the confirmed entries records. -/
structure CheckNotes (L : Type) where
  indicesToRemove : List ℕ
  blockUpdates : List (ℕ × ℕ)
  absentBumps : List ℕ
  /-- The entries whose logs were handed to `process_confirmed_log`, in order. -/
  handed : List (PendingEvent L)

/-- One turn of the loop: the entry `event` at index `idx` got the reply `reply`.  A failure of
`process_confirmed_log` is only logged.  It panics on a log that does not decode or has a status that
it does not know, which ends the task in the middle of the check. -/
def checkOne (notes : CheckNotes L) (idx : ℕ) (event : PendingEvent L) (reply : VerifyReply) :
    CheckNotes L :=
  match reply with
  | .ok (some currentBlock) =>
      if currentBlock = event.blockNumber then
        { notes with
          indicesToRemove := notes.indicesToRemove ++ [idx]
          handed := notes.handed ++ [event] }
      else { notes with blockUpdates := notes.blockUpdates ++ [(idx, currentBlock)] }
  | .ok none =>
      if saturatingSucc event.absentChecks ≥ maxAbsentChecks then
        { notes with indicesToRemove := notes.indicesToRemove ++ [idx] }
      else { notes with absentBumps := notes.absentBumps ++ [idx] }
  | .error _ => notes

/-- The update of a re-mined entry: seen again, so the counter is reset. -/
def PendingEvent.remine (newBlock : ℕ) (e : PendingEvent L) : PendingEvent L :=
  { e with blockNumber := newBlock, absentChecks := 0 }

/-- The update of an absent entry. -/
def PendingEvent.bump (e : PendingEvent L) : PendingEvent L :=
  { e with absentChecks := saturatingSucc e.absentChecks }

/-- Apply what the loop recorded: updates, then bumps, then removals in descending order. -/
def applyNotes (pending : List (PendingEvent L)) (notes : CheckNotes L) : List (PendingEvent L) :=
  let updated := modifyAll pending (notes.blockUpdates.map fun u => (u.1, PendingEvent.remine u.2))
  let bumped := modifyAll updated (notes.absentBumps.map fun idx => (idx, PendingEvent.bump))
  eraseAll bumped (notes.indicesToRemove.mergeSort fun a b => decide (b ≤ a))

/-- What one check did. -/
structure CheckResult (L : Type) where
  pending : List (PendingEvent L)
  /-- The calls of `verify_event_on_chain`, in order, with their replies. -/
  verified : List (PendingEvent L × VerifyReply)
  /-- The entries handed to `process_confirmed_log`, in order. -/
  handed : List (PendingEvent L)

/-- `process_confirmed_pending_events`.  `latest` is the reply of `get_block_number`; `reply idx` is
the reply of `verify_event_on_chain` for the entry at index `idx`. -/
def checkPending (conf : ℕ) (latest : Except Report ℕ) (reply : ℕ → VerifyReply)
    (pending : List (PendingEvent L)) : CheckResult L :=
  match latest with
  | .error _ => ⟨pending, [], []⟩
  | .ok latestBlock =>
      if (confirmedIndices conf latestBlock pending).isEmpty then ⟨pending, [], []⟩
      else
        let checks := eventsToCheck conf latestBlock pending
        let notes :=
          checks.foldl (fun notes c => checkOne notes c.1 c.2 (reply c.1)) ⟨[], [], [], []⟩
        ⟨applyNotes pending notes, checks.map fun c => (c.2, reply c.1), notes.handed⟩

/-! ### One check, entry by entry -/

/-- What one check makes of one entry: `none` if it leaves the list. -/
def PendingEvent.fate (conf latest : ℕ) (reply : VerifyReply) (e : PendingEvent L) :
    Option (PendingEvent L) :=
  if e.isConfirmed conf latest then
    match reply with
    | .ok (some currentBlock) =>
        if currentBlock = e.blockNumber then none else some (e.remine currentBlock)
    | .ok none => if saturatingSucc e.absentChecks ≥ maxAbsentChecks then none else some e.bump
    | .error _ => some e
  else some e

/-! ### The snapshot -/

/-- The entries to check are the confirmed entries of the snapshot, in order. -/
lemma eventsToCheck_eq (conf latest : ℕ) (pending : List (PendingEvent L)) :
    eventsToCheck conf latest pending =
      (pending.zipIdx.filter fun p => p.1.isConfirmed conf latest).map Prod.swap := by
  unfold eventsToCheck confirmedIndices
  rw [List.filterMap_map, ← List.filterMap_eq_map]
  apply List.filterMap_congr
  rintro ⟨e, i⟩ hp
  have hget : pending[i]? = some e :=
    List.mk_mem_zipIdx_iff_getElem?.mp (List.mem_of_mem_filter hp)
  simp [hget]

/-- An index is to be checked exactly if its entry is confirmed. -/
lemma mem_eventsToCheck {conf latest : ℕ} {pending : List (PendingEvent L)} {i : ℕ}
    {e : PendingEvent L} :
    (i, e) ∈ eventsToCheck conf latest pending ↔
      pending[i]? = some e ∧ e.isConfirmed conf latest = true := by
  rw [eventsToCheck_eq]
  constructor
  · intro h
    obtain ⟨⟨e', i'⟩, hp, heq⟩ := List.mem_map.mp h
    obtain ⟨rfl, rfl⟩ : i' = i ∧ e' = e := by simpa using heq
    rw [List.mem_filter, List.mk_mem_zipIdx_iff_getElem?] at hp
    exact hp
  · rintro ⟨hget, hconf⟩
    refine List.mem_map.mpr ⟨(e, i), ?_, rfl⟩
    rw [List.mem_filter, List.mk_mem_zipIdx_iff_getElem?]
    exact ⟨hget, hconf⟩

/-- No index is checked twice. -/
lemma nodup_eventsToCheck (conf latest : ℕ) (pending : List (PendingEvent L)) :
    ((eventsToCheck conf latest pending).map Prod.fst).Nodup := by
  rw [eventsToCheck_eq, List.map_map]
  have hsub : ((pending.zipIdx.filter fun p => p.1.isConfirmed conf latest).map Prod.snd).Sublist
      (pending.zipIdx.map Prod.snd) := List.Sublist.map _ List.filter_sublist
  refine hsub.nodup ?_
  rw [List.zipIdx_map_snd]
  exact List.nodup_range'

/-! ### What the loop records -/

/-- The replies after which an entry leaves the list. -/
def PendingEvent.leaves (reply : VerifyReply) (e : PendingEvent L) : Bool :=
  match reply with
  | .ok (some currentBlock) => decide (currentBlock = e.blockNumber)
  | .ok none => decide (saturatingSucc e.absentChecks ≥ maxAbsentChecks)
  | .error _ => false

/-- The new height of an entry that was re-mined elsewhere. -/
def PendingEvent.newHeight (reply : VerifyReply) (e : PendingEvent L) : Option ℕ :=
  match reply with
  | .ok (some currentBlock) => if currentBlock = e.blockNumber then none else some currentBlock
  | _ => none

/-- The replies that only bump the counter of an entry. -/
def PendingEvent.isBumped (reply : VerifyReply) (e : PendingEvent L) : Bool :=
  match reply with
  | .ok none => decide (saturatingSucc e.absentChecks < maxAbsentChecks)
  | _ => false

/-- The three index lists and the list of handovers after the loop over `cs`. -/
lemma foldl_checkOne (reply : ℕ → VerifyReply) (cs : List (ℕ × PendingEvent L))
    (notes : CheckNotes L) :
    cs.foldl (fun notes c => checkOne notes c.1 c.2 (reply c.1)) notes =
      { indicesToRemove := notes.indicesToRemove ++
          (cs.filter fun c => c.2.leaves (reply c.1)).map Prod.fst
        blockUpdates := notes.blockUpdates ++
          cs.filterMap fun c => (c.2.newHeight (reply c.1)).map fun b => (c.1, b)
        absentBumps := notes.absentBumps ++
          (cs.filter fun c => c.2.isBumped (reply c.1)).map Prod.fst
        handed := notes.handed ++
          (cs.filter fun c => decide (reply c.1 = .ok (some c.2.blockNumber))).map Prod.snd } := by
  induction cs generalizing notes with
  | nil => simp
  | cons c cs ih =>
    obtain ⟨i, e⟩ := c
    rw [List.foldl_cons, ih]
    -- one case per arm of the source's `match`
    rcases hr : reply i with report | _ | b
    · simp [checkOne, hr, PendingEvent.leaves, PendingEvent.newHeight, PendingEvent.isBumped]
    · by_cases hmax : saturatingSucc e.absentChecks ≥ maxAbsentChecks
      · simp [checkOne, hr, hmax, PendingEvent.leaves, PendingEvent.newHeight,
          PendingEvent.isBumped]
      · simp [checkOne, hr, hmax, PendingEvent.leaves, PendingEvent.newHeight,
          PendingEvent.isBumped, Nat.lt_of_not_ge hmax]
    · by_cases hb : b = e.blockNumber
      · simp [checkOne, hr, hb, PendingEvent.leaves, PendingEvent.newHeight,
          PendingEvent.isBumped]
      · simp [checkOne, hr, hb, PendingEvent.leaves, PendingEvent.newHeight,
          PendingEvent.isBumped]

/-! ### Applying the lists -/

/-- The in-place updates that the loop over `cs` records. -/
def loopUpdates (reply : ℕ → VerifyReply) (cs : List (ℕ × PendingEvent L)) :
    List (ℕ × (PendingEvent L → PendingEvent L)) :=
  (cs.filterMap fun c => (c.2.newHeight (reply c.1)).map fun b => (c.1, PendingEvent.remine b)) ++
    (cs.filter fun c => c.2.isBumped (reply c.1)).map fun c => (c.1, PendingEvent.bump)

/-- An index is updated only if its entry was checked, and in one of two ways. -/
lemma mem_loopUpdates {reply : ℕ → VerifyReply} {cs : List (ℕ × PendingEvent L)} {i : ℕ}
    {f : PendingEvent L → PendingEvent L} :
    (i, f) ∈ loopUpdates reply cs ↔ ∃ e, (i, e) ∈ cs ∧
      ((∃ b, e.newHeight (reply i) = some b ∧ f = PendingEvent.remine b) ∨
        (e.isBumped (reply i) = true ∧ f = PendingEvent.bump)) := by
  unfold loopUpdates
  rw [List.mem_append, List.mem_filterMap, List.mem_map]
  constructor
  · rintro (⟨⟨j, e⟩, hc, h⟩ | ⟨⟨j, e⟩, hc, h⟩)
    · obtain ⟨b, hb, heq⟩ := Option.map_eq_some_iff.mp h
      obtain ⟨rfl, rfl⟩ : j = i ∧ PendingEvent.remine b = f := by simpa using heq
      exact ⟨e, hc, .inl ⟨b, hb, rfl⟩⟩
    · obtain ⟨rfl, rfl⟩ : j = i ∧ PendingEvent.bump = f := by simpa using h
      exact ⟨e, (List.mem_filter.mp hc).1, .inr ⟨(List.mem_filter.mp hc).2, rfl⟩⟩
  · rintro ⟨e, hc, ⟨b, hb, rfl⟩ | ⟨hb, rfl⟩⟩
    · exact .inl ⟨(i, e), hc, by simp [hb]⟩
    · exact .inr ⟨(i, e), List.mem_filter.mpr ⟨hc, hb⟩, rfl⟩

/-- A reply never moves an entry and bumps it. -/
lemma PendingEvent.isBumped_eq_false_of_newHeight {reply : VerifyReply} {e : PendingEvent L}
    {b : ℕ} (h : e.newHeight reply = some b) : e.isBumped reply = false := by
  rcases reply with report | _ | c
  · rfl
  · simp [PendingEvent.newHeight] at h
  · rfl

/-- No index is updated twice. -/
lemma nodup_loopUpdates (conf latest : ℕ) (reply : ℕ → VerifyReply)
    (pending : List (PendingEvent L)) :
    ((loopUpdates reply (eventsToCheck conf latest pending)).map Prod.fst).Nodup := by
  have hcs := nodup_eventsToCheck conf latest pending
  have hmoved : ∀ (c : ℕ × PendingEvent L) (u : ℕ × (PendingEvent L → PendingEvent L)),
      ((c.2.newHeight (reply c.1)).map fun b => (c.1, PendingEvent.remine b)) = some u →
        u.1 = c.1 := by
    intro c u h
    obtain ⟨b, -, rfl⟩ := Option.map_eq_some_iff.mp h
    rfl
  unfold loopUpdates
  rw [List.map_append, List.map_map]
  refine List.nodup_append.mpr ⟨hcs.sublist (map_filterMap_sublist hmoved _),
    hcs.sublist (List.filter_sublist.map _), ?_⟩
  -- an index on both lists would have been checked with two different outcomes
  rintro i hi j hj rfl
  obtain ⟨⟨i, f⟩, hf, rfl⟩ := List.mem_map.mp hi
  obtain ⟨⟨k, e⟩, he, hk⟩ := List.mem_map.mp hj
  obtain rfl : k = i := hk
  obtain ⟨⟨m, e'⟩, hm, h⟩ := List.mem_filterMap.mp hf
  obtain ⟨b, hb, heq⟩ := Option.map_eq_some_iff.mp h
  obtain rfl : m = k := congrArg Prod.fst heq
  have hget := (mem_eventsToCheck.mp (List.mem_filter.mp he).1).1
  have hget' := (mem_eventsToCheck.mp hm).1
  obtain rfl : e' = e := Option.some.inj (hget'.symm.trans hget)
  have hbump := (List.mem_filter.mp he).2
  rw [PendingEvent.isBumped_eq_false_of_newHeight hb] at hbump
  exact Bool.false_ne_true hbump

/-- A confirmed entry whose reply makes it leave is dropped. -/
lemma PendingEvent.fate_of_leaves {conf latest : ℕ} {reply : VerifyReply} {e : PendingEvent L}
    (hconf : e.isConfirmed conf latest = true) (h : e.leaves reply = true) :
    e.fate conf latest reply = none := by
  rcases reply with report | _ | b
  · simp [PendingEvent.leaves] at h
  · have hmax : saturatingSucc e.absentChecks ≥ maxAbsentChecks := by
      simpa [PendingEvent.leaves] using h
    simp [PendingEvent.fate, hconf, hmax]
  · have hb : b = e.blockNumber := by simpa [PendingEvent.leaves] using h
    simp [PendingEvent.fate, hconf, hb]

/-- A confirmed entry whose reply lets it stay receives the update that the loop recorded. -/
lemma fate_eq_updateAt {conf latest : ℕ} {reply : ℕ → VerifyReply} {pending : List (PendingEvent L)}
    {i : ℕ} {e : PendingEvent L} (hmem : (i, e) ∈ eventsToCheck conf latest pending)
    (hstays : e.leaves (reply i) = false) :
    e.fate conf latest (reply i) =
      some (updateAt (loopUpdates reply (eventsToCheck conf latest pending)) i e) := by
  have hus := nodup_loopUpdates conf latest reply pending
  obtain ⟨hget, hconf⟩ := mem_eventsToCheck.mp hmem
  rcases hr : reply i with report | _ | b
  · have hnot : i ∉ (loopUpdates reply (eventsToCheck conf latest pending)).map Prod.fst := by
      intro hi
      obtain ⟨⟨j, f⟩, hf, rfl⟩ := List.mem_map.mp hi
      obtain ⟨e', -, ⟨b, hb, -⟩ | ⟨hb, -⟩⟩ := mem_loopUpdates.mp hf
      · simp [hr, PendingEvent.newHeight] at hb
      · simp [hr, PendingEvent.isBumped] at hb
    rw [updateAt_of_notMem hnot]
    simp [PendingEvent.fate, hconf]
  · have hlt : saturatingSucc e.absentChecks < maxAbsentChecks := by
      simpa [PendingEvent.leaves, hr] using hstays
    have hup : (i, PendingEvent.bump) ∈ loopUpdates reply (eventsToCheck conf latest pending) :=
      mem_loopUpdates.mpr ⟨e, hmem, .inr ⟨by simp [hr, PendingEvent.isBumped, hlt], rfl⟩⟩
    rw [updateAt_of_mem hus hup]
    simp [PendingEvent.fate, hconf, Nat.not_le.mpr hlt]
  · have hne : b ≠ e.blockNumber := by simpa [PendingEvent.leaves, hr] using hstays
    have hup : (i, PendingEvent.remine b) ∈ loopUpdates reply (eventsToCheck conf latest pending) :=
      mem_loopUpdates.mpr ⟨e, hmem, .inl ⟨b, by simp [hr, PendingEvent.newHeight, hne], rfl⟩⟩
    rw [updateAt_of_mem hus hup]
    simp [PendingEvent.fate, hconf, hne]

/-- Applying what the loop recorded decides about every entry by its own reply. -/
lemma eraseAll_loopUpdates (conf latest : ℕ) (reply : ℕ → VerifyReply)
    (pending : List (PendingEvent L)) :
    let cs := eventsToCheck conf latest pending
    eraseAll (modifyAll pending (loopUpdates reply cs))
        (((cs.filter fun c => c.2.leaves (reply c.1)).map Prod.fst).mergeSort
          fun a b => decide (b ≤ a)) =
      (pending.mapIdx fun i e => e.fate conf latest (reply i)).reduceOption := by
  intro cs
  have hcs : (cs.map Prod.fst).Nodup := nodup_eventsToCheck conf latest pending
  have hus := nodup_loopUpdates conf latest reply pending
  have hrm : ((cs.filter fun c => c.2.leaves (reply c.1)).map Prod.fst).Nodup :=
    hcs.sublist (List.filter_sublist.map _)
  refine eraseAll_modifyAll_eq_decision hus (pairwise_gt_mergeSort hrm)
    (fun i e => e.fate conf latest (reply i)) ?_ ?_
  · intro i e hget hi
    rw [List.mem_mergeSort, List.mem_map] at hi
    obtain ⟨⟨j, e'⟩, hj, rfl⟩ := hi
    obtain ⟨hmem, hleaves⟩ := List.mem_filter.mp hj
    obtain ⟨hget', hconf⟩ := mem_eventsToCheck.mp hmem
    obtain rfl : e' = e := Option.some.inj (hget'.symm.trans hget)
    exact PendingEvent.fate_of_leaves hconf hleaves
  · intro i e hget hi
    by_cases hconf : e.isConfirmed conf latest = true
    · have hmem : (i, e) ∈ cs := mem_eventsToCheck.mpr ⟨hget, hconf⟩
      have hstays : e.leaves (reply i) = false := by
        by_contra hl
        refine hi (List.mem_mergeSort.mpr (List.mem_map.mpr ⟨(i, e), ?_, rfl⟩))
        exact List.mem_filter.mpr ⟨hmem, by simpa using hl⟩
      exact fate_eq_updateAt hmem hstays
    · have hnot : i ∉ (loopUpdates reply cs).map Prod.fst := by
        intro hin
        obtain ⟨⟨j, f⟩, hf, rfl⟩ := List.mem_map.mp hin
        obtain ⟨e', hmem, -⟩ := mem_loopUpdates.mp hf
        obtain ⟨hget', hconf'⟩ := mem_eventsToCheck.mp hmem
        obtain rfl : e' = e := Option.some.inj (hget'.symm.trans hget)
        exact hconf hconf'
      rw [updateAt_of_notMem hnot]
      simp [PendingEvent.fate, hconf]

/-! ### The specification of a check -/

/-- A check whose head is unknown does nothing. -/
lemma checkPending_error (conf : ℕ) (report : Report) (reply : ℕ → VerifyReply)
    (pending : List (PendingEvent L)) :
    checkPending conf (.error report) reply pending = ⟨pending, [], []⟩ := rfl

/-- A check applies to every entry its own fate, verifies exactly the confirmed entries, and hands
over exactly those found at their own height, all in the order of the list. -/
theorem checkPending_ok (conf latest : ℕ) (reply : ℕ → VerifyReply)
    (pending : List (PendingEvent L)) :
    checkPending conf (.ok latest) reply pending =
      { pending := (pending.mapIdx fun i e => e.fate conf latest (reply i)).reduceOption
        verified := (eventsToCheck conf latest pending).map fun c => (c.2, reply c.1)
        handed := ((eventsToCheck conf latest pending).filter fun c =>
          decide (reply c.1 = .ok (some c.2.blockNumber))).map Prod.snd } := by
  have happly := eraseAll_loopUpdates conf latest reply pending
  have hempty : (confirmedIndices conf latest pending).isEmpty = true →
      eventsToCheck conf latest pending = [] := by
    intro h
    rw [List.isEmpty_iff] at h
    simp [eventsToCheck, h]
  have hrecorded : applyNotes pending
      { indicesToRemove := ((eventsToCheck conf latest pending).filter fun c =>
          c.2.leaves (reply c.1)).map Prod.fst
        blockUpdates := (eventsToCheck conf latest pending).filterMap fun c =>
          (c.2.newHeight (reply c.1)).map fun b => (c.1, b)
        absentBumps := ((eventsToCheck conf latest pending).filter fun c =>
          c.2.isBumped (reply c.1)).map Prod.fst
        handed := ((eventsToCheck conf latest pending).filter fun c =>
          decide (reply c.1 = .ok (some c.2.blockNumber))).map Prod.snd } =
      (pending.mapIdx fun i e => e.fate conf latest (reply i)).reduceOption := by
    rw [← happly]
    unfold applyNotes loopUpdates
    rw [modifyAll_append, List.map_filterMap, List.map_map]
    simp [Option.map_map, Function.comp_def]
  unfold checkPending
  by_cases hnone : (confirmedIndices conf latest pending).isEmpty = true
  · have hcs := hempty hnone
    simp only [hcs] at happly ⊢
    simpa [hnone, loopUpdates, eraseAll] using happly
  · simp only [hnone, foldl_checkOne, List.nil_append]
    rw [hrecorded]
    rfl

section Check

variable {conf latest : ℕ} {reply : ℕ → VerifyReply} {pending : List (PendingEvent L)}

/-- The entries that a check hands over. -/
lemma mem_handed {e : PendingEvent L} :
    e ∈ (checkPending conf (.ok latest) reply pending).handed ↔
      ∃ i, pending[i]? = some e ∧ e.isConfirmed conf latest = true ∧
        reply i = .ok (some e.blockNumber) := by
  rw [checkPending_ok]
  constructor
  · intro h
    obtain ⟨⟨i, e'⟩, hc, rfl⟩ := List.mem_map.mp h
    obtain ⟨hmem, hreply⟩ := List.mem_filter.mp hc
    obtain ⟨hget, hconf⟩ := mem_eventsToCheck.mp hmem
    exact ⟨i, hget, hconf, of_decide_eq_true hreply⟩
  · rintro ⟨i, hget, hconf, hreply⟩
    refine List.mem_map.mpr ⟨(i, e), List.mem_filter.mpr ⟨?_, decide_eq_true hreply⟩, rfl⟩
    exact mem_eventsToCheck.mpr ⟨hget, hconf⟩

/-- The calls of `verify_event_on_chain` that a check makes. -/
lemma mem_verified {e : PendingEvent L} {r : VerifyReply} :
    (e, r) ∈ (checkPending conf (.ok latest) reply pending).verified ↔
      ∃ i, pending[i]? = some e ∧ e.isConfirmed conf latest = true ∧ reply i = r := by
  rw [checkPending_ok]
  constructor
  · intro h
    obtain ⟨⟨i, e'⟩, hc, heq⟩ := List.mem_map.mp h
    obtain ⟨rfl, rfl⟩ : e' = e ∧ reply i = r := by simpa using heq
    obtain ⟨hget, hconf⟩ := mem_eventsToCheck.mp hc
    exact ⟨i, hget, hconf, rfl⟩
  · rintro ⟨i, hget, hconf, rfl⟩
    exact List.mem_map.mpr ⟨(i, e), mem_eventsToCheck.mpr ⟨hget, hconf⟩, rfl⟩

/-- An entry that is handed over leaves the list. -/
lemma fate_of_handed {e : PendingEvent L} {r : VerifyReply}
    (hconf : e.isConfirmed conf latest = true) (hr : r = .ok (some e.blockNumber)) :
    e.fate conf latest r = none := by
  subst hr
  simp [PendingEvent.fate, hconf]

end Check

end SocketRelay

end BifrostRelayer
