import BifrostRelayer.Foundation.Ranges
import BifrostRelayer.Primitives.Socket

/-!
# The blocks of the bootstrap

What the bootstrap of the socket handlers is for: the logs of every block from the offset below the
latest block up to the latest block, fetched in chunks.  This is said here on natural numbers; the
loops of the source count on `u64`, and compute the same as long as they do not overflow.
-/

namespace BifrostRelayer

namespace Evm

/-- `BOOTSTRAP_BLOCK_CHUNK_SIZE`. -/
def bootstrapBlockChunkSize : ℕ := 1000

/-- The chunks in which a range is fetched. -/
def bootstrapChunks (fromBlock toBlock : ℕ) : List (ℕ × ℕ) :=
  if fromBlock ≤ toBlock then
    let chunkToBlock := min (fromBlock + bootstrapBlockChunkSize - 1) toBlock
    (fromBlock, chunkToBlock) :: bootstrapChunks (chunkToBlock + 1) toBlock
  else []
termination_by toBlock + 1 - fromBlock
decreasing_by
  simp only [bootstrapBlockChunkSize]
  omega

/-- The replies that the calls of `get_bootstrap_events` get. -/
structure BootstrapReplies where
  /-- `get_bootstrap_offset_height_based_on_block_time`, with the round info it needs. -/
  offsetHeight : Except Report ℕ
  blockNumber : Except Report ℕ
  getLogs : ℕ → ℕ → Except Report (List Log)

/-- `get_bootstrap_events` with a bootstrap configuration: the logs of all chunks. -/
def getBootstrapEvents (r : BootstrapReplies) : Except Report (List Log) := do
  let offsetHeight ← r.offsetHeight
  let latestBlockNumber ← r.blockNumber
  let logs ← (bootstrapChunks (latestBlockNumber - offsetHeight) latestBlockNumber).mapM
    fun chunk => r.getLogs chunk.1 chunk.2
  return logs.flatten

/-- The chunks cover the range, block by block. -/
lemma blocks_bootstrapChunks (fromBlock toBlock : ℕ) :
    (bootstrapChunks fromBlock toBlock).flatMap (fun chunk => rangeInclusive chunk.1 chunk.2) =
      rangeInclusive fromBlock toBlock := by
  induction fromBlock using bootstrapChunks.induct toBlock with
  | case1 fromBlock hle _ ih =>
    rw [bootstrapChunks, if_pos hle, List.flatMap_cons, ih]
    apply rangeInclusive_append
    · rw [bootstrapBlockChunkSize]
      omega
    · exact min_le_right _ _
  | case2 fromBlock hlt =>
    rw [bootstrapChunks, if_neg hlt, rangeInclusive_of_lt (not_le.1 hlt), List.flatMap_nil]

/-- The chunks do not go beyond the range. -/
lemma le_of_mem_bootstrapChunks {fromBlock toBlock : ℕ} {chunk : ℕ × ℕ}
    (h : chunk ∈ bootstrapChunks fromBlock toBlock) : chunk.1 ≤ toBlock ∧ chunk.2 ≤ toBlock := by
  induction fromBlock using bootstrapChunks.induct toBlock with
  | case1 fromBlock hle _ ih =>
    rw [bootstrapChunks, if_pos hle] at h
    rcases List.mem_cons.mp h with rfl | h
    · exact ⟨hle, min_le_right _ _⟩
    · exact ih h
  | case2 fromBlock hlt =>
    rw [bootstrapChunks, if_neg hlt] at h
    exact absurd h List.not_mem_nil

end Evm

end BifrostRelayer
