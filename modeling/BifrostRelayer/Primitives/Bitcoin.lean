import BifrostRelayer.Primitives.Socket

/-!
# Bitcoin events

The block manager scans the outputs of Bitcoin transactions and broadcasts those that concern the
bridge, grouped in messages by block and direction.
-/

namespace BifrostRelayer

namespace Bitcoin

open SolidityAbi

/-- A Bitcoin address, in its text form. -/
structure BtcAddress where
  text : String
deriving DecidableEq, Repr

/-- `EventType`. -/
inductive EventType where
  | inbound
  | outbound
  | newBlock
deriving DecidableEq, Repr

/-- `Event`: an output that concerns the bridge. -/
structure Event where
  txid : B256
  /-- The index of the output in its transaction. -/
  index : UInt32
  address : BtcAddress
  /-- The amount in satoshi. -/
  amount : UInt64
deriving DecidableEq

/-- `EventMessage`. -/
structure EventMessage where
  blockNumber : ℕ
  eventType : EventType
  events : List Event
deriving DecidableEq

namespace EventMessage

/-- `EventMessage::inbound`. -/
def inbound (blockNumber : ℕ) : EventMessage := ⟨blockNumber, .inbound, []⟩

/-- `EventMessage::outbound`. -/
def outbound (blockNumber : ℕ) : EventMessage := ⟨blockNumber, .outbound, []⟩

/-- `EventMessage::new_block`. -/
def newBlock (blockNumber : ℕ) : EventMessage := ⟨blockNumber, .newBlock, []⟩

end EventMessage

/-- The bytes of a hash in reverse order. -/
def reverseBytes (hash : B256) : B256 := ⟨hash.val.reverse, by simp [hash.property]⟩

end Bitcoin

end BifrostRelayer
