import SuiParachain.Bcs.Primitives
/-!
# The transaction object graph (`crate::types::transaction`)

The entity types whose serde impls `serialization.rs` writes by hand, in the shapes its
exhaustive `match`es fix. The types it never takes apart are the parameters `Leaves`; every
theorem holds for any choice of them, given lawful codecs for each (`LeafCodecs`, `LeafJson`).
-/
namespace Sui

open Bcs (Bytes)

/-- The types `serialization.rs` passes through without looking inside. -/
structure Leaves where
  Address : Type
  ObjectId : Type
  ObjectReference : Type
  CheckpointDigest : Type
  GasPayment : Type
  TransactionExpiration : Type
  ChangeEpoch : Type
  GenesisTransaction : Type
  ConsensusCommitPrologue : Type
  AuthenticatorStateUpdate : Type
  AuthenticatorStateExpire : Type
  RandomnessStateUpdate : Type
  ConsensusCommitPrologueV2 : Type
  MoveCall : Type
  TransferObjects : Type
  SplitCoins : Type
  MergeCoins : Type
  Publish : Type
  MakeMoveVector : Type
  Upgrade : Type
  UserSignature : Type

/-- Every leaf `Unit`, to run the codecs on concrete transactions. -/
def Leaves.unit : Leaves where
  Address := Unit
  ObjectId := Unit
  ObjectReference := Unit
  CheckpointDigest := Unit
  GasPayment := Unit
  TransactionExpiration := Unit
  ChangeEpoch := Unit
  GenesisTransaction := Unit
  ConsensusCommitPrologue := Unit
  AuthenticatorStateUpdate := Unit
  AuthenticatorStateExpire := Unit
  RandomnessStateUpdate := Unit
  ConsensusCommitPrologueV2 := Unit
  MoveCall := Unit
  TransferObjects := Unit
  SplitCoins := Unit
  MergeCoins := Unit
  Publish := Unit
  MakeMoveVector := Unit
  Upgrade := Unit
  UserSignature := Unit

/-- `Argument`: a reference into a programmable transaction's inputs and results. -/
inductive Argument where
  | gasCoin
  | input (input : UInt16)
  | result (result : UInt16)
  | nestedResult (result subresult : UInt16)
  deriving DecidableEq, Repr

variable (L : Leaves)

inductive InputArgument where
  | pure (value : Bytes)
  | immutableOrOwned (objectRef : L.ObjectReference)
  | shared (objectId : L.ObjectId) (initialSharedVersion : UInt64) (mutable : Bool)
  | receiving (objectRef : L.ObjectReference)

inductive Command where
  | moveCall (c : L.MoveCall)
  | transferObjects (c : L.TransferObjects)
  | splitCoins (c : L.SplitCoins)
  | mergeCoins (c : L.MergeCoins)
  | publish (c : L.Publish)
  | makeMoveVector (c : L.MakeMoveVector)
  | upgrade (c : L.Upgrade)

/-- Modelled from the spec (§3): its declared inputs and its commands; the declaration is not
among the sources. -/
structure ProgrammableTransaction where
  inputs : List (InputArgument L)
  commands : List (Command L)

inductive EndOfEpochTransactionKind where
  | changeEpoch (k : L.ChangeEpoch)
  | authenticatorStateCreate
  | authenticatorStateExpire (k : L.AuthenticatorStateExpire)
  | randomnessStateCreate
  | denyListStateCreate
  | bridgeStateCreate (chainId : L.CheckpointDigest)
  | bridgeCommitteeInit (bridgeObjectVersion : UInt64)

inductive TransactionKind where
  | programmableTransaction (k : ProgrammableTransaction L)
  | changeEpoch (k : L.ChangeEpoch)
  | genesis (k : L.GenesisTransaction)
  | consensusCommitPrologue (k : L.ConsensusCommitPrologue)
  | authenticatorStateUpdate (k : L.AuthenticatorStateUpdate)
  | endOfEpoch (commands : List (EndOfEpochTransactionKind L))
  | randomnessStateUpdate (k : L.RandomnessStateUpdate)
  | consensusCommitPrologueV2 (k : L.ConsensusCommitPrologueV2)

structure Transaction where
  kind : TransactionKind L
  sender : L.Address
  gasPayment : L.GasPayment
  expiration : L.TransactionExpiration

structure SignedTransaction where
  transaction : Transaction L
  signatures : List L.UserSignature

end Sui
