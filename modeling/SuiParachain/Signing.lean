import SuiParachain.Binary.Envelope
import SuiParachain.Readable.Entities
/-!
# The signing envelope in both modes (`serialization.rs:1034-1131`)

Readable mode writes the plain readable signed transaction, with no intent tuple and no
one-element sequence; binary mode writes the pre-image of `Binary/Envelope.lean`.
-/
namespace Sui

open Bcs Readable

variable {L : Leaves} (C : LeafCodecs L) (J : LeafJson L)

namespace SignedTransactionWithIntentMessage

/-- `SerializeAs<SignedTransaction>`, human-readable branch (`:1057-1062`). -/
def serializeAsReadable (st : SignedTransaction L) : Json := .object (SignedTransaction.toReadable J st)

/-- `DeserializeAs<SignedTransaction>`, human-readable branch (`:1085-1095`). -/
def deserializeAsReadable (j : Json) : Except String (SignedTransaction L) :=
  SignedTransaction.ofReadable J j

/-- An accepted pre-image begins with the one-element length and the intent `(0, 0, 0)`. -/
theorem fromBytes_prefix {b : Bytes} {st : SignedTransaction L} (h : fromBytes (codec C) b = .ok st) :
    b.take 4 = [1, 0, 0, 0] := by
  obtain ⟨tb, sb, -, -, rfl⟩ := serializeAs_layout C (fromBytes_eq_ok_iff.1 h)
  rfl

theorem signing_envelope :
    (∀ st, deserializeAsReadable J (serializeAsReadable J st) = .ok st) ∧
    RoundTripsWithin (codec C) (SignedTransaction.withinLimits C maxContainerDepth) ∧
    (∀ b st, fromBytes (codec C) b = .ok st ↔ toBytes (codec C) st = .ok b) ∧
    (∀ st b, toBytes (codec C) st = .ok b →
      ∃ tb sb, toBytes (Transaction.codec C) st.transaction = .ok tb ∧
        toBytes (Codec.seq C.userSignature) st.signatures = .ok sb ∧
        b = outputU32AsUleb128 1 ++ [0, 0, 0] ++ tb ++ sb) ∧
    (∀ b st, fromBytes (codec C) b = .ok st → b.take 4 = [1, 0, 0, 0]) :=
  ⟨(SignedTransaction.readable J).fromJson_toJson, (codec C).roundTripsWithin (codec_fits C _),
    fun _ _ => fromBytes_eq_ok_iff, fun _ _ => serializeAs_layout C,
    fun _ _ => fromBytes_prefix C⟩

end SignedTransactionWithIntentMessage

end Sui
