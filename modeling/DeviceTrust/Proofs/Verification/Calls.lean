import DeviceTrust.Proofs.Operation
import DeviceTrust.Verification.Request
/-! # Calls of verifications

What users decide about requests and flows comes to calls of the collaborators and to nothing else. No
table is looked at or changed on the way, whatever the answers are.
-/

namespace DeviceTrust

open Operation

variable {S : Type} {assumes : S → (call : Call) → call.Answer → Prop} {s : S}

theorem deliver_callsOnly (message : Message) :
    (deliver message : Operation S (Except VerificationError Unit)).CallsOnly := by
  rintro (_ | _) <;> trivial

theorem Request.startSas_ensures (request : Request)
    {post : Except VerificationError Sas → S → Prop} (hError : ∀ error, post (.error error) s)
    (hOk : ∀ started, assumes s (.startSas request.otherUser request.flow.text) (some started) →
      post (.ok (.new started.info)) s) : request.startSas.Ensures assumes post s := by
  rw [startSas, ensures_call_bind]
  rintro (_ | started) hStarted
  · exact hError _
  · refine ensures_bind.mpr ((deliver_callsOnly started.message).ensures ?_)
    rintro (error | _)
    · exact hError error
    · exact hOk started hStarted

theorem Request.startQr_ensures (request : Request)
    {post : Except VerificationError QrCode → S → Prop} (hError : ∀ error, post (.error error) s)
    (hOk : ∀ info, assumes s (.startQr request.otherUser request.flow.text) (some info) →
      post (.ok (.new info)) s) : request.startQr.Ensures assumes post s := by
  rw [startQr, ensures_call_bind]
  rintro (_ | info) hStarted
  · exact hError _
  · exact hOk info hStarted

theorem Sas.accept_callsOnly (sas : Sas) : (sas.accept : Operation S Unit).CallsOnly := by
  rintro (_ | message)
  · trivial
  · intro sent
    trivial

theorem QrCode.scan_callsOnly (qr : QrCode) (data : List UInt8) :
    (qr.scan data : Operation S (Option String)).CallsOnly := by
  rintro (_ | started)
  · trivial
  · rintro (_ | _) <;> trivial

theorem sendAll_callsOnly (messages : List Message) :
    (sendAll messages : Operation S (Except EngineError Unit)).CallsOnly := by
  induction messages with
  | nil => trivial
  | cons message rest ih =>
    rintro (_ | _)
    · trivial
    · exact ih

theorem Confirmation.deliver_callsOnly (confirmation : Confirmation) :
    (confirmation.deliver : Operation S (Except EngineError Unit)).CallsOnly := by
  refine (sendAll_callsOnly confirmation.messages).bind ?_
  rintro (_ | _)
  · trivial
  · dsimp only
    split
    · trivial
    · intro answer
      trivial

theorem confirmAndDeliver_callsOnly (user : UserId) (flow : String) :
    (confirmAndDeliver user flow : Operation S (Option Confirmation)).CallsOnly := by
  rintro (_ | _ | confirmation)
  · trivial
  · trivial
  · refine confirmation.deliver_callsOnly.bind ?_
    rintro (_ | _) <;> trivial

theorem cancelFlow_callsOnly (user : UserId) (flow : String) (code : CancelCode) :
    (cancelFlow user flow code : Operation S (Except VerificationError Unit)).CallsOnly := by
  rintro (_ | message)
  · trivial
  · exact deliver_callsOnly message

theorem QrCode.cancel_callsOnly (qr : QrCode) (code : CancelCode) :
    (qr.cancel code : Operation S (Except VerificationError Unit)).CallsOnly := by
  rw [cancel]
  split
  · trivial
  · exact cancelFlow_callsOnly qr.otherUser qr.flow.text code

theorem QrCode.scannedByOther_callsOnly (qr : QrCode) (scanned : Bool) :
    (qr.scannedByOther scanned : Operation S Unit).CallsOnly := by
  cases scanned with
  | true => exact (confirmAndDeliver_callsOnly qr.otherUser qr.flow.text).bind fun _ => trivial
  | false => exact (qr.cancel_callsOnly .keyMismatch).bind fun _ => trivial

end DeviceTrust
