import DeviceTrust.Proofs.Operation
import DeviceTrust.Proofs.Samples
import DeviceTrust.Proofs.Verification.Lifecycle
/-! # What is over and goes on to speak

What users may decide about requests and flows, and whether a decision sends a message or uploads
signatures when the thing is over already. Acceptances of requests and cancellations look at the state
first and say nothing then. The other decisions leave it to the engine to refuse, and speak of a thing
that is over just when the engine gives them something to send.
-/

namespace DeviceTrust

open Operation

def Call.Delivers : Call → Prop
  | send _ | upload _ => True
  | _ => False

inductive Decision where
  | acceptRequest (request : Request) (methods : List Method)
  | cancelRequest (request : Request) (code : CancelCode)
  | startSas (request : Request)
  | acceptSas (sas : Sas)
  | confirmSas (sas : Sas)
  | cancelSas (sas : Sas) (code : CancelCode)
  | scanQr (qr : QrCode) (data : List UInt8)
  | answerScan (qr : QrCode) (scanned : Bool)
  | cancelQr (qr : QrCode) (code : CancelCode)

namespace Decision

variable {S σ : Type} {answer : Collaborators σ} {s : S} {world : σ} {decision : Decision}

def operation : Decision → Operation S Unit
  | acceptRequest request methods => discard (request.acceptWith methods)
  | cancelRequest request code => discard (request.cancel code)
  | startSas request => discard request.startSas
  | acceptSas sas => sas.accept
  | confirmSas sas => discard sas.confirm
  | cancelSas sas code => discard (sas.cancel code)
  | scanQr qr data => discard (qr.scan data)
  | answerScan qr scanned => qr.scannedByOther scanned
  | cancelQr qr code => discard (qr.cancel code)

def isOver : Decision → Bool
  | acceptRequest request _ | cancelRequest request _ | startSas request => request.state.isTerminal
  | acceptSas sas | confirmSas sas | cancelSas sas _ => sas.state.isTerminal
  | scanQr qr _ | answerScan qr _ | cancelQr qr _ => qr.state.isTerminal

/-- If the thing is over, the decision neither sends a message nor uploads signatures. -/
def KeepsSilence (decision : Decision) (answer : Collaborators σ) (s : S) (world : σ) : Prop :=
  decision.isOver = true → ∀ call ∈ (decision.operation.run answer s world).calls, ¬ call.Delivers

def Confirms (answer : Collaborators σ) (world : σ) (user : UserId) (flow : String) : Prop :=
  ∃ confirmation, (answer (.confirm user flow) world).1 = .ok (some confirmation) ∧
    (confirmation.messages ≠ [] ∨ confirmation.signatures ≠ none)

/-- The decision does not look whether the thing is over, and the engine gives it something to send. -/
def Obtains (answer : Collaborators σ) (world : σ) : Decision → Prop
  | startSas request =>
    (answer (.startSas request.otherUser request.flow.text) world).1 ≠ none
  | acceptSas sas => (answer (.acceptSas sas.info.otherUser sas.info.flow.text) world).1 ≠ none
  | scanQr qr data => (answer (.scanQr qr.otherUser qr.flow.text data) world).1 ≠ none
  | confirmSas sas => Confirms answer world sas.info.otherUser sas.info.flow.text
  | answerScan qr true => Confirms answer world qr.otherUser qr.flow.text
  | _ => False

end Decision

namespace Operation

variable {S α β σ : Type} {answer : Collaborators σ} {p : Operation S α} {k : α → Operation S β}
  {s : S} {world : σ}

def Speaks (p : Operation S α) (answer : Collaborators σ) (s : S) (world : σ) : Prop :=
  ∃ call ∈ (p.run answer s world).calls, call.Delivers

theorem not_speaks_done {a : α} : ¬ (done a : Operation S α).Speaks answer s world := by
  rintro ⟨call, hCall, _⟩
  exact absurd hCall List.not_mem_nil

theorem speaks_bind : (p >>= k).Speaks answer s world ↔ p.Speaks answer s world ∨
    (k (p.run answer s world).value).Speaks answer (p.run answer s world).state
      (p.run answer s world).world := by
  simp only [Speaks, run_bind, List.mem_append, or_and_right, exists_or]

theorem speaks_discard : (discard p).Speaks answer s world ↔ p.Speaks answer s world :=
  speaks_bind.trans (or_iff_left not_speaks_done)

theorem speaks_call_bind {call : Call} {k : call.Answer → Operation S β} :
    (Operation.call call >>= k).Speaks answer s world ↔
      call.Delivers ∨ (k (answer call world).1).Speaks answer s (answer call world).2 := by
  simp only [Speaks, run_call_bind, List.mem_cons, or_and_right, exists_or, exists_eq_left]

theorem speaks_ask_bind {call : Call} {k : call.Answer → Operation S β} (hCall : ¬ call.Delivers) :
    (Operation.call call >>= k).Speaks answer s world ↔
      (k (answer call world).1).Speaks answer s (answer call world).2 :=
  speaks_call_bind.trans (or_iff_right hCall)

theorem speaks_deliver (message : Message) :
    (deliver message : Operation S (Except VerificationError Unit)).Speaks answer s world :=
  speaks_call_bind.mpr (.inl trivial)

theorem speaks_deliver_confirmation {confirmation : Confirmation} :
    (confirmation.deliver : Operation S (Except EngineError Unit)).Speaks answer s world ↔
      confirmation.messages ≠ [] ∨ confirmation.signatures ≠ none := by
  rw [Confirmation.deliver, speaks_bind]
  obtain ⟨_ | ⟨message, rest⟩, signatures⟩ := confirmation
  -- Without messages only the signatures can be delivered.
  · cases signatures with
    | none => exact iff_of_false (not_or.mpr ⟨not_speaks_done, not_speaks_done⟩) (by simp)
    | some signatures =>
      exact iff_of_true (.inr ⟨.upload signatures, List.mem_singleton_self _, trivial⟩) (by simp)
  · exact iff_of_true (.inl (speaks_call_bind.mpr (.inl trivial))) (.inl (List.cons_ne_nil _ _))

theorem speaks_confirmAndDeliver_iff {user : UserId} {flow : String} :
    (confirmAndDeliver user flow : Operation S (Option Confirmation)).Speaks answer s world ↔
      Decision.Confirms answer world user flow := by
  rw [confirmAndDeliver, speaks_ask_bind id, Decision.Confirms]
  obtain error | _ | confirmation := (answer (.confirm user flow) world).1
  · refine iff_of_false not_speaks_done ?_
    rintro ⟨confirmation, ⟨⟩, _⟩
  · refine iff_of_false not_speaks_done ?_
    rintro ⟨confirmation, ⟨⟩, _⟩
  · dsimp only
    rw [speaks_bind, speaks_deliver_confirmation]
    constructor
    · rintro (hSends | hLast)
      · exact ⟨confirmation, rfl, hSends⟩
      -- Nothing is said any more once the confirmation is delivered.
      · split at hLast <;> exact (not_speaks_done hLast).elim
    · rintro ⟨_, ⟨⟩, hSends⟩
      exact .inl hSends

theorem speaks_startSas_iff {request : Request} :
    (request.startSas : Operation S (Except VerificationError Sas)).Speaks answer s world ↔
      (answer (.startSas request.otherUser request.flow.text) world).1 ≠ none := by
  rw [Request.startSas, speaks_ask_bind id]
  obtain _ | started := (answer (.startSas request.otherUser request.flow.text) world).1
  · exact iff_of_false not_speaks_done fun h => h rfl
  · exact iff_of_true (speaks_bind.mpr (.inl (speaks_deliver started.message)))
      (Option.some_ne_none started)

theorem speaks_accept_iff {sas : Sas} : (sas.accept : Operation S Unit).Speaks answer s world ↔
    (answer (.acceptSas sas.info.otherUser sas.info.flow.text) world).1 ≠ none := by
  rw [Sas.accept, speaks_ask_bind id]
  obtain _ | message := (answer (.acceptSas sas.info.otherUser sas.info.flow.text) world).1
  · exact iff_of_false not_speaks_done fun h => h rfl
  · exact iff_of_true (speaks_call_bind.mpr (.inl trivial)) (Option.some_ne_none message)

theorem speaks_scan_iff {qr : QrCode} {data : List UInt8} :
    (qr.scan data : Operation S (Option String)).Speaks answer s world ↔
      (answer (.scanQr qr.otherUser qr.flow.text data) world).1 ≠ none := by
  rw [QrCode.scan, speaks_ask_bind id]
  obtain _ | started := (answer (.scanQr qr.otherUser qr.flow.text data) world).1
  · exact iff_of_false not_speaks_done fun h => h rfl
  · exact iff_of_true (speaks_call_bind.mpr (.inl trivial)) (Option.some_ne_none started)

end Operation

namespace Decision

variable {S σ : Type} {answer : Collaborators σ} {s : S} {world : σ} {decision : Decision}

theorem speaks_iff_obtains (hOver : decision.isOver = true) :
    (decision.operation.Speaks answer s world) ↔ decision.Obtains answer world := by
  cases decision with
  | acceptRequest request methods =>
    have hTerminal : request.state.isTerminal = true := hOver
    rw [operation, Request.acceptWith, if_pos hTerminal]
    exact iff_of_false not_speaks_done id
  | cancelRequest request code =>
    have hTerminal : request.state.isTerminal = true := hOver
    rw [operation, Request.cancel, if_pos hTerminal]
    exact iff_of_false not_speaks_done id
  | cancelSas sas code =>
    have hTerminal : sas.state.isTerminal = true := hOver
    rw [operation, Sas.cancel, if_pos hTerminal]
    exact iff_of_false not_speaks_done id
  | cancelQr qr code =>
    have hTerminal : qr.state.isTerminal = true := hOver
    rw [operation, QrCode.cancel, if_pos hTerminal]
    exact iff_of_false not_speaks_done id
  | startSas request => exact speaks_discard.trans speaks_startSas_iff
  | acceptSas sas => exact speaks_accept_iff
  | scanQr qr data => exact speaks_discard.trans speaks_scan_iff
  | confirmSas sas => exact speaks_discard.trans speaks_confirmAndDeliver_iff
  | answerScan qr scanned =>
    cases scanned with
    | true =>
      exact speaks_discard.trans speaks_confirmAndDeliver_iff
    | false =>
      have hTerminal : qr.state.isTerminal = true := hOver
      rw [operation, QrCode.scannedByOther, QrCode.cancel, if_pos hTerminal]
      exact iff_of_false not_speaks_done id

/-- Of what is over, only those decisions speak that leave it to the engine to refuse, and they speak
just when the engine does not. -/
theorem keepsSilence_iff_not_obtains (decision : Decision) (answer : Collaborators σ) (s : S)
    (world : σ) : decision.KeepsSilence answer s world ↔
      ¬ (decision.isOver = true ∧ decision.Obtains answer world) := by
  have hSilent : (∀ call ∈ (decision.operation.run answer s world).calls, ¬ call.Delivers) ↔
      ¬ decision.operation.Speaks answer s world := by
    simp only [Speaks, not_exists, not_and]
  rw [KeepsSilence, hSilent, not_and]
  exact forall_congr' fun hOver => not_congr (speaks_iff_obtains hOver)

namespace Sample

/-- Short auth strings that the other side cancelled before they were compared. -/
def abandoned : Sas :=
  Sas.life.follow (.new ⟨.toDevice "flow", .bob, "PHONE", true⟩)
    [.created, .cancelled (.ofCode .user false)]

end Sample

open Sample in
theorem abandoned_flow_is_signed : abandoned.state = .cancelled ∧
    (∃ signatures, .upload signatures ∈
      ((confirmSas abandoned).operation.run obliging () ()).calls) ∧
    ¬ (confirmSas abandoned).KeepsSilence obliging () () := by
  have hUpload : .upload (.object [("flow", .text "flow")]) ∈
      ((confirmSas abandoned).operation.run obliging () ()).calls :=
    List.mem_cons_of_mem _ List.mem_cons_self
  refine ⟨by decide, ⟨_, hUpload⟩, ?_⟩
  intro hSilent
  exact hSilent rfl _ hUpload trivial

end Decision

end DeviceTrust
