import DeviceTrust.Manager.Operations
import DeviceTrust.Proofs.Manager.Filing
import DeviceTrust.Proofs.Verification.Confirmation
/-! # Exchanges with the engine

To accept a request, to cancel something and to start short auth strings all come to one exchange: the
engine is asked for a message, and the message is sent. What is yielded tells how far that went. No
decision of a user moves a flow; when the code of the other side is scanned, the device that it belongs
to is noted, and nothing else is.
-/

namespace DeviceTrust

open Operation

/-- The engine is asked for a message, which is sent if the engine makes one. -/
structure Exchange (α : Type) where
  ended : Bool
  request : Call
  /-- The message that the engine made, with what is yielded once it is sent. -/
  made : request.Answer → Option (Message × α)
  refusal : VerificationError
  failure?_request : ∀ given, request.failure? given = none
  refusal_ne : ∀ error, refusal ≠ .delivery error

structure Operation.ChangesNothing {S α σ : Type} (answer : Collaborators σ) (s : S) (world : σ)
    (p : Operation S α) : Prop where
  callsOnly : p.CallsOnly
  state_run : (p.run answer s world).state = s

theorem Operation.CallsOnly.changesNothing {S α σ : Type} {answer : Collaborators σ} {s : S} {world : σ}
    {p : Operation S α} (h : p.CallsOnly) : ChangesNothing answer s world p :=
  ⟨h, h.state_run⟩

namespace Exchange

variable {S α σ : Type}

def operation (exchange : Exchange α) : Operation S (Except VerificationError α) := do
  if exchange.ended then
    return .error exchange.refusal
  match exchange.made (← Operation.call exchange.request) with
  | none => return .error exchange.refusal
  | some (message, value) => return (← deliver message).map fun _ => value

def cancellation (ended : Bool) (user : UserId) (flow : FlowId) (code : CancelCode) :
    Exchange Unit where
  ended := ended
  request := .cancel user flow.text code
  made given := Option.map (·, ()) given
  refusal := .cannotCancel
  failure?_request _ := rfl
  refusal_ne _ := VerificationError.noConfusion

/-- How an exchange ends, by what the engine was asked and what was sent, each with its failure. -/
inductive Ends (exchange : Exchange α) (given : exchange.request.Answer) :
    List (Call × Option EngineError) → Except VerificationError α → Prop
  | ended (hEnded : exchange.ended = true) : Ends exchange given [] (.error exchange.refusal)
  | refused (hLive : exchange.ended = false) (hMade : exchange.made given = none) :
    Ends exchange given [(exchange.request, none)] (.error exchange.refusal)
  | undelivered {message : Message} {value : α} (hLive : exchange.ended = false)
    (hMade : exchange.made given = some (message, value)) (error : EngineError) :
    Ends exchange given [(exchange.request, none), (.send message, some error)]
      (.error (.delivery error))
  | delivered {message : Message} {value : α} (hLive : exchange.ended = false)
    (hMade : exchange.made given = some (message, value)) :
    Ends exchange given [(exchange.request, none), (.send message, none)] (.ok value)

/-- What is yielded tells how far an exchange went. -/
structure Tells (exchange : Exchange α) (given : exchange.request.Answer)
    (attempts : List (Call × Option EngineError)) (result : Except VerificationError α) : Prop where
  refused_iff : result = .error exchange.refusal ↔
    exchange.ended = true ∨ exchange.made given = none
  unasked : exchange.ended = true → attempts = []
  unsent : exchange.ended = false → exchange.made given = none → attempts = [(exchange.request, none)]
  undelivered_iff : ∀ error, result = .error (.delivery error) ↔ ∃ message value,
    exchange.made given = some (message, value) ∧
      attempts = [(exchange.request, none), (.send message, some error)]
  ok_iff : ∀ value, result = .ok value ↔ ∃ message,
    exchange.made given = some (message, value) ∧
      attempts = [(exchange.request, none), (.send message, none)]
  exhaustive : result = .error exchange.refusal ∨ (∃ error, result = .error (.delivery error)) ∨
    ∃ value, result = .ok value

variable {exchange : Exchange α} {given : exchange.request.Answer}
  {attempts : List (Call × Option EngineError)} {result : Except VerificationError α}

theorem Ends.tells (h : exchange.Ends given attempts result) :
    exchange.Tells given attempts result := by
  -- A refusal is no failed delivery, so each of the four ends has a result of its own.
  have hRefusal := exchange.refusal_ne
  cases h with
  | ended hEnded => constructor <;> simp_all
  | refused hLive hMade => constructor <;> simp_all
  | undelivered hLive hMade error =>
    constructor <;> simp_all [eq_comm (b := exchange.refusal)]
  | delivered hLive hMade => constructor <;> simp_all

variable {answer : Collaborators σ} {s : S} {world : σ}

theorem operation_ends (exchange : Exchange α) :
    exchange.Ends (answer exchange.request world).1 (exchange.operation.attempts answer s world)
      (exchange.operation.run answer s world).value := by
  cases hEnded : exchange.ended with
  | true =>
    rw [operation, hEnded]
    exact .ended hEnded
  | false =>
    rw [operation, hEnded, if_neg Bool.false_ne_true, attempts_call_bind, run_call_bind,
      exchange.failure?_request]
    cases hMade : exchange.made (answer exchange.request world).1 with
    | none => exact .refused hEnded hMade
    | some sent =>
      obtain ⟨message, value⟩ := sent
      dsimp only
      rw [deliver, bind_assoc, attempts_call_bind, run_call_bind]
      obtain error | _ := (answer (.send message) (answer exchange.request world).2).1
      · exact .undelivered hEnded hMade error
      · exact .delivered hEnded hMade

theorem operation_callsOnly (exchange : Exchange α) :
    (exchange.operation : Operation S (Except VerificationError α)).CallsOnly := by
  rw [operation]
  split
  · trivial
  · refine CallsOnly.bind (fun _ => trivial) fun given => ?_
    split
    · trivial
    · next message value _ => exact (deliver_callsOnly message).bind fun _ => trivial

structure CarriedOut (exchange : Exchange α) (answer : Collaborators σ) (s : S) (world : σ)
    (p : Operation S (Except VerificationError α)) : Prop extends ChangesNothing answer s world p where
  tells : exchange.Tells (answer exchange.request world).1 (p.attempts answer s world)
    (p.run answer s world).value

theorem CarriedOut.of_eq {p : Operation S (Except VerificationError α)} (h : p = exchange.operation) :
    exchange.CarriedOut answer s world p := by
  subst h
  exact ⟨exchange.operation_callsOnly.changesNothing, exchange.operation_ends.tells⟩

end Exchange

section Operations

variable {S : Type}

theorem deliver_map_unit (message : Message) :
    (do return (← deliver message).map fun _ => () : Operation S (Except VerificationError Unit)) =
      deliver message := by
  refine congrArg (ask (.send message)) (funext ?_)
  rintro (_ | _) <;> rfl

theorem cancelFlow_eq_operation (ended : Bool) (user : UserId) (flow : FlowId) (code : CancelCode) :
    (if ended then return .error .cannotCancel else cancelFlow user flow.text code :
        Operation S (Except VerificationError Unit)) =
      (Exchange.cancellation ended user flow code).operation := by
  cases ended with
  | true => rfl
  | false =>
    refine congrArg (ask (.cancel user flow.text code)) (funext ?_)
    rintro (_ | message)
    · rfl
    · exact (deliver_map_unit message).symm

namespace Request

def acceptance (request : Request) (methods : List Method) : Exchange Unit where
  ended := request.state.isTerminal
  request := .accept request.otherUser request.flow.text methods
  made given := Option.map (·, ()) given
  refusal := .cannotAccept
  failure?_request _ := rfl
  refusal_ne _ := VerificationError.noConfusion

/-- A request can be asked to start short auth strings when it is over. -/
def sasStart (request : Request) : Exchange Sas where
  ended := false
  request := .startSas request.otherUser request.flow.text
  made given := Option.map (fun started : StartedFlow => (started.message, .new started.info)) given
  refusal := .cannotStartSas
  failure?_request _ := rfl
  refusal_ne _ := VerificationError.noConfusion

theorem acceptWith_eq_operation (request : Request) (methods : List Method) :
    (request.acceptWith methods : Operation S (Except VerificationError Unit)) =
      (request.acceptance methods).operation := by
  rw [acceptWith, Exchange.operation, acceptance]
  cases request.state.isTerminal with
  | true => rfl
  | false =>
    refine congrArg (ask (.accept request.otherUser request.flow.text methods)) (funext ?_)
    rintro (_ | message)
    · rfl
    · exact (deliver_map_unit message).symm

theorem startSas_eq_operation (request : Request) :
    (request.startSas : Operation S (Except VerificationError Sas)) = request.sasStart.operation := by
  refine congrArg (ask (.startSas request.otherUser request.flow.text)) (funext ?_)
  rintro (_ | started)
  · rfl
  · refine congrArg (ask (.send started.message)) (funext ?_)
    rintro (_ | _) <;> rfl

end Request

end Operations

/-! ## Scans -/

section Scans

variable {S σ : Type} {answer : Collaborators σ} {s : S} {world : σ} {m : Manager}
  {handle : Handle Flow} {qr : QrCode} {data : List UInt8} {found : Option String} {device : String}

/-- The engine takes the code of a device, and our answer to it is sent. -/
def QrCode.Reads (qr : QrCode) (answer : Collaborators σ) (world : σ) (data : List UInt8)
    (device : String) : Prop :=
  ∃ started, (answer (.scanQr qr.otherUser qr.flow.text data) world).1 = some started ∧
    (answer (.send started.message) (answer (.scanQr qr.otherUser qr.flow.text data) world).2).1 =
      .ok () ∧
    started.info.otherDevice = device

theorem QrCode.value_scan_iff : ((qr.scan data).run answer s world).value = some device ↔
    qr.Reads answer world data device := by
  rw [scan, run_call_bind, Reads]
  obtain _ | started := (answer (.scanQr qr.otherUser qr.flow.text data) world).1
  · refine iff_of_false nofun ?_
    rintro ⟨_, ⟨⟩, _⟩
  · dsimp only
    rw [run_call_bind]
    constructor
    · intro hFound
      refine ⟨started, rfl, ?_⟩
      revert hFound
      obtain error | _ := (answer (.send started.message) _).1
      · exact nofun
      · intro hFound
        exact ⟨rfl, Option.some.inj hFound⟩
    · rintro ⟨_, ⟨⟩, hSent, rfl⟩
      rw [hSent]
      rfl

/-- Note a device, if one was found, where the device of the other side can become known later. -/
def Flow.noting (found : Option String) : Flow → Flow
  | .sas s => .sas s
  | .qr q => .qr { q with otherDevice := found <|> q.otherDevice }

theorem Flow.noting_none (flow : Flow) : flow.noting none = flow := by
  cases flow <;> rfl

theorem Registry.poll_set_of_view_eq {α β : Type} {registry : Registry α} {handle : Handle α}
    {before after : α} (view : α → β) (h : registry.get? handle = some before)
    (hView : view after = view before) (watcher : Watcher α) :
    ((registry.set handle after false).poll watcher).map (Option.map view) id =
      (registry.poll watcher).map (Option.map view) id := by
  obtain ⟨cell, hCell, rfl⟩ := Option.map_eq_some_iff.mp h
  by_cases hIndex : handle.index = watcher.handle.index
  · rw [hIndex] at hCell
    by_cases hSeen : cell.revision = watcher.seen
    · simp [poll, set, Array.getElem?_modify, hIndex, hCell, hSeen]
    · simp [poll, set, Array.getElem?_modify, hIndex, hCell, hSeen, hView]
  · simp [poll, set, Array.getElem?_modify, hIndex]

def Manager.told (m : Manager) (watcher : Watcher Flow) : Option String × Watcher Flow :=
  (m.flows.poll watcher).map (Option.map Flow.stateName) id

structure Notes (handle : Handle Flow) (found : Option String) (m next : Manager) : Prop where
  flow : next.flow? handle = (m.flow? handle).map (Flow.noting found)
  others : ∀ other, other ≠ handle → next.flow? other = m.flow? other
  told : ∀ watcher, next.told watcher = m.told watcher
  rest : next = { m with flows := next.flows }

theorem notes_none (handle : Handle Flow) (m : Manager) : Notes handle none m m where
  flow := by simp [funext Flow.noting_none]
  others _ _ := rfl
  told _ := rfl
  rest := rfl

theorem noteDevice_notes (m : Manager) (handle : Handle Flow) (device : String) :
    Notes handle (some device) m (m.noteDevice handle device) := by
  rw [Manager.noteDevice]
  split
  · next qr hFlow =>
    have hGet : m.flows.get? handle = some (.qr qr) := hFlow
    constructor
    · rw [hFlow]
      exact Registry.get?_set_self hGet
    · intro other hOther
      exact Registry.get?_set_of_ne hOther.symm
    · exact Registry.poll_set_of_view_eq Flow.stateName hGet rfl
    · rfl
  · next hSas =>
    have hSame : (m.flow? handle).map (Flow.noting (some device)) = m.flow? handle := by
      cases hFlow : m.flow? handle with
      | none => rfl
      | some flow =>
        cases flow with
        | sas => rfl
        | qr q => exact absurd hFlow (hSas q)
    exact ⟨hSame.symm, fun _ _ => rfl, fun _ => rfl, rfl⟩

theorem scan_notes : Notes handle ((qr.scan data).run answer m world).value m
    ((Manager.scan handle qr data).run answer m world).state := by
  rw [Manager.scan, run_bind, (qr.scan_callsOnly data).state_run]
  cases ((qr.scan data).run answer m world).value with
  | none => exact notes_none handle m
  | some device => exact noteDevice_notes m handle device

end Scans

structure LeftToEngine {σ : Type} (answer : Collaborators σ) (m : Manager) (world : σ) : Prop where
  accept : ∀ (request : Request) (methods : List Method),
    (request.acceptance methods).CarriedOut answer m world (request.acceptWith methods)
  cancelRequest : ∀ (request : Request) (code : CancelCode),
    (Exchange.cancellation request.state.isTerminal request.otherUser request.flow code).CarriedOut
      answer m world (request.cancel code)
  cancelSas : ∀ (sas : Sas) (code : CancelCode),
    (Exchange.cancellation sas.state.isTerminal sas.info.otherUser sas.info.flow code).CarriedOut
      answer m world (sas.cancel code)
  cancelQr : ∀ (qr : QrCode) (code : CancelCode),
    (Exchange.cancellation qr.state.isTerminal qr.otherUser qr.flow code).CarriedOut
      answer m world (qr.cancel code)
  startSas : ∀ request : Request, request.sasStart.CarriedOut answer m world request.startSas
  acceptSas : ∀ sas : Sas, ChangesNothing answer m world sas.accept
  confirmSas : ∀ sas : Sas, ChangesNothing answer m world sas.confirm
  showQr : ∀ qr : QrCode, ChangesNothing answer m world qr.data
  scanQr : ∀ (handle : Handle Flow) (qr : QrCode) (data : List UInt8),
    Notes handle ((qr.scan data).run answer m world).value m
        ((Manager.scan handle qr data).run answer m world).state ∧
      ∀ device, ((qr.scan data).run answer m world).value = some device ↔
        qr.Reads answer world data device

/-- Only the engine moves requests and flows: what users decide about them changes at most the device
that a scanned code belongs to, and what is yielded tells exactly what was asked and sent. -/
theorem left_to_engine {σ : Type} (answer : Collaborators σ) (m : Manager) (world : σ) :
    LeftToEngine answer m world where
  accept request methods := Exchange.CarriedOut.of_eq (request.acceptWith_eq_operation methods)
  cancelRequest _ _ := Exchange.CarriedOut.of_eq (cancelFlow_eq_operation ..)
  cancelSas _ _ := Exchange.CarriedOut.of_eq (cancelFlow_eq_operation ..)
  cancelQr _ _ := Exchange.CarriedOut.of_eq (cancelFlow_eq_operation ..)
  startSas request := Exchange.CarriedOut.of_eq request.startSas_eq_operation
  acceptSas sas := sas.accept_callsOnly.changesNothing
  confirmSas sas :=
    (confirmAndDeliver_callsOnly sas.info.otherUser sas.info.flow.text).changesNothing
  showQr _ := CallsOnly.changesNothing fun _ => trivial
  scanQr _ _ _ := ⟨scan_notes, fun _ => QrCode.value_scan_iff⟩

end DeviceTrust
