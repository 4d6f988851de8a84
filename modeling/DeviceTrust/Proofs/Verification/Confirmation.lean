import DeviceTrust.Proofs.Verification.Calls
/-! # What a confirmation delivers

The messages of a confirmation are sent one after the other, until one fails. Its signatures go out
last, when all messages are sent, so that nobody's keys are signed on the ground of a confirmation that
the other side may not have got. Neither a delivery nor a failure changes the flow that is confirmed.
-/

namespace DeviceTrust

def Call.failure? : (call : Call) → call.Answer → Option EngineError
  | .send _, .error error => some error
  | .upload _, .error error => some error
  | _, _ => none

namespace Operation

variable {S α β σ : Type} {answer : Collaborators σ} {p : Operation S α} {k : α → Operation S β}
  {s : S} {world : σ}

def attempts (answer : Collaborators σ) : Operation S α → S → σ → List (Call × Option EngineError)
  | done _, _, _ => []
  | access update next, s, world => (next s).attempts answer (update s) world
  | ask call next, s, world =>
    (call, call.failure? (answer call world).1) ::
      (next (answer call world).1).attempts answer s (answer call world).2

theorem map_fst_attempts :
    (p.attempts answer s world).map Prod.fst = (p.run answer s world).calls := by
  induction p generalizing s world with
  | done value => rfl
  | access update next ih => exact ih s
  | ask call next ih => exact congrArg (call :: ·) (ih _)

theorem attempts_bind : (p >>= k).attempts answer s world =
    p.attempts answer s world ++ (k (p.run answer s world).value).attempts answer
      (p.run answer s world).state (p.run answer s world).world := by
  induction p generalizing s world with
  | done value => rfl
  | access update next ih => exact ih s
  | ask call next ih => exact congrArg ((call, call.failure? (answer call world).1) :: ·) (ih _)

theorem attempts_call_bind {call : Call} {k : call.Answer → Operation S β} :
    (Operation.call call >>= k).attempts answer s world =
      (call, call.failure? (answer call world).1) ::
        (k (answer call world).1).attempts answer s (answer call world).2 :=
  rfl

end Operation

open Operation

/-- Which calls of a list are made if one is made after the other until one fails, and what comes of
it. -/
inductive InTurn :
    List Call → List (Call × Option EngineError) → Except EngineError Unit → Prop
  | nil : InTurn [] [] (.ok ())
  | failed (call : Call) (rest : List Call) (error : EngineError) :
    InTurn (call :: rest) [(call, some error)] (.error error)
  | went {calls : List Call} {made : List (Call × Option EngineError)}
    {result : Except EngineError Unit} (call : Call) (h : InTurn calls made result) :
    InTurn (call :: calls) ((call, none) :: made) result

namespace InTurn

variable {calls more : List Call} {made : List (Call × Option EngineError)}
  {result : Except EngineError Unit} {error : EngineError}

theorem calls_prefix (h : InTurn calls made result) : made.map Prod.fst <+: calls := by
  induction h with
  | nil => exact List.prefix_rfl
  | failed call rest error => exact ⟨rest, rfl⟩
  | went call h ih => exact (List.prefix_cons_inj call).mpr ih

theorem result_eq (h : InTurn calls made result) :
    result = match made.findSome? Prod.snd with
      | some error => .error error
      | none => .ok () := by
  induction h with
  | nil => rfl
  | failed => rfl
  | went call h ih => exact ih

theorem eq_ok_iff (h : InTurn calls made result) :
    result = .ok () ↔ ∀ attempt ∈ made, attempt.2 = none := by
  rw [h.result_eq, ← List.findSome?_eq_none_iff]
  cases made.findSome? Prod.snd with
  | none => exact iff_of_true rfl rfl
  | some error => exact iff_of_false nofun nofun

theorem eq_error_iff (h : InTurn calls made result) :
    result = .error error ↔ made.findSome? Prod.snd = some error := by
  rw [h.result_eq]
  cases made.findSome? Prod.snd with
  | none => exact iff_of_false nofun nofun
  | some first => rw [Except.error.injEq, Option.some.injEq]

theorem eq_none_of_mem_dropLast (h : InTurn calls made result) :
    ∀ attempt ∈ made.dropLast, attempt.2 = none := by
  induction h with
  | nil => exact nofun
  | failed => exact nofun
  | @went calls made result call h ih =>
    cases made with
    | nil => exact nofun
    | cons first rest =>
      rintro attempt (_ | ⟨_, hMem⟩)
      · rfl
      · exact ih attempt hMem

theorem map_fst_pair (calls : List Call) :
    (calls.map fun call => (call, (none : Option EngineError))).map Prod.fst = calls := by
  rw [List.map_map]
  exact List.map_id calls

theorem made_eq_of_ok (h : InTurn calls made (.ok ())) :
    made = calls.map fun call => (call, none) := by
  generalize hResult : Except.ok () = result at h
  induction h with
  | nil => rfl
  | failed => cases hResult
  | went call h ih => exact congrArg ((call, none) :: ·) (ih hResult)

theorem map_fst_of_singleton {call : Call} (h : InTurn [call] made result) :
    made.map Prod.fst = [call] := by
  cases h with
  | failed => rfl
  | went _ hRest =>
    cases hRest
    rfl

theorem eq_ok_of_prefix (h : InTurn calls made result)
    (hAll : (calls.map fun call => (call, none)) <+: made) : result = .ok () := by
  have hLength : made.length ≤ (calls.map fun call => (call, (none : Option EngineError))).length := by
    rw [List.length_map, ← List.length_map (f := Prod.fst)]
    exact h.calls_prefix.length_le
  rw [h.eq_ok_iff, ← hAll.eq_of_length_le hLength]
  intro attempt hMem
  obtain ⟨call, _, rfl⟩ := List.mem_map.mp hMem
  rfl

theorem append_iff : InTurn (calls ++ more) made result ↔
    (∃ error, result = .error error ∧ InTurn calls made (.error error)) ∨
      ∃ last, made = (calls.map fun call => (call, none)) ++ last ∧ InTurn more last result := by
  induction calls generalizing made with
  | nil =>
    constructor
    · intro h
      exact .inr ⟨made, rfl, h⟩
    · rintro (⟨error, _, hFirst⟩ | ⟨last, rfl, hLast⟩)
      · cases hFirst
      · exact hLast
  | cons call rest ih =>
    constructor
    · rintro (_ | ⟨_, _, error⟩ | ⟨_, h⟩)
      · exact .inl ⟨error, rfl, .failed call rest error⟩
      · obtain ⟨error, hResult, hFirst⟩ | ⟨last, rfl, hLast⟩ := ih.mp h
        · exact .inl ⟨error, hResult, .went call hFirst⟩
        · exact .inr ⟨last, rfl, hLast⟩
    · rintro (⟨error, rfl, _ | ⟨_, _, _⟩ | ⟨_, hFirst⟩⟩ | ⟨last, rfl, hLast⟩)
      · exact .failed call (rest ++ more) error
      · exact .went call (ih.mpr (.inl ⟨error, rfl, hFirst⟩))
      · exact .went call (ih.mpr (.inr ⟨last, rfl, hLast⟩))

end InTurn

section Delivery

variable {S σ : Type} {answer : Collaborators σ} {s : S} {world : σ} {confirmation : Confirmation}
  {made : List (Call × Option EngineError)} {result : Except EngineError Unit}

theorem sendAll_inTurn (messages : List Message) :
    InTurn (messages.map .send)
      ((sendAll messages : Operation S (Except EngineError Unit)).attempts answer s world)
      ((sendAll messages : Operation S (Except EngineError Unit)).run answer s world).value := by
  induction messages generalizing world with
  | nil => exact .nil
  | cons message rest ih =>
    rw [sendAll, attempts_call_bind, run_call_bind]
    obtain error | _ := (answer (.send message) world).1
    · exact .failed (.send message) (rest.map .send) error
    · exact .went (.send message) ih

namespace Confirmation

def deliveries (confirmation : Confirmation) : List Call :=
  confirmation.messages.map .send ++ confirmation.signatures.toList.map .upload

theorem deliver_inTurn (confirmation : Confirmation) :
    InTurn confirmation.deliveries (confirmation.deliver.attempts answer s world)
      (confirmation.deliver.run answer s world).value := by
  have hSent : InTurn (confirmation.messages.map .send)
      ((sendAll confirmation.messages).attempts answer s world)
      ((sendAll confirmation.messages).run answer s world).value :=
    sendAll_inTurn confirmation.messages
  rw [deliver, deliveries, attempts_bind, run_bind, InTurn.append_iff]
  generalize (sendAll confirmation.messages).run answer s world = sent at hSent ⊢
  obtain ⟨error | _, s, world, calls⟩ := sent
  · refine .inl ⟨error, rfl, ?_⟩
    dsimp only
    rwa [pure_eq, attempts, List.append_nil]
  · refine .inr ⟨_, congrArg (· ++ _) hSent.made_eq_of_ok, ?_⟩
    obtain _ | signatures := confirmation.signatures
    · exact .nil
    · show InTurn [.upload signatures]
        [(.upload signatures, (Call.upload signatures).failure? (answer (.upload signatures) world).1)]
        (answer (.upload signatures) world).1
      obtain error | _ := (answer (.upload signatures) world).1
      · exact .failed (.upload signatures) [] error
      · exact .went (.upload signatures) .nil

theorem upload_not_mem {signatures : Json} {calls : List Call} {messages : List Message}
    (h : calls <+: messages.map .send) : .upload signatures ∉ calls := by
  intro hMem
  obtain ⟨message, _, hCall⟩ := List.mem_map.mp (h.subset hMem)
  cases hCall

theorem upload_mem_iff (h : InTurn confirmation.deliveries made result) {signatures : Json} :
    .upload signatures ∈ made.map Prod.fst ↔ confirmation.signatures = some signatures ∧
      (confirmation.messages.map fun message => (Call.send message, none)) <+: made := by
  obtain ⟨error, rfl, hFirst⟩ | ⟨last, rfl, hLast⟩ := InTurn.append_iff.mp h
  · refine iff_of_false (upload_not_mem hFirst.calls_prefix) ?_
    rintro ⟨_, hAll⟩
    have hOk : Except.error error = .ok () :=
      hFirst.eq_ok_of_prefix (by rwa [List.map_map])
    cases hOk
  · have hSent : (confirmation.messages.map fun message => (Call.send message, none)) <+:
        (confirmation.messages.map Call.send).map (fun call => (call, none)) ++ last := by
      rw [List.map_map]
      exact List.prefix_append _ last
    rw [and_iff_left hSent, List.map_append, InTurn.map_fst_pair, List.mem_append,
      or_iff_right (upload_not_mem List.prefix_rfl)]
    revert hLast
    obtain _ | own := confirmation.signatures
    · rintro (_ | _)
      exact iff_of_false List.not_mem_nil nofun
    · intro hLast
      rw [hLast.map_fst_of_singleton, List.mem_singleton, Call.upload.injEq, Option.some.injEq]
      exact eq_comm

/-- How a confirmation is delivered, by the calls that are made and what comes of it. -/
structure DeliveredInTurn (confirmation : Confirmation) (made : List (Call × Option EngineError))
    (result : Except EngineError Unit) : Prop where
  /-- The messages go out in their order, then the signatures, and nothing else does. -/
  ordered : made.map Prod.fst <+: confirmation.deliveries
  stops : ∀ attempt ∈ made.dropLast, attempt.2 = none
  /-- Nothing but a failure keeps anything back. -/
  complete : (∀ attempt ∈ made, attempt.2 = none) → made.map Prod.fst = confirmation.deliveries
  uploads_iff : ∀ signatures, .upload signatures ∈ made.map Prod.fst ↔
    confirmation.signatures = some signatures ∧
      (confirmation.messages.map fun message => (Call.send message, none)) <+: made
  ok_iff : result = .ok () ↔ ∀ attempt ∈ made, attempt.2 = none
  error_iff : ∀ error, result = .error error ↔ made.findSome? Prod.snd = some error

theorem DeliveredInTurn.of_inTurn (h : InTurn confirmation.deliveries made result) :
    confirmation.DeliveredInTurn made result where
  ordered := h.calls_prefix
  stops := h.eq_none_of_mem_dropLast
  complete hAll := by
    rw [h.eq_ok_iff.mpr hAll] at h
    rw [h.made_eq_of_ok, InTurn.map_fst_pair]
  uploads_iff _ := upload_mem_iff h
  ok_iff := h.eq_ok_iff
  error_iff _ := h.eq_error_iff

end Confirmation

theorem value_confirmAndDeliver_iff {user : UserId} {flow : String} :
    ((confirmAndDeliver user flow).run answer s world).value = some confirmation ↔
      (answer (.confirm user flow) world).1 = .ok (some confirmation) ∧
        (confirmation.deliver.run answer s (answer (.confirm user flow) world).2).value = .ok () := by
  rw [confirmAndDeliver, run_call_bind]
  obtain error | _ | given := (answer (.confirm user flow) world).1
  · refine iff_of_false nofun ?_
    rintro ⟨⟨⟩, _⟩
  · refine iff_of_false nofun ?_
    rintro ⟨⟨⟩, _⟩
  · dsimp only
    rw [run_bind]
    generalize hRun : given.deliver.run answer s (answer (.confirm user flow) world).2 = delivered
    obtain ⟨error | _, t, last, calls⟩ := delivered
    · refine iff_of_false nofun ?_
      rintro ⟨⟨⟩, hOk⟩
      rw [hRun] at hOk
      cases hOk
    · constructor
      · rintro ⟨⟩
        exact ⟨rfl, congrArg Finished.value hRun⟩
      · rintro ⟨⟨⟩, _⟩
        rfl

/-- Signatures go out last and only after everything else, and what is confirmed stays as it is: the
state in which the flow is kept is neither read nor changed by its confirmation, whatever comes of it. -/
theorem signatures_go_out_last (answer : Collaborators σ) (s : S) (world : σ) :
    (∀ confirmation : Confirmation,
      (confirmation.deliver.attempts answer s world).map Prod.fst =
        (confirmation.deliver.run answer s world).calls ∧
      confirmation.DeliveredInTurn (confirmation.deliver.attempts answer s world)
        (confirmation.deliver.run answer s world).value) ∧
    (∀ sas : Sas,
      (∀ confirmation, (sas.confirm.run answer s world).value = some confirmation ↔
        (answer (.confirm sas.info.otherUser sas.info.flow.text) world).1 = .ok (some confirmation) ∧
          (confirmation.deliver.run answer s
            (answer (.confirm sas.info.otherUser sas.info.flow.text) world).2).value = .ok ()) ∧
      (sas.confirm : Operation S (Option Confirmation)).CallsOnly ∧
      (sas.confirm.run answer s world).state = s) ∧
    ∀ (qr : QrCode) (scanned : Bool), (qr.scannedByOther scanned : Operation S Unit).CallsOnly ∧
      ((qr.scannedByOther scanned).run answer s world).state = s := by
  refine ⟨fun confirmation => ⟨map_fst_attempts, .of_inTurn confirmation.deliver_inTurn⟩, ?_, ?_⟩
  · intro sas
    have hCalls : (sas.confirm : Operation S (Option Confirmation)).CallsOnly :=
      confirmAndDeliver_callsOnly sas.info.otherUser sas.info.flow.text
    exact ⟨fun confirmation => value_confirmAndDeliver_iff, hCalls, hCalls.state_run⟩
  · intro qr scanned
    have hCalls := qr.scannedByOther_callsOnly (S := S) scanned
    exact ⟨hCalls, hCalls.state_run⟩

end Delivery

end DeviceTrust
