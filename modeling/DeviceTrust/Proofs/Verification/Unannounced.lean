import DeviceTrust.Proofs.Verification.Negotiation
import DeviceTrust.Proofs.Verification.SasHistory
/-! # Unannounced changes

A report is announced if it moves the state, and what it tells besides is taken down before that. So a
report that leads where a request or a flow is already goes unnoticed together with all that it changes:
the methods and the device of a request that is ready, and the short auth strings that are shown. Of a
flow of QR codes a report tells nothing besides.
-/

namespace DeviceTrust

namespace Lifecycle

variable {α σ υ : Type} {life : Lifecycle α σ υ} {a noted : α} {target : σ} {update : υ}

def KeepsStill (life : Lifecycle α σ υ) (a : α) (update : υ) : Prop :=
  (life.apply a update).2 = false → (life.apply a update).1 = a

theorem keepsStill_of_terminal (h : life.isTerminal (life.state a) = true) :
    life.KeepsStill a update :=
  fun _ => congrArg Prod.fst (life.apply_of_terminal a update h)

/-- Where moves of the state are announced, what is noted while the state stays goes unnoticed. -/
theorem keepsStill_iff (withState : α → σ → α)
    (hMoves : (life.apply a update).2 = true ↔ life.state (life.apply a update).1 ≠ life.state a)
    (hNext : (life.apply a update).1 = withState noted target)
    (hTarget : life.state (withState noted target) = target)
    (hSame : withState noted (life.state a) = noted) :
    life.KeepsStill a update ↔ (target = life.state a → noted = a) := by
  have hQuiet : (life.apply a update).2 = false ↔ target = life.state a := by
    rw [← Bool.not_eq_true, hMoves, not_not, hNext, hTarget]
  rw [KeepsStill, hQuiet, hNext]
  refine imp_congr_right fun hState => ?_
  rw [hState, hSame]

end Lifecycle

namespace Request

/-- Other methods or another device are named for a request that is ready. -/
def Renegotiates (request : Request) : RequestUpdate → Prop
  | .ready theirs ours device => request.state = .ready ∧
    ¬ (request.theirMethods = some theirs ∧ request.ourMethods = some ours ∧
      (device = none ∨ device = request.otherDevice))
  | _ => False

variable {request : Request} {update : RequestUpdate}

theorem note_with_state (request : Request) (update : RequestUpdate) :
    { request.note update with state := request.state } = request.note update := by
  cases update <;> rfl

theorem keepsStill_iff_note (hLive : request.state.isTerminal = false) :
    life.KeepsStill request update ↔
      (request.target update = request.state → request.note update = request) :=
  Lifecycle.keepsStill_iff (fun (noted : Request) state => { noted with state }) apply_snd_iff
    (apply_of_live hLive update) rfl (note_with_state request update)

theorem note_ready_eq_iff {theirs ours : List Method} {device : Option String} :
    request.note (.ready theirs ours device) = request ↔
      request.theirMethods = some theirs ∧ request.ourMethods = some ours ∧
        (device = none ∨ device = request.otherDevice) := by
  have hDevice : (device <|> request.otherDevice) = request.otherDevice ↔
      device = none ∨ device = request.otherDevice := by
    cases device <;> simp
  rw [note, mk.injEq]
  simp only [hDevice, true_and, and_true, eq_comm (a := some _)]
  exact and_comm.trans and_assoc

theorem keepsStill_iff (request : Request) (update : RequestUpdate) :
    life.KeepsStill request update ↔ ¬ request.Renegotiates update := by
  cases hOver : request.state.isTerminal with
  | true =>
    refine iff_of_true (Lifecycle.keepsStill_of_terminal hOver) fun hAgain => ?_
    cases update with
    | ready => exact state_ne_of_terminal hOver rfl hAgain.1
    | _ => exact hAgain
  | false =>
    rw [keepsStill_iff_note hOver]
    cases update with
    | requested | done => exact iff_of_true (fun _ => rfl) id
    | cancelled info =>
      exact iff_of_true (fun hState => absurd hState (ofCancel_ne hOver info request.state)) id
    | ready theirs ours device =>
      rw [note_ready_eq_iff, Renegotiates, not_and, not_not, target, eq_comm]

end Request

namespace Sas

/-- Keys for other short auth strings are exchanged while some are shown. -/
def Rekeys (sas : Sas) : SasUpdate → Prop
  | .keysExchanged emoji decimals => sas.state = .showSas ∧
    ¬ (sas.emoji = some (Emoji.ofIndices emoji) ∧ sas.decimals = some (decimalText decimals))
  | _ => False

variable {sas : Sas} {update : SasUpdate}

theorem note_with_state (sas : Sas) (update : SasUpdate) :
    { sas.note update with state := sas.state } = sas.note update := by
  cases update <;> rfl

theorem keepsStill_iff_note (hTakes : sas.takes update = true) :
    life.KeepsStill sas update ↔ (update.target = sas.state → sas.note update = sas) :=
  Lifecycle.keepsStill_iff (fun (noted : Sas) state => { noted with state }) apply_snd_iff
    (apply_of_takes hTakes) rfl (note_with_state sas update)

theorem keepsStill_iff (sas : Sas) (update : SasUpdate) :
    life.KeepsStill sas update ↔ ¬ sas.Rekeys update := by
  cases hTakes : sas.takes update with
  | false =>
    refine iff_of_true (fun _ => congrArg Prod.fst (apply_of_not_takes hTakes)) fun hAgain => ?_
    cases update with
    | keysExchanged =>
      rw [takes, hAgain.1] at hTakes
      cases hTakes
    | _ => exact hAgain
  | true =>
    rw [keepsStill_iff_note hTakes]
    cases update with
    | created | started | accepted | confirmed | done => exact iff_of_true (fun _ => rfl) id
    | cancelled info =>
      refine iff_of_true (fun hState => ?_) id
      have hOver := isTerminal_ofCancel info
      rw [takes, ← hState, SasUpdate.target, hOver] at hTakes
      cases hTakes
    | keysExchanged emoji decimals =>
      have hNote : sas.note (.keysExchanged emoji decimals) = sas ↔
          sas.emoji = some (Emoji.ofIndices emoji) ∧
            sas.decimals = some (decimalText decimals) := by
        rw [note, mk.injEq]
        simp only [true_and, and_true, eq_comm (a := some _)]
      rw [hNote, Rekeys, not_and, not_not, SasUpdate.target, eq_comm]

end Sas

namespace QrCode

variable {qr : QrCode} {update : QrUpdate}

theorem note_with_state (qr : QrCode) (update : QrUpdate) :
    { qr.note update with state := qr.state } = qr.note update := by
  cases update <;> rfl

theorem keepsStill_iff_note (hLive : qr.state.isTerminal = false) :
    life.KeepsStill qr update ↔ (qr.target update = qr.state → qr.note update = qr) :=
  Lifecycle.keepsStill_iff (fun (noted : QrCode) state => { noted with state }) apply_snd_iff
    (apply_of_live hLive update) rfl (note_with_state qr update)

theorem keepsStill (qr : QrCode) (update : QrUpdate) : life.KeepsStill qr update := by
  cases hOver : qr.state.isTerminal with
  | true => exact Lifecycle.keepsStill_of_terminal hOver
  | false =>
    rw [keepsStill_iff_note hOver]
    intro hState
    cases update with
    | cancelled info =>
      rw [← hState] at hOver
      cases hOver.symm.trans (life.isTerminal_afterCancel info qr.state)
    | _ => rfl

end QrCode

inductive Report where
  | ofRequest (request : Request) (update : RequestUpdate)
  | ofSas (sas : Sas) (update : SasUpdate)
  | ofQr (qr : QrCode) (update : QrUpdate)

namespace Report

def KeepsStill : Report → Prop
  | ofRequest request update => Request.life.KeepsStill request update
  | ofSas sas update => Sas.life.KeepsStill sas update
  | ofQr qr update => QrCode.life.KeepsStill qr update

/-- The report tells otherwise what was told before, and leads nowhere. -/
def Revises : Report → Prop
  | ofRequest request update => request.Renegotiates update
  | ofSas sas update => sas.Rekeys update
  | ofQr .. => False

/-- Whatever is reported, what is not announced changes nothing, except that a request that is ready
gets other methods or another device, and a flow that shows short auth strings gets others. -/
theorem keepsStill_iff_not_revises (report : Report) : report.KeepsStill ↔ ¬ report.Revises := by
  cases report with
  | ofRequest request update => exact request.keepsStill_iff update
  | ofSas sas update => exact sas.keepsStill_iff update
  | ofQr qr update => exact iff_of_true (qr.keepsStill update) id

end Report

namespace Sas.Sample

def shown : Sas :=
  life.follow (.new (.startedBy .bob "flow"))
    [.started, .accepted, .keysExchanged [0] [1000]]

end Sas.Sample

open Sas.Sample in
theorem shown_strings_are_replaced :
    shown.state = .showSas ∧ (shown.apply (.keysExchanged [1] [2000])).2 = false ∧
      shown.emoji ≠ (shown.apply (.keysExchanged [1] [2000])).1.emoji ∧
      shown.decimals ≠ (shown.apply (.keysExchanged [1] [2000])).1.decimals ∧
      ¬ (Report.ofSas shown (.keysExchanged [1] [2000])).KeepsStill := by
  have hEmoji : shown.emoji ≠ (shown.apply (.keysExchanged [1] [2000])).1.emoji := by decide
  refine ⟨rfl, rfl, hEmoji, by decide, fun hStill => hEmoji ?_⟩
  exact congrArg Sas.emoji (hStill rfl).symm

end DeviceTrust
