import DeviceTrust.Proofs.Json.Record
import DeviceTrust.Verification.CancelCode
/-! # Tokens of cancel codes

A code is as good as its token: every way to write it writes the token, and every way to read it reads
the code that has the token. The one code that is not read back is a kept token that the protocol has a
code for.
-/

namespace DeviceTrust

def EventCodes.KeepsTokens (codes : EventCodes) : Prop :=
  ∀ token, codes.token (codes.ofToken token) = token

namespace CancelCode

variable {code : CancelCode} {codes : EventCodes} {token another : String}

def HasOwnCode (token : String) : Prop :=
  ∃ code : CancelCode, code.token = token ∧ ∀ kept, code ≠ .other kept

/-- A kept token that the protocol has a code for. -/
def Shadowed (code : CancelCode) : Prop := ∃ token, code = .other token ∧ HasOwnCode token

theorem ofToken_eq_other (h : ¬ HasOwnCode token) : ofToken token = .other token := by
  have hToken := token_ofToken token
  cases hCode : ofToken token with
  | other kept =>
    rw [hCode] at hToken
    exact congrArg other hToken
  | _ => exact absurd ⟨_, hToken, by simp [hCode]⟩ h

theorem ofToken_token_iff : ofToken code.token = code ↔ ¬ code.Shadowed := by
  constructor
  · rintro hBack ⟨_, rfl, own, rfl, hOwn⟩
    have hBoth : own = .other own.token := (ofToken_token hOwn).symm.trans hBack
    exact hOwn _ hBoth
  · intro h
    cases code with
    | other token => exact ofToken_eq_other fun hOwn => h ⟨token, rfl, hOwn⟩
    | _ => exact ofToken_token nofun

theorem ofToken_inj : ofToken token = ofToken another ↔ token = another := by
  constructor
  · intro h
    rw [← token_ofToken token, h, token_ofToken]
  · rintro rfl
    rfl

theorem decode_eq_some_iff {json : Json} :
    Codec.decode json = some code ↔ json = .text code.token ∧ ¬ code.Shadowed := by
  change json.text?.map ofToken = some code ↔ _
  simp only [Option.map_eq_some_iff, Codec.text?_eq_some_iff, ← ofToken_token_iff]
  constructor
  · rintro ⟨token, rfl, rfl⟩
    simp [token_ofToken]
  · rintro ⟨rfl, hBack⟩
    exact ⟨code.token, rfl, hBack⟩

theorem token_toEventCode (hKeeps : codes.KeepsTokens) :
    codes.token (code.toEventCode codes) = code.token :=
  hKeeps code.token

theorem ofEventCode_toEventCode (hKeeps : codes.KeepsTokens) :
    ofEventCode codes (code.toEventCode codes) = ofToken code.token := by
  rw [ofEventCode, token_toEventCode hKeeps]

/-- Every form of the code with this token is the token, and is read back as that code. -/
structure Survives (codes : EventCodes) (token : String) : Prop where
  written : (ofToken token).token = token
  displayed : toString (ofToken token) = token
  encoded : Codec.encode (ofToken token) = .text token
  sent : codes.token ((ofToken token).toEventCode codes) = token
  reread : ofToken (ofToken token).token = ofToken token
  redisplayed : ofToken (toString (ofToken token)) = ofToken token
  decoded : Codec.decode (Codec.encode (ofToken token)) = some (ofToken token)
  received : ofEventCode codes ((ofToken token).toEventCode codes) = ofToken token

theorem survives (hKeeps : codes.KeepsTokens) (token : String) : Survives codes token := by
  have hToken := token_ofToken token
  have hBack : ofToken (ofToken token).token = ofToken token := by rw [hToken]
  exact
    { written := hToken
      displayed := hToken
      encoded := congrArg Json.text hToken
      sent := (token_toEventCode hKeeps).trans hToken
      reread := hBack
      redisplayed := hBack
      decoded := decode_eq_some_iff.mpr ⟨rfl, ofToken_token_iff.mp hBack⟩
      received := (ofEventCode_toEventCode hKeeps).trans hBack }

/-- A token goes through every conversion, and a code does if it is not shadowed; no reading makes one that
is. So codes that were read are the same code just when their tokens are the same. -/
theorem tokens_survive_conversions (codes : EventCodes) (hKeeps : codes.KeepsTokens) :
    (∀ token, Survives codes token) ∧
    (∀ code : CancelCode, ofToken code.token = code ↔ ¬ code.Shadowed) ∧
    (∀ json (code : CancelCode),
      Codec.decode json = some code ↔ json = .text code.token ∧ ¬ code.Shadowed) ∧
    (∀ code, (ofEventCode codes code).token = codes.token code) ∧
    ∀ token another,
      ofToken token = ofToken another ↔ (ofToken token).token = (ofToken another).token := by
  refine ⟨survives hKeeps, fun _ => ofToken_token_iff, fun _ _ => decode_eq_some_iff,
    fun code => token_ofToken (codes.token code), ?_⟩
  intro token another
  rw [token_ofToken, token_ofToken, ofToken_inj]

/-- Typed events here have codes that keep their tokens as the ones above do. -/
theorem custom_token_survives :
    EventCodes.KeepsTokens ⟨CancelCode, ofToken, CancelCode.token⟩ ∧
      Survives ⟨CancelCode, ofToken, CancelCode.token⟩ "m.key_mismatch" ∧
      Survives ⟨CancelCode, ofToken, CancelCode.token⟩ "org.example.custom" ∧
      ofToken (CancelCode.token (.other "m.user")) ≠ .other "m.user" := by
  have hKeeps : EventCodes.KeepsTokens ⟨CancelCode, ofToken, CancelCode.token⟩ := token_ofToken
  obtain ⟨hSurvives, hBack, -⟩ := tokens_survive_conversions _ hKeeps
  refine ⟨hKeeps, hSurvives _, hSurvives _, fun hUser => ?_⟩
  exact (hBack _).mp hUser ⟨"m.user", rfl, user, rfl, nofun⟩

end CancelCode

end DeviceTrust
