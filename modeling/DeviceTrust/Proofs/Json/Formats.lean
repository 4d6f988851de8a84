import DeviceTrust.Proofs.Json.Spelling
import DeviceTrust.RoomKey.Info
import DeviceTrust.Version
import DeviceTrust.Trust.Level
import DeviceTrust.Trust.Summary
/-! # The written forms of the data

Whatever is written is read back, and whatever is read from the JSON of others is written and read again
without a change. Counts are the one place where this needs care: a number has 64 bits, and a total that is
too small is raised when it is read.
-/

namespace DeviceTrust

open Record

namespace TrustSummary

/-- A summary whose counts have 64 bits. -/
def Fits (summary : TrustSummary) : Prop := summary.total < UInt64.size

/-- JSON that gives two counts, of which the total is raised if it is the smaller one. -/
def ReadFrom (summary : TrustSummary) (json : Json) : Prop :=
  ∃ trusted total, trusted < UInt64.size ∧ total < UInt64.size ∧
    json.Pairs "trusted_count" "total_count" (Codec.encodeNat trusted) (Codec.encodeNat total) ∧
    summary.trusted = trusted ∧ summary.total = max total trusted

theorem new_eq_iff {summary : TrustSummary} {trusted total : Nat} :
    new trusted total = summary ↔ summary.trusted = trusted ∧ summary.total = max total trusted := by
  cases summary
  simp [new, eq_comm]

theorem decode_eq_some_iff {summary : TrustSummary} {json : Json} :
    Codec.decode json = some summary ↔ summary.ReadFrom json := by
  change Record.decode reader json = some summary ↔ _
  rw [reader, Record.decode_pair_eq_some_iff ⟨rfl, rfl⟩ ⟨rfl, rfl⟩]
  simp only [count, Codec.decodeBelow_eq_some_iff, new_eq_iff]
  constructor
  · rintro ⟨_, _, hPairs, trusted, total, ⟨rfl, hTrusted⟩, ⟨rfl, hTotal⟩, h⟩
    exact ⟨trusted, total, hTrusted, hTotal, hPairs, h⟩
  · rintro ⟨trusted, total, hTrusted, hTotal, hPairs, h⟩
    exact ⟨_, _, hPairs, trusted, total, ⟨rfl, hTrusted⟩, ⟨rfl, hTotal⟩, h⟩

theorem ReadFrom.fits {summary : TrustSummary} {json : Json} (h : summary.ReadFrom json) :
    summary.Fits := by
  obtain ⟨trusted, total, hTrusted, hTotal, -, -, hMax⟩ := h
  rw [Fits, hMax]
  exact Nat.max_lt.mpr ⟨hTotal, hTrusted⟩

theorem ReadFrom.trusted_le_total {summary : TrustSummary} {json : Json} (h : summary.ReadFrom json) :
    summary.trusted ≤ summary.total := by
  obtain ⟨trusted, total, -, -, -, hTrusted, hTotal⟩ := h
  rw [hTrusted, hTotal]
  exact Nat.le_max_right ..

theorem legible : Legible TrustSummary Fits [] [] := by
  refine .of_reads (fun _ => rfl) (fun _ => rfl) (fun _ => by simp [Codec.encode, Json.fields])
    (fun _ _ h => (decode_eq_some_iff.mp h).fits) fun summary hFits => ?_
  have hTrusted : summary.trusted < UInt64.size := Nat.lt_of_le_of_lt summary.trusted_le_total hFits
  have hSame : new summary.trusted summary.total = summary :=
    new_eq_iff.mpr ⟨rfl, (Nat.max_eq_left summary.trusted_le_total).symm⟩
  refine .needed (Codec.decodeBelow_encodeNat hTrusted) (by simp) ?_
  refine .needed (Codec.decodeBelow_encodeNat hFits) (by simp) ?_
  rw [hSame]
  exact .done

end TrustSummary

namespace PopulationSummary

def Fits (summary : PopulationSummary) : Prop := summary.users.Fits ∧ summary.devices.Fits

def ReadFrom (summary : PopulationSummary) (json : Json) : Prop :=
  ∃ users devices, json.Pairs "users_trust" "devices_trust" users devices ∧
    summary.users.ReadFrom users ∧ summary.devices.ReadFrom devices

theorem decode_eq_some_iff {summary : PopulationSummary} {json : Json} :
    Codec.decode json = some summary ↔ summary.ReadFrom json := by
  change Record.decode reader json = some summary ↔ _
  rw [reader, Record.decode_pair_eq_some_iff ⟨rfl, rfl⟩ ⟨rfl, rfl⟩]
  simp only [Field.required, TrustSummary.decode_eq_some_iff]
  refine exists_congr fun _ => exists_congr fun _ => and_congr_right fun _ => ?_
  constructor
  · rintro ⟨users, devices, hUsers, hDevices, rfl⟩
    exact ⟨hUsers, hDevices⟩
  · rintro ⟨hUsers, hDevices⟩
    exact ⟨_, _, hUsers, hDevices, rfl⟩

theorem legible : Legible PopulationSummary Fits [] [] := by
  refine .of_reads (fun _ => rfl) (fun _ => rfl) (fun _ => by simp [Codec.encode, Json.fields])
    (fun _ _ h => ?_) fun summary hFits => ?_
  · obtain ⟨_, _, -, hUsers, hDevices⟩ := decode_eq_some_iff.mp h
    exact ⟨hUsers.fits, hDevices.fits⟩
  · refine .needed (TrustSummary.legible.written hFits.1) (by simp) ?_
    exact .needed (TrustSummary.legible.written hFits.2) (by simp) .done

end PopulationSummary

theorem Device.legible : Legible Device (fun _ => True) [("curve25519_key", .null)] [] := by
  refine .of_all_reads (fun _ => rfl) (fun _ => rfl) (fun _ => by simp [Codec.encode, Json.fields])
    fun device => ?_
  refine .required (by simp) (.required (by simp) ?_)
  refine .optional Codec.Faithful.decode_encode (fun _ => nofun) (by simp) ?_
  exact .required (by simp) (.required (by simp) .done)

theorem DeviceLevel.legible : Legible DeviceLevel (fun _ => True) [] [] :=
  .of_all_reads (fun _ => rfl) (fun _ => rfl) (fun _ => by simp [Codec.encode, Json.fields])
    fun _ => .plain (.plain .done)

theorem UserLevel.legible : Legible UserLevel (fun _ => True) [] [] :=
  .of_all_reads (fun _ => rfl) (fun _ => rfl) (fun _ => by simp [Codec.encode, Json.fields])
    fun _ => .plain (.plain .done)

theorem RequestedKey.legible : Legible RequestedKey (fun _ => True) [] [] :=
  .of_all_reads (fun _ => rfl) (fun _ => rfl) (fun _ => by simp [Codec.encode, Json.fields])
    fun _ => .plain (.plain (.plain (.plain .done)))

instance : Codec.Faithful RequestedKey := ⟨fun _ => RequestedKey.legible.written trivial⟩

theorem KeyRequest.legible : Legible KeyRequest (fun _ => True) [] [] :=
  .of_all_reads (fun _ => rfl) (fun _ => rfl) (fun _ => by simp [Codec.encode, Json.fields])
    fun _ => .plain (.plain (.plain .done))

theorem RoomKeyEvent.legible :
    Legible RoomKeyEvent (fun _ => True) [("sender_key", .null), ("keys_claimed", .null)] [] := by
  refine .of_all_reads (fun _ => rfl) (fun _ => rfl) (fun _ => by simp [Codec.encode, Json.fields])
    fun event => ?_
  refine .required (by simp) (.required (by simp) ?_)
  refine .optional Codec.Faithful.decode_encode (fun _ => nofun) (by simp) ?_
  refine .optional Codec.decodeTexts_encodeTexts (fun _ => nofun) (by simp) ?_
  exact .required (by simp) .done

theorem RoomKeyInfo.legible :
    Legible RoomKeyInfo (fun _ => True) [("forwarding_key_chain", .null)] [] := by
  refine .of_all_reads (fun _ => rfl) (fun _ => rfl) (fun _ => by simp [Codec.encode, Json.fields])
    fun info => ?_
  refine .required (by simp) (.required (by simp) ?_)
  refine .required (by simp) (.required (by simp) ?_)
  refine .required (by simp) ?_
  refine .optional Codec.Faithful.decode_encode (fun _ => nofun) (by simp) ?_
  refine .needed (Codec.decodeTexts_encodeTexts info.claimedKeys) (by simp [claimed]) ?_
  exact .required (by simp) (.required (by simp) .done)

namespace Duration

theorem reads (d : Duration) : Reads [] [] reader
    [("secs", Codec.encodeNat d.seconds), ("nanos", Codec.encodeNat d.nanoseconds)]
    (d.seconds, d.nanoseconds) := by
  have hNanoseconds : d.nanoseconds < UInt32.size := Nat.lt_trans d.nanoseconds_lt (by decide)
  refine .needed (Codec.decodeBelow_encodeNat d.seconds_lt) (by simp) ?_
  exact .needed (Codec.decodeBelow_encodeNat hNanoseconds) (by simp) .done

instance : Codec.Faithful Duration where
  decode_encode d := by
    -- The one object that is refused for other names; a written duration has none.
    have hNames : hasOtherNames (Codec.encode d) = false := by simp [Codec.encode, hasOtherNames]
    have hRead : Record.decode reader (Codec.encode d) = some (d.seconds, d.nanoseconds) :=
      d.reads.decode_written (by simp)
    change (if hasOtherNames (Codec.encode d) then none else
      (Record.decode reader (Codec.encode d)).bind fun (s, n) => ofParts? s n) = some d
    rw [hNames, hRead]
    exact ofParts?_self d

end Duration

theorem Settings.legible : Legible Settings (fun _ => True)
    (Codec.encode Settings.default).fields (Codec.encode Settings.default).fields := by
  have hNames (settings : Settings) : ((Codec.encode settings).fields.map (·.1)).Nodup := by
    simp [Codec.encode, Json.fields]
  refine .of_all_reads (fun _ => rfl) (fun _ => rfl) hNames fun settings => ?_
  refine .defaulted (hNames _) rfl (.defaulted (hNames _) rfl ?_)
  exact .defaulted (hNames _) rfl (.defaulted (hNames _) rfl .done)

/-- What is written of the data is read back, and what is read of it is read again the same. The lists of
fields are those that may be left out of an object and off the end of a list. -/
structure FormatsReadBack : Prop where
  roomKeyEvent : Legible RoomKeyEvent (fun _ => True) [("sender_key", .null), ("keys_claimed", .null)] []
  device : Legible Device (fun _ => True) [("curve25519_key", .null)] []
  deviceLevel : Legible DeviceLevel (fun _ => True) [] []
  localTrust : Codec.ReadsBack LocalTrust (fun _ => True)
  localStatus : Codec.ReadsBack LocalStatus (fun _ => True)
  keyRequest : Legible KeyRequest (fun _ => True) [] []
  roomKeyInfo : Legible RoomKeyInfo (fun _ => True) [("forwarding_key_chain", .null)] []
  requestedKey : Legible RequestedKey (fun _ => True) [] []
  roomKeyTrust : Codec.ReadsBack RoomKeyTrust (fun _ => True)
  summary : Legible TrustSummary TrustSummary.Fits [] []
  userLevel : Legible UserLevel (fun _ => True) [] []
  population : Legible PopulationSummary PopulationSummary.Fits [] []
  settings : Legible Settings (fun _ => True)
    (Codec.encode Settings.default).fields (Codec.encode Settings.default).fields
  summaryRead : ∀ json (summary : TrustSummary), Codec.decode json = some summary ↔
    summary.ReadFrom json ∧ summary.trusted ≤ summary.total
  populationRead : ∀ json (summary : PopulationSummary), Codec.decode json = some summary ↔
    summary.ReadFrom json ∧ summary.users.trusted ≤ summary.users.total ∧
      summary.devices.trusted ≤ summary.devices.total

theorem formats_read_back : FormatsReadBack where
  roomKeyEvent := RoomKeyEvent.legible
  device := Device.legible
  deviceLevel := DeviceLevel.legible
  localTrust := .of_faithful
  localStatus := .of_faithful
  keyRequest := KeyRequest.legible
  roomKeyInfo := RoomKeyInfo.legible
  requestedKey := RequestedKey.legible
  roomKeyTrust := .of_faithful
  summary := TrustSummary.legible
  userLevel := UserLevel.legible
  population := PopulationSummary.legible
  settings := Settings.legible
  summaryRead json summary := by
    rw [TrustSummary.decode_eq_some_iff]
    constructor
    · intro h
      exact ⟨h, h.trusted_le_total⟩
    · exact And.left
  populationRead json summary := by
    rw [PopulationSummary.decode_eq_some_iff]
    constructor
    · rintro ⟨users, devices, hPairs, hUsers, hDevices⟩
      exact ⟨⟨users, devices, hPairs, hUsers, hDevices⟩, hUsers.trusted_le_total,
        hDevices.trusted_le_total⟩
    · exact And.left

namespace FormatsReadBack.Sample

def crowd : Json :=
  .object
    [("users_trust", .list [.int 5, .int 3]),
     ("devices_trust", .object [("total_count", .int 2), ("note", .null), ("trusted_count", .int 1)])]

def unsorted : Settings := { Settings.default with sortsByTimestamp := false }

end FormatsReadBack.Sample

open FormatsReadBack.Sample in
theorem raised_total_is_read_again :
    Codec.decode crowd = some (⟨.new 5 5, .new 1 2⟩ : PopulationSummary) ∧
      Codec.decode (Codec.encode (⟨.new 5 5, .new 1 2⟩ : PopulationSummary)) =
        some (⟨.new 5 5, .new 1 2⟩ : PopulationSummary) ∧
      Codec.decode (.object [("theme", .text "dark"), ("sort_relations_by_timestamp", .bool false)]) =
        some unsorted := by
  have hCrowd : Codec.decode crowd = some (⟨.new 5 5, .new 1 2⟩ : PopulationSummary) := rfl
  refine ⟨hCrowd, formats_read_back.population.again hCrowd, ?_⟩
  refine formats_read_back.settings.spelled trivial _ fun field hField => ?_
  rcases hField with _ | ⟨_, _ | ⟨_, _ | ⟨_, _ | ⟨_, ⟨⟩⟩⟩⟩⟩
  · exact .inr ⟨.head _, rfl⟩
  · exact .inl rfl
  · exact .inr ⟨.tail _ (.tail _ (.head _)), rfl⟩
  · exact .inr ⟨.tail _ (.tail _ (.tail _ (.head _))), rfl⟩

end DeviceTrust
