import DeviceTrust.Proofs.Store.LastSaved
/-! # Summaries agree with levels

A summary asks for the identity and for the devices of one user after the other, stops at the first lookup
that fails, and judges each device by its flags. It comes to what the levels of the users and of their
devices come to, each looked up on its own.
-/

namespace DeviceTrust

namespace TrustSummary

structure Counts {α : Type} (summary : TrustSummary) (good : α → Bool) (entries : List α) : Prop where
  trusted : summary.trusted = entries.countP good
  total : summary.total = entries.length

def add (first second : TrustSummary) : TrustSummary :=
  ⟨first.trusted + second.trusted, first.total + second.total,
    Nat.add_le_add first.trusted_le_total second.trusted_le_total⟩

variable {α : Type} {summary other : TrustSummary} {good : α → Bool} {entries more : List α}

theorem counts_ofFlags (good : α → Bool) (entries : List α) :
    (ofFlags (entries.map good)).Counts good entries where
  trusted := by
    show (entries.map good).count true = entries.countP good
    rw [List.count_eq_countP, List.countP_map]
    exact List.countP_congr fun entry _ => by simp
  total := by
    show max (entries.map good).length ((entries.map good).count true) = entries.length
    rw [Nat.max_eq_left List.count_le_length, List.length_map]

theorem Counts.unique (h : summary.Counts good entries) (hOther : other.Counts good entries) :
    summary = other := by
  obtain ⟨_, _, _⟩ := summary
  obtain ⟨_, _, _⟩ := other
  rw [mk.injEq]
  exact ⟨h.trusted.trans hOther.trusted.symm, h.total.trans hOther.total.symm⟩

theorem Counts.perm (h : summary.Counts good entries) (hPerm : entries.Perm more) :
    summary.Counts good more where
  trusted := h.trusted.trans (hPerm.countP_eq good)
  total := h.total.trans hPerm.length_eq

theorem Counts.append (h : summary.Counts good entries) (hMore : other.Counts good more) :
    (summary.add other).Counts good (entries ++ more) where
  trusted := by
    rw [List.countP_append, ← h.trusted, ← hMore.trusted]
    rfl
  total := by
    rw [List.length_append, ← h.total, ← hMore.total]
    rfl

theorem Counts.allTrusted_iff (h : summary.Counts good entries) :
    summary.allTrusted = true ↔ ∀ entry ∈ entries, good entry = true := by
  rw [allTrusted, beq_iff_eq, h.trusted, h.total, List.countP_eq_length]

end TrustSummary

def PopulationSummary.add (first second : PopulationSummary) : PopulationSummary :=
  ⟨first.users.add second.users, first.devices.add second.devices⟩

namespace TrustSource

def Answers (source : TrustSource) (user : UserId) : Prop :=
  (∃ verified, source.isVerified user = .ok verified) ∧ ∃ devices, source.devices user = .ok devices

/-- The first lookup of the user that fails, identity before devices, has that error. -/
def FailsWith (source : TrustSource) (user : UserId) (error : StoreError) : Prop :=
  source.isVerified user = .error error ∨
    ((∃ verified, source.isVerified user = .ok verified) ∧ source.devices user = .error error)

def isTrusted (source : TrustSource) (user : UserId) : Bool :=
  match source.userLevel user with
  | .ok level => level.isVerified
  | .error _ => false

/-- The devices of all the users, those of a user as often as it is listed. -/
def devicesOf (source : TrustSource) (users : List UserId) : List Device :=
  users.flatMap fun user =>
    match source.devices user with
    | .ok devices => devices
    | .error _ => []

structure Tallies (source : TrustSource) (listed : List UserId) (summary : PopulationSummary) :
    Prop where
  users : summary.users.Counts source.isTrusted listed
  devices : summary.devices.Counts (fun device => (DeviceLevel.ofDevice device).isVerified)
    (source.devicesOf listed)

/-- What the summaries of a source say, told by its lookups and by the levels of users and devices. -/
structure SummariesAgree (source : TrustSource) : Prop where
  fails : ∀ users, (∃ error, source.summary users = .error error) ↔
    ∃ user ∈ users, ∃ error,
      source.isVerified user = .error error ∨ source.devices user = .error error
  firstFailure : ∀ users error, source.summary users = .error error ↔
    ∃ before user after, users = before ++ user :: after ∧
      (∀ other ∈ before, source.Answers other) ∧ source.FailsWith user error
  counts : ∀ users summary, source.summary users = .ok summary ↔
    (∀ user ∈ users, source.Answers user) ∧ source.Tallies users summary
  reordered : ∀ users others summary, users.Perm others →
    source.summary users = .ok summary → source.summary others = .ok summary
  joined : ∀ users others summary, source.summary (users ++ others) = .ok summary ↔
    ∃ first second, source.summary users = .ok first ∧ source.summary others = .ok second ∧
      summary = first.add second
  bounded : ∀ users summary, source.summary users = .ok summary →
    summary.users.trusted ≤ summary.users.total ∧ summary.devices.trusted ≤ summary.devices.total
  allUsers : ∀ users summary, source.summary users = .ok summary →
    (summary.users.allTrusted = true ↔
      ∀ user ∈ users, ∃ level, source.userLevel user = .ok level ∧ level.isVerified = true)
  allDevices : ∀ users summary, source.summary users = .ok summary →
    (summary.devices.allTrusted = true ↔
      ∀ user ∈ users, ∀ devices, source.devices user = .ok devices →
        ∀ device ∈ devices, (DeviceLevel.ofDevice device).isVerified = true)

/-- A summary of users of the store counts each device of theirs that has a level, and no other. -/
structure CountsKnown (store : MemoryStore) : Prop where
  answers : ∀ users, ∃ summary, store.trustSource.summary users = .ok summary ∧
    store.trustSource.Tallies users summary
  counted : ∀ users, store.trustSource.devicesOf users = users.flatMap store.userDevices
  once : ∀ user, (store.userDevices user).Pairwise fun a b => a.id ≠ b.id
  known : ∀ user id level, store.trustSource.deviceLevel user id = .ok (some level) ↔
    ∃ device ∈ store.userDevices user, device.id = id ∧ DeviceLevel.ofDevice device = level

variable {source : TrustSource} {user : UserId} {users others : List UserId} {error : StoreError}
  {summary first second : PopulationSummary}

/-! ## Lookups -/

theorem countsAsTrusted_eq (device : Device) :
    countsAsTrusted device = (DeviceLevel.ofDevice device).isVerified := by
  obtain ⟨_, _, _, localTrust, crossSigned⟩ := device
  cases localTrust <;> cases crossSigned <;> rfl

theorem isTrusted_of_ok {verified : Bool} (h : source.isVerified user = .ok verified) :
    source.isTrusted user = verified := by
  rw [isTrusted, userLevel, h]
  exact UserLevel.isVerified_ofVerified verified

theorem isTrusted_iff : source.isTrusted user = true ↔
    ∃ level, source.userLevel user = .ok level ∧ level.isVerified = true := by
  rw [isTrusted]
  cases source.userLevel user with
  | error error => simp
  | ok level => simp

theorem mem_devicesOf {device : Device} : device ∈ source.devicesOf users ↔
    ∃ user ∈ users, ∃ devices, source.devices user = .ok devices ∧ device ∈ devices := by
  rw [devicesOf, List.mem_flatMap]
  refine exists_congr fun user => and_congr_right fun _ => ?_
  cases source.devices user with
  | error error => simp
  | ok devices => simp

theorem answers_or_failsWith (source : TrustSource) (user : UserId) :
    source.Answers user ∨ ∃ error, source.FailsWith user error := by
  cases hVerified : source.isVerified user with
  | error error => exact .inr ⟨error, .inl hVerified⟩
  | ok verified =>
    cases hDevices : source.devices user with
    | error error => exact .inr ⟨error, .inr ⟨⟨verified, hVerified⟩, hDevices⟩⟩
    | ok devices => exact .inl ⟨⟨verified, hVerified⟩, ⟨devices, hDevices⟩⟩

theorem not_answers (h : source.isVerified user = .error error ∨ source.devices user = .error error) :
    ¬ source.Answers user := by
  rintro ⟨⟨verified, hVerified⟩, devices, hDevices⟩
  obtain hError | hError := h
  · cases hError.symm.trans hVerified
  · cases hError.symm.trans hDevices

theorem all_answer_or_first_fails (source : TrustSource) (users : List UserId) :
    (∀ user ∈ users, source.Answers user) ∨ ∃ before user after error,
      users = before ++ user :: after ∧ (∀ other ∈ before, source.Answers other) ∧
        source.FailsWith user error := by
  induction users with
  | nil => exact .inl nofun
  | cons user rest ih =>
    obtain hAnswers | ⟨error, hFails⟩ := source.answers_or_failsWith user
    · obtain hRest | ⟨before, other, after, error, rfl, hBefore, hFails⟩ := ih
      · exact .inl (List.forall_mem_cons.mpr ⟨hAnswers, hRest⟩)
      · exact .inr ⟨user :: before, other, after, error, rfl,
          List.forall_mem_cons.mpr ⟨hAnswers, hBefore⟩, hFails⟩
    · exact .inr ⟨[], user, rest, error, rfl, nofun, hFails⟩

theorem flags_of_answers (h : ∀ user ∈ users, source.Answers user) :
    source.flags users = .ok (users.map source.isTrusted,
      (source.devicesOf users).map fun device => (DeviceLevel.ofDevice device).isVerified) := by
  induction users with
  | nil => rfl
  | cons user rest ih =>
    obtain ⟨⟨⟨verified, hVerified⟩, devices, hDevices⟩, hRest⟩ := List.forall_mem_cons.mp h
    have hOwn : source.devicesOf (user :: rest) = devices ++ source.devicesOf rest := by
      simp [devicesOf, hDevices]
    rw [flags, hVerified, hDevices, ih hRest, List.map_cons, isTrusted_of_ok hVerified, hOwn,
      List.map_append, ← funext countsAsTrusted_eq]
    rfl

theorem flags_of_failsWith {after : List UserId} (h : ∀ other ∈ users, source.Answers other)
    (hFails : source.FailsWith user error) : source.flags (users ++ user :: after) = .error error := by
  induction users with
  | nil =>
    obtain hVerified | ⟨⟨verified, hVerified⟩, hDevices⟩ := hFails
    · rw [List.nil_append, flags, hVerified]
      rfl
    · rw [List.nil_append, flags, hVerified, hDevices]
      rfl
  | cons other rest ih =>
    obtain ⟨⟨⟨verified, hVerified⟩, devices, hDevices⟩, hRest⟩ := List.forall_mem_cons.mp h
    rw [List.cons_append, flags, hVerified, hDevices, ih hRest]
    rfl

/-! ## One summary -/

theorem exists_tallies (h : ∀ user ∈ users, source.Answers user) :
    ∃ summary, source.summary users = .ok summary ∧ source.Tallies users summary := by
  have hSummary : source.summary users = .ok ⟨.ofFlags (users.map source.isTrusted),
      .ofFlags ((source.devicesOf users).map fun device =>
        (DeviceLevel.ofDevice device).isVerified)⟩ := by
    rw [TrustSource.summary, flags_of_answers h]
    rfl
  exact ⟨_, hSummary, TrustSummary.counts_ofFlags .., TrustSummary.counts_ofFlags ..⟩

theorem summary_of_failsWith {after : List UserId} (h : ∀ other ∈ users, source.Answers other)
    (hFails : source.FailsWith user error) :
    source.summary (users ++ user :: after) = .error error := by
  rw [TrustSource.summary, flags_of_failsWith h hFails]
  rfl

theorem Tallies.unique (h : source.Tallies users first) (hSecond : source.Tallies users second) :
    first = second := by
  obtain ⟨_, _⟩ := first
  obtain ⟨_, _⟩ := second
  rw [PopulationSummary.mk.injEq]
  exact ⟨h.users.unique hSecond.users, h.devices.unique hSecond.devices⟩

theorem summary_eq_ok_iff : source.summary users = .ok summary ↔
    (∀ user ∈ users, source.Answers user) ∧ source.Tallies users summary := by
  -- Either all lookups succeed or one is the first that fails, and each case has its own result.
  constructor
  · intro h
    obtain hAnswers | ⟨before, user, after, error, rfl, hBefore, hFails⟩ :=
      source.all_answer_or_first_fails users
    · obtain ⟨found, hFound, hTallies⟩ := exists_tallies hAnswers
      obtain rfl := Except.ok.inj (hFound.symm.trans h)
      exact ⟨hAnswers, hTallies⟩
    · cases (summary_of_failsWith hBefore hFails).symm.trans h
  · rintro ⟨hAnswers, hTallies⟩
    obtain ⟨found, hFound, hOther⟩ := exists_tallies hAnswers
    rw [hFound, hOther.unique hTallies]

theorem summary_eq_error_iff : source.summary users = .error error ↔
    ∃ before user after, users = before ++ user :: after ∧
      (∀ other ∈ before, source.Answers other) ∧ source.FailsWith user error := by
  constructor
  · intro h
    obtain hAnswers | ⟨before, user, after, found, rfl, hBefore, hFails⟩ :=
      source.all_answer_or_first_fails users
    · obtain ⟨summary, hSummary, _⟩ := exists_tallies hAnswers
      cases hSummary.symm.trans h
    · obtain rfl := Except.error.inj ((summary_of_failsWith hBefore hFails).symm.trans h)
      exact ⟨before, user, after, rfl, hBefore, hFails⟩
  · rintro ⟨before, user, after, rfl, hBefore, hFails⟩
    exact summary_of_failsWith hBefore hFails

theorem summary_fails_iff : (∃ error, source.summary users = .error error) ↔
    ∃ user ∈ users, ∃ error, source.isVerified user = .error error ∨
      source.devices user = .error error := by
  constructor
  · rintro ⟨error, hSummary⟩
    obtain ⟨before, user, after, rfl, _, hFails⟩ := summary_eq_error_iff.mp hSummary
    exact ⟨user, List.mem_append_cons_self, error, hFails.imp_right And.right⟩
  · rintro ⟨user, hUser, error, hError⟩
    cases hSummary : source.summary users with
    | error found => exact ⟨found, rfl⟩
    | ok summary => exact absurd ((summary_eq_ok_iff.mp hSummary).1 user hUser) (not_answers hError)

/-! ## Other lists -/

theorem Tallies.perm (h : source.Tallies users summary) (hPerm : users.Perm others) :
    source.Tallies others summary :=
  ⟨h.users.perm hPerm, h.devices.perm (hPerm.flatMap_right _)⟩

theorem Tallies.append (h : source.Tallies users first) (hSecond : source.Tallies others second) :
    source.Tallies (users ++ others) (first.add second) where
  users := h.users.append hSecond.users
  devices := by
    rw [devicesOf, List.flatMap_append]
    exact h.devices.append hSecond.devices

theorem summary_append_eq_ok_iff : source.summary (users ++ others) = .ok summary ↔
    ∃ first second, source.summary users = .ok first ∧ source.summary others = .ok second ∧
      summary = first.add second := by
  simp only [summary_eq_ok_iff, List.forall_mem_append]
  constructor
  · rintro ⟨⟨hUsers, hOthers⟩, hTallies⟩
    obtain ⟨first, _, hFirst⟩ := exists_tallies hUsers
    obtain ⟨second, _, hSecond⟩ := exists_tallies hOthers
    exact ⟨first, second, ⟨hUsers, hFirst⟩, ⟨hOthers, hSecond⟩,
      hTallies.unique (hFirst.append hSecond)⟩
  · rintro ⟨first, second, ⟨hUsers, hFirst⟩, ⟨hOthers, hSecond⟩, rfl⟩
    exact ⟨⟨hUsers, hOthers⟩, hFirst.append hSecond⟩

/-! ## Every source, every store -/

theorem Tallies.allDevices_iff (h : source.Tallies users summary) :
    summary.devices.allTrusted = true ↔
      ∀ user ∈ users, ∀ devices, source.devices user = .ok devices →
        ∀ device ∈ devices, (DeviceLevel.ofDevice device).isVerified = true := by
  rw [h.devices.allTrusted_iff]
  constructor
  · intro hAll user hUser devices hDevices device hDevice
    exact hAll device (mem_devicesOf.mpr ⟨user, hUser, devices, hDevices, hDevice⟩)
  · intro hAll device hMem
    obtain ⟨user, hUser, devices, hDevices, hDevice⟩ := mem_devicesOf.mp hMem
    exact hAll user hUser devices hDevices device hDevice

theorem summariesAgree (source : TrustSource) : source.SummariesAgree where
  fails _ := summary_fails_iff
  firstFailure _ _ := summary_eq_error_iff
  counts _ _ := summary_eq_ok_iff
  reordered users others summary hPerm h := by
    obtain ⟨hAnswers, hTallies⟩ := summary_eq_ok_iff.mp h
    have hOthers : ∀ user ∈ others, source.Answers user :=
      fun user hUser => hAnswers user (hPerm.mem_iff.mpr hUser)
    exact summary_eq_ok_iff.mpr ⟨hOthers, hTallies.perm hPerm⟩
  joined _ _ _ := summary_append_eq_ok_iff
  bounded _ summary _ := ⟨summary.users.trusted_le_total, summary.devices.trusted_le_total⟩
  allUsers users summary h := by
    rw [(summary_eq_ok_iff.mp h).2.users.allTrusted_iff]
    exact forall₂_congr fun user _ => isTrusted_iff
  allDevices _ _ h := (summary_eq_ok_iff.mp h).2.allDevices_iff

theorem deviceLevel_eq_some_iff {store : MemoryStore} (h : store.Shelved) {id : String}
    {level : DeviceLevel} : store.trustSource.deviceLevel user id = .ok (some level) ↔
      ∃ device ∈ store.userDevices user, device.id = id ∧ DeviceLevel.ofDevice device = level := by
  have hLevel : store.trustSource.deviceLevel user id =
      .ok ((store.device? user id).map .ofDevice) := rfl
  rw [hLevel, Except.ok.injEq, Option.map_eq_some_iff]
  constructor
  · rintro ⟨device, hDevice, rfl⟩
    obtain ⟨rfl, rfl⟩ := DeviceKey.mk.inj (h _ _ hDevice)
    exact ⟨device, (MemoryStore.mem_userDevices h).mpr ⟨rfl, hDevice⟩, rfl, rfl⟩
  · rintro ⟨device, hMem, rfl, rfl⟩
    exact ⟨device, ((MemoryStore.mem_userDevices h).mp hMem).2, rfl⟩

theorem countsKnown_of_shelved {store : MemoryStore} (h : store.Shelved) : CountsKnown store where
  answers _ := exists_tallies fun _ _ => ⟨⟨_, rfl⟩, ⟨_, rfl⟩⟩
  counted _ := rfl
  once user := (MemoryStore.userDevices_ascending h user).imp fun hLess hSame => by
    rw [hSame] at hLess
    cases Std.compare_self.symm.trans hLess
  known _ _ _ := deviceLevel_eq_some_iff h

/-- A summary is what the levels of single users and devices add up to, over every source, and over a memory
store the devices in it are those with a level. -/
theorem summaries_agree_with_levels : (∀ source : TrustSource, source.SummariesAgree) ∧
    ∀ changes, CountsKnown (MemoryStore.after changes) :=
  ⟨summariesAgree, fun changes => countsKnown_of_shelved (MemoryStore.shelved_after changes)⟩

end TrustSource

end DeviceTrust
