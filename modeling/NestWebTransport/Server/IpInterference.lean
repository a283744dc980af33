import NestWebTransport.Server.IpRate

/-! What the addresses that share the records can do to one another. -/
namespace NestWebTransport

variable {log : List IpEntry} {ip other : String} {now : Int}

/-- The address holds a session, or acquired one within the last second. -/
def Lingers (log : List IpEntry) (now : Int) (ip : String) : Prop :=
  outstandingOf log ip ≠ 0 ∨ ∃ a ∈ attemptsOf log ip, now - 1000 < a

instance : Decidable (Lingers log now ip) := inferInstanceAs (Decidable (_ ∨ _))

/-- The other addresses that linger. -/
def othersLingering (log : List IpEntry) (now : Int) (ip : String) : Finset String :=
  (log.map IpEntry.ip).toFinset.filter fun j => j ≠ ip ∧ Lingers log now j

/-- The address has not used up its own two limits. -/
def WithinLimits (limits : IpLimits) (log : List IpEntry) (now : Int) (ip : String) : Prop :=
  outstandingOf log ip < limits.maxSessions ∧
    (recent (now - 1000) (attemptsOf log ip)).length < limits.sessionsPerSecond

theorem recent_ne_nil_iff (cutoff : Int) (l : List Int) :
    recent cutoff l ≠ [] ↔ ∃ a ∈ l, cutoff < a := by
  rw [recent, ne_eq, List.dropWhile_eq_nil_iff]
  simp

theorem Lingers.mem_addresses (h : Lingers log now ip) :
    ip ∈ (log.map IpEntry.ip).toFinset := by
  rw [List.mem_toFinset]
  by_contra hmem
  have hnone : entriesOf log ip = [] := by
    rw [entriesOf, List.filter_eq_nil_iff]
    intro e he hip
    exact hmem (List.mem_map.mpr ⟨e, he, of_decide_eq_true hip⟩)
  rcases h with h | ⟨a, ha, -⟩
  · exact h (by simp [outstandingOf, hnone])
  · simp [attemptsOf, hnone] at ha

theorem withinLimits_congr {log' : List IpEntry} (limits : IpLimits)
    (h : entriesOf log ip = entriesOf log' ip) :
    WithinLimits limits log now ip ↔ WithinLimits limits log' now ip := by
  unfold WithinLimits outstandingOf attemptsOf
  rw [h]

namespace IpRecords

variable {limits : IpLimits} {records : IpRecords} {cutoff : Int}

/-- A sweep keeps exactly the addresses that linger. -/
theorem Remembers.swept (h : Remembers limits cutoff records log) (hle : cutoff ≤ now - 1000)
    (j : String) : j ∈ (records.sweepExpiredIpRecords now).keys ↔ Lingers log now j := by
  have hactive := h.active j
  have hrecent := ((h.attempts j).mono hle).recent_eq
  rw [sweepExpiredIpRecords, Directory.mem_keys_filterMap, Lingers, ← recent_ne_nil_iff, ← hrecent,
    ← hactive]
  unfold IpRecords.active IpRecords.attempts
  cases hget : records.get j with
  | none => simp
  | some record =>
    simp only [Option.bind_some, IpRecord.sweep, Option.map_some, Option.getD_some]
    split_ifs with hzero hempty
    · exact iff_of_true rfl (Or.inl hzero)
    · exact iff_of_false Bool.false_ne_true (by
        rintro (h | h)
        · exact hzero h
        · exact h hempty)
    · exact iff_of_true rfl (Or.inr hempty)

theorem Remembers.othersLingering (h : Remembers limits cutoff records log)
    (hle : cutoff ≤ now - 1000) (ip : String) : NestWebTransport.othersLingering log now ip =
      (records.sweepExpiredIpRecords now).keys.erase ip := by
  ext j
  rw [NestWebTransport.othersLingering, Finset.mem_filter, Finset.mem_erase, h.swept hle]
  constructor
  · rintro ⟨-, hne, hlingers⟩
    exact ⟨hne, hlingers⟩
  · rintro ⟨hne, hlingers⟩
    exact ⟨hlingers.mem_addresses, hne, hlingers⟩

/-- There is room for an address exactly while fewer than the allowed number of others linger. -/
theorem Remembers.hasRoom_iff (h : Remembers limits cutoff records log)
    (hle : cutoff ≤ now - 1000) (hsize : records.size ≤ limits.maxRecords) (ip : String) :
    HasRoom limits records ip now ↔
      (NestWebTransport.othersLingering log now ip).card < limits.maxRecords := by
  have hswept : (records.sweepExpiredIpRecords now).keys ⊆ records.keys := Finset.filter_subset _ _
  have herase := Finset.card_erase_le (s := (records.sweepExpiredIpRecords now).keys) (a := ip)
  have hcard : (records.sweepExpiredIpRecords now).keys.card ≤ records.keys.card :=
    Finset.card_le_card hswept
  rw [h.othersLingering hle]
  unfold HasRoom Directory.size
  unfold Directory.size at hsize
  constructor
  · rintro (hmem | hroom | hroom)
    · have hip := (records.mem_keys ip).mpr hmem
      have hothers := Finset.card_le_card (Finset.erase_subset_erase ip hswept)
      rw [Finset.card_erase_of_mem hip] at hothers
      have hpos := Finset.card_pos.mpr ⟨ip, hip⟩
      omega
    · omega
    · omega
  · intro hroom
    cases hget : records.get ip with
    | some record => exact Or.inl rfl
    | none =>
      have hnot : ip ∉ (records.sweepExpiredIpRecords now).keys := by
        intro hip
        have hmem := (records.mem_keys ip).mp (hswept hip)
        rw [hget] at hmem
        cases hmem
      rw [Finset.erase_eq_of_notMem hnot] at hroom
      exact Or.inr (Or.inr hroom)

end IpRecords

namespace IpState

variable {limits : IpLimits} {clock : Int} {s : IpState} {c : IpClock}

/-- What decides an acquisition after any history of calls. -/
theorem acquired_iff (h : (program limits clock).machine.Reachable s)
    (he : enabled s (.acquire ip c) = true) :
    (s.records.acquireIpSlot limits ip c).1 = true ↔
      (othersLingering s.log c.sweep ip).card < limits.maxRecords ∧
        WithinLimits limits s.log c.now ip := by
  have hsound := sound_of_reachable h
  obtain ⟨hsweep, hnow, -⟩ := enabled_acquire.mp he
  have hle : s.clock - 1000 ≤ c.sweep - 1000 := by omega
  rw [(hsound.remembers.acquire ip c hle hnow).1, hsound.remembers.hasRoom_iff hle hsound.size]
  exact Iff.rfl

/-- Two histories that agree on one address decide alike about it, unless it is within its own
limits and the other addresses that linger fill the records in one of them only. -/
theorem acquired_alike_iff (limits : IpLimits) (clock clock' : Int) (s t : IpState) (ip : String)
    (c : IpClock) (hs : (program limits clock).machine.Reachable s)
    (ht : (program limits clock').machine.Reachable t)
    (hes : enabled s (.acquire ip c) = true) (het : enabled t (.acquire ip c) = true)
    (hagree : entriesOf s.log ip = entriesOf t.log ip) :
    (s.records.acquireIpSlot limits ip c).1 = (t.records.acquireIpSlot limits ip c).1 ↔
      (WithinLimits limits s.log c.now ip →
        ((othersLingering s.log c.sweep ip).card < limits.maxRecords ↔
          (othersLingering t.log c.sweep ip).card < limits.maxRecords)) := by
  rw [Bool.eq_iff_iff, acquired_iff hs hes, acquired_iff ht het,
    ← withinLimits_congr limits hagree]
  tauto

/-- One record: an address that has left keeps another out for the rest of its second. -/
theorem departed_denies : ∃ s t,
    (program ⟨1, 1, 1⟩ 0).machine.Reachable s ∧ (program ⟨1, 1, 1⟩ 0).machine.Reachable t ∧
      entriesOf s.log "client" = entriesOf t.log "client" ∧
      (∀ ip, outstandingOf s.log ip = 0 ∧ outstandingOf t.log ip = 0) ∧
      enabled s (.acquire "client" ⟨1, 1, 1⟩) = true ∧
      enabled t (.acquire "client" ⟨1, 1, 1⟩) = true ∧
      (s.records.acquireIpSlot ⟨1, 1, 1⟩ "client" ⟨1, 1, 1⟩).1 = true ∧
      (t.records.acquireIpSlot ⟨1, 1, 1⟩ "client" ⟨1, 1, 1⟩).1 = false := by
  obtain ⟨t, hrun, hlog, he, hrefused⟩ := (program ⟨1, 1, 1⟩ 0).exists_run
    [.acquire "departed" ⟨0, 0, 0⟩, .release "departed" 0] (new 0)
    (fun t => t.log = [.acquired "departed" 0, .released "departed" 0] ∧
      enabled t (.acquire "client" ⟨1, 1, 1⟩) = true ∧
      (t.records.acquireIpSlot ⟨1, 1, 1⟩ "client" ⟨1, 1, 1⟩).1 = false) (by decide +kernel)
  refine ⟨new 0, t, ⟨_, _, rfl, .refl⟩, ⟨_, _, rfl, hrun⟩, ?_, fun ip => ⟨rfl, ?_⟩, by decide, he,
    by decide +kernel, hrefused⟩
  · rw [hlog]
    decide
  · rw [hlog]
    by_cases hip : "departed" = ip
    · subst hip
      decide
    · simp [outstandingOf, entriesOf, IpEntry.ip, hip]

/-- With two records the same departure makes no difference. -/
theorem acquired_alike_two : ∃ s t,
    (program ⟨1, 1, 2⟩ 0).machine.Reachable s ∧ (program ⟨1, 1, 2⟩ 0).machine.Reachable t ∧
      t.log = [.acquired "departed" 0, .released "departed" 0] ∧
      (s.records.acquireIpSlot ⟨1, 1, 2⟩ "client" ⟨1, 1, 1⟩).1 =
        (t.records.acquireIpSlot ⟨1, 1, 2⟩ "client" ⟨1, 1, 1⟩).1 := by
  obtain ⟨t, hrun, hlog, he, hothers⟩ := (program ⟨1, 1, 2⟩ 0).exists_run
    [.acquire "departed" ⟨0, 0, 0⟩, .release "departed" 0] (new 0)
    (fun t => t.log = [.acquired "departed" 0, .released "departed" 0] ∧
      enabled t (.acquire "client" ⟨1, 1, 1⟩) = true ∧
      (othersLingering t.log 1 "client").card < 2) (by decide +kernel)
  have hs : (program ⟨1, 1, 2⟩ 0).machine.Reachable (new 0) := ⟨_, _, rfl, .refl⟩
  have ht : (program ⟨1, 1, 2⟩ 0).machine.Reachable t := ⟨_, _, rfl, hrun⟩
  have hagree : entriesOf (new 0).log "client" = entriesOf t.log "client" := by
    rw [hlog]
    decide
  refine ⟨new 0, t, hs, ht, hlog, ?_⟩
  refine (acquired_alike_iff ⟨1, 1, 2⟩ 0 0 (new 0) t "client" ⟨1, 1, 1⟩ hs ht (by decide) he
    hagree).mpr fun _ => iff_of_true (by decide) hothers

end IpState

end NestWebTransport
