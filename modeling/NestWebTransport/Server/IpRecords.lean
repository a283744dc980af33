import NestWebTransport.Foundation.Directory

/-! The per-address slots of the runtime. -/
namespace NestWebTransport

structure IpRecord where
  active : Int
  attempts : List Int

/-- `limits.ip` and the `limits.server.maxSessions` bound on the number of records. -/
structure IpLimits where
  maxSessions : Nat
  sessionsPerSecond : Nat
  maxRecords : Nat

abbrev IpRecords := Directory String IpRecord

/-- The readings `acquireIpSlot` takes of the clock: in the sweep, for the threshold and for the
recorded attempt. -/
structure IpClock where
  sweep : Int
  now : Int
  push : Int

namespace IpRecord

/-- Shift the attempts that are at least a second old off the front. -/
def prune (r : IpRecord) (now : Int) : IpRecord :=
  { r with attempts := r.attempts.dropWhile fun a => decide (a ≤ now - 1000) }

/-- What a sweep keeps of a record: nothing once it is inactive and has no recent attempt. -/
def sweep (now : Int) (r : IpRecord) : Option IpRecord :=
  if r.active ≠ 0 then some r
  else if (r.prune now).attempts = [] then none
  else some (r.prune now)

end IpRecord

namespace IpRecords

variable (limits : IpLimits) (records : IpRecords) (ip : String) (clock : IpClock) (now : Int)

/-- The `active` count of an address, 0 when it has no record. -/
def active : Int := ((records.get ip).map IpRecord.active).getD 0

def sweepExpiredIpRecords : IpRecords := records.filterMap (IpRecord.sweep now)

/-- The second half of `acquireIpSlot`, on the record it found or made. -/
def acquireRecord (record : IpRecord) : Bool × IpRecords :=
  let r := record.prune clock.now
  if (limits.maxSessions : Int) ≤ r.active ∨ limits.sessionsPerSecond ≤ r.attempts.length then
    (false, records.set ip r)
  else
    (true, records.set ip { active := r.active + 1, attempts := r.attempts ++ [clock.push] })

def acquireIpSlot : Bool × IpRecords :=
  match records.get ip with
  | some record => acquireRecord limits records ip clock record
  | none =>
    if limits.maxRecords ≤ records.size then
      let swept := sweepExpiredIpRecords records clock.sweep
      if limits.maxRecords ≤ swept.size then (false, swept)
      else acquireRecord limits swept ip clock ⟨0, []⟩
    else acquireRecord limits records ip clock ⟨0, []⟩

def releaseIpSlot : IpRecords :=
  match records.get ip with
  | none => records
  | some record =>
    let r := IpRecord.prune { record with active := max 0 (record.active - 1) } now
    if r.active = 0 ∧ r.attempts = [] then records.delete ip else records.set ip r

/-! ### The active counts -/

variable {records} {ip other : String}

theorem active_sweep : active (sweepExpiredIpRecords records now) ip = active records ip := by
  unfold active sweepExpiredIpRecords
  rw [Directory.get_filterMap]
  cases h : records.get ip with
  | none => rfl
  | some r =>
    simp only [Option.bind_some, IpRecord.sweep]
    split_ifs with h1 h2
    · rfl
    · have : r.active = 0 := not_not.mp h1
      simp [this]
    · rfl

theorem active_set (r : IpRecord) :
    active (records.set ip r) other = if other = ip then r.active else active records other := by
  unfold active
  split_ifs with h
  · subst h
    simp
  · rw [Directory.get_set_of_ne _ _ _ _ h]

theorem active_delete :
    active (records.delete ip) other = if other = ip then 0 else active records other := by
  unfold active
  split_ifs with h
  · subst h
    simp
  · rw [Directory.get_delete_of_ne _ _ _ h]

/-- A granted attempt raises the count of its own address, below its limit. -/
theorem active_acquireRecord (records : IpRecords) (record : IpRecord)
    (h : record.active = active records ip) :
    ((acquireRecord limits records ip clock record).1 = true →
      active records ip < limits.maxSessions) ∧
    ∀ other, active (acquireRecord limits records ip clock record).2 other =
      active records other +
        if other = ip ∧ (acquireRecord limits records ip clock record).1 = true then 1 else 0 := by
  unfold acquireRecord
  have hprune : (record.prune clock.now).active = record.active := rfl
  simp only
  split_ifs with hfull
  · refine ⟨by simp, fun other => ?_⟩
    rw [active_set]
    by_cases ho : other = ip <;> simp [ho, h, hprune]
  · refine ⟨fun _ => by omega, fun other => ?_⟩
    rw [active_set]
    by_cases ho : other = ip <;> simp [ho, h, hprune]

/-- A successful acquisition adds one to its own address and found it below the limit; every
other count, and every count after a refusal, is what it was. -/
theorem active_acquireIpSlot :
    ((acquireIpSlot limits records ip clock).1 = true → active records ip < limits.maxSessions) ∧
    ∀ other, active (acquireIpSlot limits records ip clock).2 other =
      active records other +
        if other = ip ∧ (acquireIpSlot limits records ip clock).1 = true then 1 else 0 := by
  unfold acquireIpSlot
  cases h : records.get ip with
  | some record =>
    exact active_acquireRecord limits clock records record (by simp [active, h])
  | none =>
    have hzero : active records ip = 0 := by simp [active, h]
    simp only
    split_ifs with hsize hswept
    · exact ⟨by simp, fun other => by simp [active_sweep]⟩
    · have := active_acquireRecord limits clock (sweepExpiredIpRecords records clock.sweep) ⟨0, []⟩
        (show 0 = active (sweepExpiredIpRecords records clock.sweep) ip by
          simp [active_sweep, hzero])
      simpa only [active_sweep] using this
    · exact active_acquireRecord limits clock records ⟨0, []⟩ (by simp [hzero])

/-- A release takes one from its own address, down to 0. -/
theorem active_releaseIpSlot :
    active (releaseIpSlot records ip now) other =
      if other = ip then max 0 (active records ip - 1) else active records other := by
  unfold releaseIpSlot
  cases h : records.get ip with
  | none =>
    by_cases ho : other = ip
    · subst ho
      simp [active, h]
    · simp [ho]
  | some record =>
    have hactive : active records ip = record.active := by simp [active, h]
    simp only
    split_ifs with hempty ho ho
    · rw [active_delete, if_pos ho, hactive]
      exact hempty.1.symm
    · rw [active_delete, if_neg ho]
    · rw [active_set, if_pos ho, hactive]
      rfl
    · rw [active_set, if_neg ho]

end IpRecords

end NestWebTransport
