import NestWebTransport.Foundation.Program
import NestWebTransport.Foundation.SlidingWindow
import NestWebTransport.Server.IpRecords

/-! The per-address records over whole histories of acquisitions, releases and sweeps. -/
namespace NestWebTransport

/-- What a history records: the acquisitions that succeeded, and the releases. -/
inductive IpEntry
  | acquired (ip : String) (time : Int)
  | released (ip : String) (time : Int)
  deriving DecidableEq, Repr

namespace IpEntry

def ip : IpEntry → String
  | .acquired ip _ => ip
  | .released ip _ => ip

/-- The time of a successful acquisition. -/
def attempt? : IpEntry → Option Int
  | .acquired _ time => some time
  | .released _ _ => none

/-- What one entry makes of the sessions its address holds. -/
def count (held : Int) : IpEntry → Int
  | .acquired _ _ => held + 1
  | .released _ _ => max 0 (held - 1)

end IpEntry

/-- The entries of one address. -/
def entriesOf (log : List IpEntry) (ip : String) : List IpEntry := log.filter fun e => e.ip = ip

/-- When an address acquired a slot, oldest first. -/
def attemptsOf (log : List IpEntry) (ip : String) : List Int :=
  (entriesOf log ip).filterMap IpEntry.attempt?

/-- How many sessions an address has acquired and not released. -/
def outstandingOf (log : List IpEntry) (ip : String) : Int :=
  (entriesOf log ip).foldl IpEntry.count 0

structure IpState where
  records : IpRecords
  clock : Int
  log : List IpEntry

inductive IpEvent
  | acquire (ip : String) (clock : IpClock)
  | release (ip : String) (now : Int)
  | sweep (now : Int)

namespace IpState

variable (limits : IpLimits) (s : IpState)

def new (clock : Int) : IpState := ⟨Directory.empty, clock, []⟩

/-- The clock never runs backwards, also between the readings of one call. -/
def enabled : IpEvent → Bool
  | .acquire _ c => s.clock ≤ c.sweep ∧ c.sweep ≤ c.now ∧ c.now ≤ c.push
  | .release _ now => s.clock ≤ now
  | .sweep now => s.clock ≤ now

def next : IpEvent → IpState
  | .acquire ip c =>
    let r := s.records.acquireIpSlot limits ip c
    ⟨r.2, c.push, if r.1 then s.log ++ [.acquired ip c.push] else s.log⟩
  | .release ip now => ⟨s.records.releaseIpSlot ip now, now, s.log ++ [.released ip now]⟩
  | .sweep now => ⟨s.records.sweepExpiredIpRecords now, now, s.log⟩

def program (clock : Int) : Program IpState IpEvent := ⟨new clock, enabled, next limits⟩

end IpState

/-! ### What a record remembers of its history -/

variable {log : List IpEntry} {ip other : String} {time : Int}

theorem entriesOf_append (log log' : List IpEntry) (ip : String) :
    entriesOf (log ++ log') ip = entriesOf log ip ++ entriesOf log' ip := List.filter_append ..

theorem attemptsOf_acquired : attemptsOf (log ++ [.acquired ip time]) other =
    if other = ip then attemptsOf log other ++ [time] else attemptsOf log other := by
  unfold attemptsOf
  rw [entriesOf_append, List.filterMap_append]
  by_cases h : other = ip
  · subst h
    simp [entriesOf, IpEntry.ip, IpEntry.attempt?]
  · simp [entriesOf, IpEntry.ip, h, Ne.symm h]

theorem attemptsOf_released :
    attemptsOf (log ++ [.released ip time]) other = attemptsOf log other := by
  unfold attemptsOf
  rw [entriesOf_append, List.filterMap_append]
  by_cases h : other = ip
  · subst h
    simp [entriesOf, IpEntry.ip, IpEntry.attempt?]
  · simp [entriesOf, IpEntry.ip, Ne.symm h]

theorem outstandingOf_acquired : outstandingOf (log ++ [.acquired ip time]) other =
    if other = ip then outstandingOf log other + 1 else outstandingOf log other := by
  unfold outstandingOf
  rw [entriesOf_append, List.foldl_append]
  by_cases h : other = ip
  · subst h
    simp [entriesOf, IpEntry.ip, IpEntry.count]
  · simp [entriesOf, IpEntry.ip, h, Ne.symm h]

theorem outstandingOf_released : outstandingOf (log ++ [.released ip time]) other =
    if other = ip then max 0 (outstandingOf log other - 1) else outstandingOf log other := by
  unfold outstandingOf
  rw [entriesOf_append, List.foldl_append]
  by_cases h : other = ip
  · subst h
    simp [entriesOf, IpEntry.ip, IpEntry.count]
  · simp [entriesOf, IpEntry.ip, h, Ne.symm h]

namespace IpRecords

variable {limits : IpLimits} {records : IpRecords} {clock : IpClock} {now cutoff : Int}

/-- The recorded attempts of an address, none when it has no record. -/
def attempts (records : IpRecords) (ip : String) : List Int :=
  ((records.get ip).map IpRecord.attempts).getD []

/-- Every record holds the sessions its address has outstanding, and all its attempts but some
that are up to the cutoff. -/
structure Remembers (limits : IpLimits) (cutoff : Int) (records : IpRecords)
    (log : List IpEntry) : Prop where
  active : ∀ ip, records.active ip = outstandingOf log ip
  attempts : ∀ ip, Keeps cutoff (records.attempts ip) (attemptsOf log ip)
  bounded : ∀ ip, (records.attempts ip).length ≤ limits.sessionsPerSecond

theorem Remembers.mono {cutoff' : Int} (h : Remembers limits cutoff records log)
    (hle : cutoff ≤ cutoff') : Remembers limits cutoff' records log :=
  ⟨h.active, fun ip => (h.attempts ip).mono hle, h.bounded⟩

theorem attempts_set (r : IpRecord) :
    attempts (records.set ip r) other =
      if other = ip then r.attempts else records.attempts other := by
  unfold attempts
  split_ifs with h
  · subst h
    simp
  · rw [Directory.get_set_of_ne _ _ _ _ h]

theorem attempts_delete :
    attempts (records.delete ip) other = if other = ip then [] else records.attempts other := by
  unfold attempts
  split_ifs with h
  · subst h
    simp
  · rw [Directory.get_delete_of_ne _ _ _ h]

/-- A sweep leaves the attempts of an active address and prunes the others. -/
theorem attempts_sweep (now : Int) : attempts (records.sweepExpiredIpRecords now) ip =
    if records.active ip ≠ 0 then records.attempts ip
    else recent (now - 1000) (records.attempts ip) := by
  unfold attempts active sweepExpiredIpRecords
  rw [Directory.get_filterMap]
  cases h : records.get ip with
  | none => simp
  | some r =>
    simp only [Option.bind_some, IpRecord.sweep, Option.map_some, Option.getD_some]
    split_ifs with hactive hempty
    · rfl
    · exact hempty.symm
    · rfl

theorem length_recent_le (cutoff : Int) (l : List Int) : (recent cutoff l).length ≤ l.length :=
  (List.dropWhile_sublist _).length_le

theorem Remembers.sweep (h : Remembers limits cutoff records log) (now : Int)
    (hle : cutoff ≤ now - 1000) :
    Remembers limits (now - 1000) (records.sweepExpiredIpRecords now) log := by
  refine ⟨fun ip => ?_, fun ip => ?_, fun ip => ?_⟩
  · rw [active_sweep]
    exact h.active ip
  · rw [attempts_sweep]
    split_ifs
    · exact (h.attempts ip).mono hle
    · exact ((h.attempts ip).mono hle).recent
  · rw [attempts_sweep]
    split_ifs
    · exact h.bounded ip
    · exact (length_recent_le _ _).trans (h.bounded ip)

/-- The second half of an acquisition, on the record it found or made. -/
theorem Remembers.acquireRecord (h : Remembers limits cutoff records log) (ip : String)
    (clock : IpClock) (record : IpRecord)
    (hactive : record.active = records.active ip)
    (hattempts : record.attempts = records.attempts ip)
    (hle : cutoff ≤ clock.now - 1000) :
    let r := acquireRecord limits records ip clock record
    (r.1 = true ↔ records.active ip < limits.maxSessions ∧
      (recent (clock.now - 1000) (records.attempts ip)).length < limits.sessionsPerSecond) ∧
    Remembers limits (clock.now - 1000) r.2
      (if r.1 then log ++ [.acquired ip clock.push] else log) := by
  have hprune : (record.prune clock.now).attempts =
      recent (clock.now - 1000) (records.attempts ip) := by
    rw [← hattempts]
    rfl
  have hkept : Keeps (clock.now - 1000) (recent (clock.now - 1000) (records.attempts ip))
      (attemptsOf log ip) := ((h.attempts ip).mono hle).recent
  have hshort := (length_recent_le (clock.now - 1000) (records.attempts ip)).trans (h.bounded ip)
  have hsame : (record.prune clock.now).active = records.active ip := hactive
  intro r
  have hr : r = IpRecords.acquireRecord limits records ip clock record := rfl
  unfold IpRecords.acquireRecord at hr
  simp only [hprune, hsame] at hr
  split_ifs at hr with hfull
  · rw [hr]
    refine ⟨iff_of_false (by simp) fun hroom => ?_, ?_⟩
    · omega
    · simp only [Bool.false_eq_true, if_false]
      refine ⟨fun j => ?_, fun j => ?_, fun j => ?_⟩
      · rw [active_set]
        split_ifs with hj
        · rw [hsame, hj]
          exact h.active ip
        · exact h.active j
      · rw [attempts_set]
        split_ifs with hj
        · rw [hprune, hj]
          exact hkept
        · exact (h.attempts j).mono hle
      · rw [attempts_set]
        split_ifs with hj
        · rw [hprune]
          exact hshort
        · exact h.bounded j
  · rw [hr]
    refine ⟨iff_of_true rfl (by omega), ?_⟩
    simp only [if_true]
    refine ⟨fun j => ?_, fun j => ?_, fun j => ?_⟩
    · rw [active_set, outstandingOf_acquired]
      split_ifs with hj
      · rw [hj, ← h.active ip]
      · exact h.active j
    · rw [attempts_set, attemptsOf_acquired]
      split_ifs with hj
      · rw [hj]
        exact hkept.push clock.push
      · exact (h.attempts j).mono hle
    · rw [attempts_set]
      split_ifs with hj
      · rw [List.length_append, List.length_singleton]
        omega
      · exact h.bounded j

/-- A release forgets only attempts that no limit looks at any more. -/
theorem Remembers.release (h : Remembers limits cutoff records log) (hle : cutoff ≤ now - 1000) :
    Remembers limits (now - 1000) (records.releaseIpSlot ip now) (log ++ [.released ip now]) := by
  have hactive : ∀ j, IpRecords.active (records.releaseIpSlot ip now) j =
      outstandingOf (log ++ [.released ip now]) j := by
    intro j
    rw [active_releaseIpSlot, outstandingOf_released]
    split_ifs with hj
    · rw [hj, h.active ip]
    · exact h.active j
  have hattempts : ∀ j, IpRecords.attempts (records.releaseIpSlot ip now) j =
      if j = ip then recent (now - 1000) (records.attempts j) else records.attempts j := by
    intro j
    unfold releaseIpSlot
    cases hget : records.get ip with
    | none =>
      split_ifs with hj
      · subst hj
        simp [IpRecords.attempts, hget]
      · rfl
    | some record =>
      have hrecord : records.attempts ip = record.attempts := by simp [IpRecords.attempts, hget]
      simp only
      split_ifs with hempty hj hj
      · rw [attempts_delete, if_pos hj, hj, hrecord]
        exact hempty.2.symm
      · rw [attempts_delete, if_neg hj]
      · rw [attempts_set, if_pos hj, hj, hrecord]
        rfl
      · rw [attempts_set, if_neg hj]
  refine ⟨hactive, fun j => ?_, fun j => ?_⟩
  · rw [hattempts, attemptsOf_released]
    split_ifs
    · exact ((h.attempts j).mono hle).recent
    · exact (h.attempts j).mono hle
  · rw [hattempts]
    split_ifs
    · exact (length_recent_le _ _).trans (h.bounded j)
    · exact h.bounded j

theorem Remembers.empty (limits : IpLimits) (cutoff : Int) :
    Remembers limits cutoff Directory.empty [] :=
  ⟨fun _ => rfl, fun _ => Keeps.refl _ _, fun _ => Nat.zero_le _⟩

/-- There is a record for the address, or room for one. -/
def HasRoom (limits : IpLimits) (records : IpRecords) (ip : String) (sweep : Int) : Prop :=
  (records.get ip).isSome ∨ records.size < limits.maxRecords ∨
    (records.sweepExpiredIpRecords sweep).size < limits.maxRecords

/-- An acquisition succeeds where there is room and the address is within its own two limits. -/
theorem Remembers.acquire (h : Remembers limits cutoff records log) (ip : String) (clock : IpClock)
    (hsweep : cutoff ≤ clock.sweep - 1000) (hnow : clock.sweep ≤ clock.now) :
    let r := records.acquireIpSlot limits ip clock
    (r.1 = true ↔ HasRoom limits records ip clock.sweep ∧
      outstandingOf log ip < limits.maxSessions ∧
      (recent (clock.now - 1000) (attemptsOf log ip)).length < limits.sessionsPerSecond) ∧
    Remembers limits (clock.now - 1000) r.2
      (if r.1 then log ++ [.acquired ip clock.push] else log) := by
  have hle : cutoff ≤ clock.now - 1000 := by omega
  have hrecent := ((h.attempts ip).mono hle).recent_eq
  intro r
  have hr : r = records.acquireIpSlot limits ip clock := rfl
  unfold acquireIpSlot at hr
  cases hget : records.get ip with
  | some record =>
    obtain ⟨hanswer, hkept⟩ := h.acquireRecord ip clock record
      (by simp [IpRecords.active, hget]) (by simp [IpRecords.attempts, hget]) hle
    rw [hget] at hr
    rw [hr]
    refine ⟨hanswer.trans ?_, hkept⟩
    rw [h.active, hrecent]
    simp [HasRoom, hget]
  | none =>
    rw [hget] at hr
    simp only at hr
    have hzero : records.active ip = 0 := by simp [IpRecords.active, hget]
    have hnil : records.attempts ip = [] := by simp [IpRecords.attempts, hget]
    split_ifs at hr with hsize hswept
    · rw [hr]
      refine ⟨iff_of_false (by simp) ?_, ?_⟩
      · rintro ⟨hroom | hroom | hroom, -⟩
        · rw [hget] at hroom
          cases hroom
        · omega
        · omega
      · exact (h.sweep clock.sweep hsweep).mono (by omega)
    · have hs := h.sweep clock.sweep hsweep
      have hactive : IpRecords.active (records.sweepExpiredIpRecords clock.sweep) ip = 0 := by
        rw [active_sweep, hzero]
      have hattempts : IpRecords.attempts (records.sweepExpiredIpRecords clock.sweep) ip = [] := by
        rw [attempts_sweep, hnil]
        split_ifs <;> rfl
      obtain ⟨hanswer, hkept⟩ := hs.acquireRecord ip clock ⟨0, []⟩ hactive.symm
        hattempts.symm (by omega)
      rw [hr]
      refine ⟨hanswer.trans ?_, hkept⟩
      rw [hs.active, ((hs.attempts ip).mono (by omega)).recent_eq]
      exact (and_iff_right (Or.inr (Or.inr (by omega)))).symm
    · obtain ⟨hanswer, hkept⟩ := h.acquireRecord ip clock ⟨0, []⟩ hzero.symm hnil.symm hle
      rw [hr]
      refine ⟨hanswer.trans ?_, hkept⟩
      rw [h.active, hrecent]
      exact (and_iff_right (Or.inr (Or.inl (by omega)))).symm

/-! ### The number of records -/

theorem size_sweep_le (records : IpRecords) (now : Int) :
    (records.sweepExpiredIpRecords now).size ≤ records.size :=
  Directory.size_filterMap_le _ _

theorem size_acquireRecord_le (record : IpRecord) (hsize : records.size ≤ limits.maxRecords)
    (hroom : (records.get ip).isSome ∨ records.size < limits.maxRecords) :
    (acquireRecord limits records ip clock record).2.size ≤ limits.maxRecords := by
  have hset : ∀ r : IpRecord, (Directory.set records ip r).size ≤ limits.maxRecords := by
    intro r
    rcases hroom with hroom | hroom
    · rw [Directory.size_set_of_mem _ _ _ hroom]
      exact hsize
    · exact (Directory.size_set_le _ _ _).trans hroom
  unfold acquireRecord
  simp only
  split_ifs <;> exact hset _

theorem size_acquireIpSlot_le (hsize : records.size ≤ limits.maxRecords) :
    (records.acquireIpSlot limits ip clock).2.size ≤ limits.maxRecords := by
  unfold acquireIpSlot
  cases hget : records.get ip with
  | some record => exact size_acquireRecord_le record hsize (Or.inl (by simp [hget]))
  | none =>
    simp only
    have hswept := (size_sweep_le records clock.sweep).trans hsize
    split_ifs with hfull hstill
    · exact hswept
    · exact size_acquireRecord_le _ hswept (Or.inr (by omega))
    · exact size_acquireRecord_le _ hsize (Or.inr (by omega))

theorem size_releaseIpSlot_le (hsize : records.size ≤ limits.maxRecords) :
    (records.releaseIpSlot ip now).size ≤ limits.maxRecords := by
  unfold releaseIpSlot
  cases hget : records.get ip with
  | none => exact hsize
  | some record =>
    simp only
    split_ifs
    · exact (Directory.size_delete_le _ _).trans hsize
    · rw [Directory.size_set_of_mem _ _ _ (by simp [hget])]
      exact hsize

end IpRecords

/-! ### The rate over whole histories -/

namespace IpState

variable {limits : IpLimits} {clock : Int} {s t : IpState} {e : IpEvent}

/-- What every history of calls keeps. -/
structure Sound (limits : IpLimits) (s : IpState) : Prop where
  remembers : s.records.Remembers limits (s.clock - 1000) s.log
  rate : ∀ ip start, inWindow 1000 start (attemptsOf s.log ip) ≤ limits.sessionsPerSecond
  size : s.records.size ≤ limits.maxRecords

theorem sound_new : Sound limits (new clock) :=
  ⟨.empty limits _, fun _ _ => Nat.zero_le _, Nat.zero_le _⟩

theorem enabled_acquire {ip : String} {c : IpClock} :
    enabled s (.acquire ip c) = true ↔ s.clock ≤ c.sweep ∧ c.sweep ≤ c.now ∧ c.now ≤ c.push :=
  decide_eq_true_iff

/-- An attempt is counted in its second whether it is granted or refused. -/
theorem sound_acquire {ip : String} {c : IpClock} (h : Sound limits s)
    (he : enabled s (.acquire ip c) = true) : Sound limits (next limits s (.acquire ip c)) := by
  obtain ⟨hsweep, hnow, hpush⟩ := enabled_acquire.mp he
  obtain ⟨hanswer, hkept⟩ :=
    h.remembers.acquire ip c (show s.clock - 1000 ≤ c.sweep - 1000 by omega) hnow
  refine ⟨hkept.mono (by change c.now - 1000 ≤ c.push - 1000; omega), fun j start => ?_,
    IpRecords.size_acquireIpSlot_le h.size⟩
  change inWindow 1000 start (attemptsOf (if _ then _ else _) j) ≤ _
  split_ifs with hok
  · obtain ⟨-, -, hroom⟩ := hanswer.mp hok
    rw [attemptsOf_acquired]
    split_ifs with hj
    · subst hj
      have hkeeps := (Keeps.refl (c.now - 1000) (attemptsOf s.log j)).recent
      exact hkeeps.inWindow_push hroom hpush (h.rate j) start
    · exact h.rate j start
  · exact h.rate j start

theorem sound_release {ip : String} {now : Int} (h : Sound limits s) (hle : s.clock ≤ now) :
    Sound limits (next limits s (.release ip now)) := by
  refine ⟨h.remembers.release (by change s.clock - 1000 ≤ now - 1000; omega), fun j start => ?_,
    IpRecords.size_releaseIpSlot_le h.size⟩
  change inWindow 1000 start (attemptsOf (s.log ++ [_]) j) ≤ _
  rw [attemptsOf_released]
  exact h.rate j start

/-- An attempt or a release changes the record of one address, and a sweep drops those that hold
nothing. -/
theorem sound_step (hs : (program limits clock).machine.Step s e t) (h : Sound limits s) :
    Sound limits t := by
  obtain ⟨he, rfl⟩ := hs
  cases e with
  | acquire ip c => exact sound_acquire h he
  | release ip now => exact sound_release h (of_decide_eq_true he)
  | sweep now =>
    have hle : s.clock ≤ now := of_decide_eq_true he
    exact ⟨h.remembers.sweep now (by omega), h.rate,
      (IpRecords.size_sweep_le s.records now).trans h.size⟩

/-- Every reachable table of addresses is sound. -/
theorem sound_of_reachable (h : (program limits clock).machine.Reachable s) : Sound limits s :=
  h.invariant (fun s (hs : s = new clock) => hs ▸ sound_new) fun _ _ _ => sound_step

/-- An acquisition that is refused takes nothing but expired attempts from its address. -/
theorem refused_unchanged {ip : String} {c : IpClock} (h : Sound limits s)
    (he : enabled s (.acquire ip c) = true)
    (hrefused : (s.records.acquireIpSlot limits ip c).1 = false) :
    (s.records.acquireIpSlot limits ip c).2.active ip = s.records.active ip ∧
      recent (c.now - 1000) ((s.records.acquireIpSlot limits ip c).2.attempts ip) =
        recent (c.now - 1000) (s.records.attempts ip) := by
  obtain ⟨hsweep, hnow, -⟩ := enabled_acquire.mp he
  obtain ⟨-, hkept⟩ :=
    h.remembers.acquire ip c (show s.clock - 1000 ≤ c.sweep - 1000 by omega) hnow
  rw [hrefused, if_neg Bool.false_ne_true] at hkept
  constructor
  · rw [hkept.active, h.remembers.active]
  · rw [(hkept.attempts ip).recent_eq,
      ((h.remembers.attempts ip).mono (by omega : s.clock - 1000 ≤ c.now - 1000)).recent_eq]

/-- However the pruning and deleting of records falls, no address connects faster than its rate,
the records stay bounded, and a refusal costs its address nothing. -/
theorem rate_limited (limits : IpLimits) (clock : Int) (s : IpState)
    (h : (program limits clock).machine.Reachable s) :
    (∀ ip start, inWindow 1000 start (attemptsOf s.log ip) ≤ limits.sessionsPerSecond) ∧
      s.records.size ≤ limits.maxRecords ∧
      (∀ ip, (s.records.attempts ip).length ≤ limits.sessionsPerSecond) ∧
      ∀ ip c, enabled s (.acquire ip c) = true →
        (s.records.acquireIpSlot limits ip c).1 = false →
          (s.records.acquireIpSlot limits ip c).2.active ip = s.records.active ip ∧
            recent (c.now - 1000) ((s.records.acquireIpSlot limits ip c).2.attempts ip) =
              recent (c.now - 1000) (s.records.attempts ip) := by
  have hsound := sound_of_reachable h
  exact ⟨hsound.rate, hsound.size, hsound.remembers.bounded, fun ip c => refused_unchanged hsound⟩

/-- One session a second: the second attempt is refused, a sweep a second later makes way, and the
attempt after that is refused again. -/
theorem rate_limited_single :
    ∃ s, (program ⟨5, 1, 1⟩ 0).machine.Reachable s ∧ attemptsOf s.log "client" = [0, 1000] ∧
      inWindow 1000 1 (attemptsOf s.log "client") ≤ 1 ∧ s.records.size ≤ 1 ∧
      (s.records.acquireIpSlot ⟨5, 1, 1⟩ "client" ⟨1001, 1001, 1001⟩).1 = false ∧
      (s.records.acquireIpSlot ⟨5, 1, 1⟩ "client" ⟨1001, 1001, 1001⟩).2.active "client" =
        s.records.active "client" := by
  obtain ⟨s, hrun, hattempts, he, hrefused⟩ := (program ⟨5, 1, 1⟩ 0).exists_run
    [.acquire "client" ⟨0, 0, 0⟩, .release "client" 1, .acquire "client" ⟨2, 2, 2⟩, .sweep 1000,
      .acquire "client" ⟨1000, 1000, 1000⟩] (new 0)
    (fun s => attemptsOf s.log "client" = [0, 1000] ∧
      enabled s (.acquire "client" ⟨1001, 1001, 1001⟩) = true ∧
      (s.records.acquireIpSlot ⟨5, 1, 1⟩ "client" ⟨1001, 1001, 1001⟩).1 = false) (by decide +kernel)
  have hreach : (program ⟨5, 1, 1⟩ 0).machine.Reachable s := ⟨_, _, rfl, hrun⟩
  obtain ⟨hrate, hsize, -, hunchanged⟩ := rate_limited ⟨5, 1, 1⟩ 0 s hreach
  exact ⟨s, hreach, hattempts, hrate _ _, hsize, hrefused, (hunchanged _ _ he hrefused).1⟩

end IpState

end NestWebTransport
