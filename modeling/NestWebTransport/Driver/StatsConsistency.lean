import NestWebTransport.Driver.ConnectionStats
import Mathlib.Data.List.Nodup

/-! Refreshes do not overlap, a session that is gone has no entry, and no loss is reported twice. -/
namespace NestWebTransport

/-! ### One refresh -/

namespace StatsRefresh

variable {held : Nat → Bool} {r : StatsRefresh} {w : Nat} {worker : StatsWorker}

/-- The session found is the last of the entries passed. -/
theorem seek_sublist (l : List Nat) :
    (seek held l).2.toList.Sublist (l.take (seek held l).1) := by
  induction l with
  | nil => exact .slnil
  | cons n rest ih =>
    unfold seek
    split
    · exact List.Sublist.refl _
    · simpa using ih.cons n

/-- At most 32 workers ask for sessions from one list, each session once; when the refresh has ended
they have all finished. -/
structure Sound (r : StatsRefresh) : Prop where
  distinct : r.sessions.Nodup
  requested : r.requested.Sublist (r.sessions.take r.position)
  workers : r.workers.length ≤ 32
  ended : r.ended = true → ∀ worker ∈ r.workers, worker = .finished

theorem Sound.advance (h : Sound r) (hongoing : r.ended = false) : Sound (r.advance held w) := by
  refine ⟨h.distinct, ?_, ?_, fun hended => ?_⟩
  · change (r.requested ++ (seek held (r.sessions.drop r.position)).2.toList).Sublist
      (r.sessions.take (r.position + (seek held (r.sessions.drop r.position)).1))
    rw [List.take_add]
    exact h.requested.append (seek_sublist _)
  · exact (List.length_set ..).trans_le h.workers
  · cases hongoing.symm.trans hended

theorem Sound.setWorker (h : Sound r) (hongoing : r.ended = false) :
    Sound { r with workers := r.workers.set w worker } :=
  ⟨h.distinct, h.requested, (List.length_set ..).trans_le h.workers, fun hended => by
    cases hongoing.symm.trans hended⟩

theorem sound_begin (held : Nat → Bool) {sessions : List Nat} (h : sessions.Nodup) :
    Sound (begin held sessions) ∧ (begin held sessions).ended = false := by
  have hstart : Sound ⟨sessions, 0, List.replicate (min 32 sessions.length) .resuming, [], false⟩ :=
    ⟨h, List.nil_sublist _, (List.length_replicate ..).trans_le (Nat.min_le_left _ _), nofun⟩
  have hworkers : ∀ (ws : List Nat) (r : StatsRefresh), Sound r → r.ended = false →
      Sound (ws.foldl (advance held) r) ∧ (ws.foldl (advance held) r).ended = false := by
    intro ws
    induction ws with
    | nil => exact fun r hr hongoing => ⟨hr, hongoing⟩
    | cons w ws ih => exact fun r hr hongoing => ih _ (hr.advance hongoing) hongoing
  exact hworkers _ _ hstart rfl

/-- A worker that is at something keeps the refresh from ending. -/
theorem Sound.ongoing (h : Sound r) (hworker : r.workers[w]? = some worker)
    (hbusy : worker ≠ .finished) : r.ended = false := by
  rw [← Bool.not_eq_true]
  exact fun hended => hbusy (h.ended hended worker (List.mem_of_getElem? hworker))

end StatsRefresh

/-! ### The whole driver -/

namespace StatsState

open RWebTransportDriver (Held)

variable {options : StatsOptions} {remote : Nat → String × Nat} {s t : StatsState} {e : StatsEvent}
  {es : List StatsEvent} {k w n : Nat}

/-- What a log holds for a session. -/
def amountsFor (log : List (Nat × Nat)) (n : Nat) : List Nat :=
  (log.filter fun entry => decide (entry.1 = n)).map Prod.snd

theorem amountsFor_append_self (log : List (Nat × Nat)) (n amount : Nat) :
    amountsFor (log ++ [(n, amount)]) n = amountsFor log n ++ [amount] := by
  simp [amountsFor]

theorem amountsFor_append_of_ne (log : List (Nat × Nat)) (amount : Nat) {m : Nat} (h : m ≠ n) :
    amountsFor (log ++ [(n, amount)]) m = amountsFor log m := by
  simp [amountsFor, h.symm]

/-- What was reported through `metrics.datagramDropped` for a session. -/
def reportedFor (s : StatsState) (n : Nat) : Nat := (amountsFor s.reported n).sum

/-- The greatest total among the completed snapshots of a session. -/
def maximumFor (s : StatsState) (n : Nat) : Nat := (amountsFor s.completed n).foldl max 0

/-- What every run keeps. -/
structure Consistent (options : StatsOptions) (s : StatsState) : Prop where
  accounted : SessionLedger.Accounted options.toRWebTransportDriverOptions s.ledger
  entries : ∀ entry ∈ s.connectionStats.entries,
    entry.1 ∈ s.ledger.driver.sessions.map Prod.fst
  refreshes : ∀ k < s.refreshCount, (s.refresh k).Sound
  ongoing : ∀ k < s.refreshCount, (s.refresh k).ended = false →
    s.refreshingStats = true ∧ k + 1 = s.refreshCount
  dropped : ∀ n, reportedFor s n = (s.counters n).observedDroppedDatagrams ∧
    maximumFor s n = (s.counters n).observedDroppedDatagrams

theorem consistent_new : Consistent options new :=
  ⟨SessionLedger.accounted_new, nofun, nofun, nofun, fun _ => ⟨rfl, rfl⟩⟩

/-- A refresh that goes on, or has just ended, in the way of one call of the driver. -/
theorem Consistent.works (h : Consistent options s) {f : StatsRefresh → StatsRefresh}
    (hsound : (f (s.refresh k)).Sound) (hended : (f (s.refresh k)).ended = (s.refresh k).ended) :
    Consistent options (updateRefresh s k f) := by
  refine ⟨h.accounted, h.entries, fun j hj => ?_, fun j hj hongoing => h.ongoing j hj ?_, h.dropped⟩
  · unfold updateRefresh
    simp only
    by_cases hjk : j = k
    · rwa [hjk, Function.update_self]
    · rw [Function.update_of_ne hjk]
      exact h.refreshes j hj
  · unfold updateRefresh at hongoing
    simp only at hongoing
    by_cases hjk : j = k
    · rw [hjk, Function.update_self, hended] at hongoing
      rw [hjk]
      exact hongoing
    · rwa [Function.update_of_ne hjk] at hongoing

/-- A snapshot's new losses are reported, and none of those seen before. -/
theorem Consistent.captures (h : Consistent options s) (remote : Nat → String × Nat) (n : Nat)
    (stats : NativeConnectionStats) :
    Consistent options (captureConnectionStats remote s n stats).2 := by
  refine ⟨h.accounted, h.entries, h.refreshes, h.ongoing, fun m => ?_⟩
  obtain ⟨hreported, hmaximum⟩ := h.dropped m
  unfold reportedFor at hreported
  unfold maximumFor at hmaximum
  unfold captureConnectionStats reportedFor maximumFor
  simp only
  by_cases hm : m = n
  · subst hm
    rw [Function.update_self, amountsFor_append_self, List.foldl_append, hmaximum]
    refine ⟨?_, rfl⟩
    change _ = max (s.counters m).observedDroppedDatagrams stats.dropped
    split
    · rw [amountsFor_append_self, List.sum_append, hreported, List.sum_singleton]
      omega
    · rw [hreported]
      omega
  · rw [Function.update_of_ne hm, amountsFor_append_of_ne _ _ hm]
    refine ⟨?_, hmaximum⟩
    split
    · rw [amountsFor_append_of_ne _ _ hm]
      exact hreported
    · exact hreported

theorem nodup_sessions (h : Held s.ledger.driver) :
    (s.ledger.driver.sessions.map Prod.snd).Nodup := by
  refine List.Nodup.map_on ?_ (List.Nodup.of_map _ h.nodup)
  rintro ⟨id, n⟩ hn ⟨id', n'⟩ hn' hsame
  change n = n' at hsame
  subst hsame
  rw [← ((h.mem id n).mp hn).2.2, ← ((h.mem id' n).mp hn').2.2]

/-- A refresh captures the sessions that are open as it begins. -/
theorem Consistent.begins (h : Consistent options s) (now : Int) :
    Consistent options (refreshConnectionStats options s now) := by
  unfold refreshConnectionStats
  split
  · exact h
  · rename_i hstarts
    simp only [Bool.or_eq_true, not_or, Bool.not_eq_true] at hstarts
    have hbegun := StatsRefresh.sound_begin (holds s) (nodup_sessions h.accounted.held)
    have hended : ∀ j < s.refreshCount, (s.refresh j).ended = true := by
      intro j hj
      by_contra hongoing
      have hflag := (h.ongoing j hj (Bool.not_eq_true _ ▸ hongoing)).1
      rw [hstarts.1.1] at hflag
      cases hflag
    refine ⟨h.accounted, h.entries, fun j hj => ?_, fun j hj hongoing => ⟨rfl, ?_⟩, h.dropped⟩
    · by_cases hlast : j = s.refreshCount
      · simp only
        rw [hlast, Function.update_self]
        exact hbegun.1
      · simp only
        rw [Function.update_of_ne hlast]
        refine h.refreshes j ?_
        change j < s.refreshCount + 1 at hj
        omega
    · by_contra hlast
      change ¬ j + 1 = s.refreshCount + 1 at hlast
      change j < s.refreshCount + 1 at hj
      simp only at hongoing
      rw [Function.update_of_ne (by omega), hended j (by omega)] at hongoing
      cases hongoing

/-- The sessions that a step of the driver closes take their entries with them. -/
theorem Consistent.sessionsChanged (h : Consistent options s) {ledger : SessionLedger}
    (haccounted : SessionLedger.Accounted options.toRWebTransportDriverOptions ledger)
    (hnative : ∀ n < s.ledger.driver.sessionCount,
      (ledger.driver.session n).native = (s.ledger.driver.session n).native ∧
        s.ledger.driver.sessionCount ≤ ledger.driver.sessionCount) :
    Consistent options (sessionsChanged s ledger) := by
  refine ⟨haccounted, fun entry hentry => ?_, h.refreshes, h.ongoing, h.dropped⟩
  obtain ⟨hentry, hkept⟩ := (OrderedMap.mem_removes _ _).mp hentry
  obtain ⟨⟨id, n⟩, hn, hid⟩ := List.mem_map.mp (h.entries entry hentry)
  obtain ⟨hlt, hopen, hnid⟩ := (h.accounted.held.mem id n).mp hn
  obtain ⟨hsame, hcount⟩ := hnative n hlt
  refine List.mem_map.mpr ⟨(id, n), (haccounted.held.mem id n).mpr ⟨by omega, ?_, ?_⟩, hid⟩
  · intro hclosed
    refine hkept (List.mem_map.mpr ⟨n, ?_, ?_⟩)
    · simp [closedBy, hclosed, hopen]
      omega
    · rw [hsame, hnid]
      exact hid
  · rw [hsame, hnid]

theorem Consistent.counts (h : Consistent options s) {counters : Nat → SessionCounters}
    (hsame : ∀ m, (counters m).observedDroppedDatagrams =
      (s.counters m).observedDroppedDatagrams) :
    Consistent options { s with counters := counters } :=
  ⟨h.accounted, h.entries, h.refreshes, h.ongoing, fun m => by
    rw [hsame]
    exact h.dropped m⟩

theorem Consistent.statsSettled (h : Consistent options s) (hk : k < s.refreshCount)
    (result : Option NativeConnectionStats) :
    Consistent options (statsSettled remote s k w result) := by
  unfold StatsState.statsSettled
  split
  · rename_i n hworker
    have hsound := h.refreshes k hk
    have hongoing := hsound.ongoing hworker nofun
    cases result with
    | none => exact h.works (hsound.setWorker hongoing) rfl
    | some stats => exact (h.captures remote n stats).works (hsound.setWorker hongoing) rfl
  · exact h

theorem Consistent.stores (h : Consistent options s) {id : String} (stats : ConnectionStats)
    (hid : s.ledger.driver.sessions.any (·.1 == id) = true) :
    Consistent options { s with connectionStats := s.connectionStats.set id stats } := by
  refine ⟨h.accounted, fun entry hentry => ?_, h.refreshes, h.ongoing, h.dropped⟩
  rcases OrderedMap.mem_set _ hentry with rfl | hentry
  · obtain ⟨session, hsession, hsame⟩ := List.any_eq_true.mp hid
    exact List.mem_map.mpr ⟨session, hsession, beq_iff_eq.mp hsame⟩
  · exact h.entries entry hentry

/-- A capture adds to the drops what exceeds the total reported before. -/
theorem Consistent.captureContinues (h : Consistent options s) (hk : k < s.refreshCount) :
    Consistent options (captureContinues s k w) := by
  unfold StatsState.captureContinues
  split
  · rename_i n stats hworker
    have hsound := h.refreshes k hk
    have hongoing := hsound.ongoing hworker nofun
    cases stats with
    | none => exact h.works (hsound.setWorker hongoing) rfl
    | some stats =>
      simp only
      split
      · rename_i hid
        exact (h.stores stats hid).works (hsound.setWorker hongoing) rfl
      · exact h.works (hsound.setWorker hongoing) rfl
  · exact h

/-- The refresh that ends is the one going on. -/
theorem Consistent.refreshEnds (h : Consistent options s) (hk : k < s.refreshCount)
    (hongoing : (s.refresh k).ended = false)
    (hfinished : ∀ worker ∈ (s.refresh k).workers, worker = .finished) :
    Consistent options
      { updateRefresh s k ({ · with ended := true }) with refreshingStats := false } := by
  refine ⟨h.accounted, h.entries, fun j hj => ?_, fun j hj hother => ?_, h.dropped⟩
  · unfold updateRefresh
    simp only
    by_cases hjk : j = k
    · have hsound := h.refreshes k hk
      rw [hjk, Function.update_self]
      exact ⟨hsound.distinct, hsound.requested, hsound.workers, fun _ => hfinished⟩
    · rw [Function.update_of_ne hjk]
      exact h.refreshes j hj
  · have hlast := (h.ongoing k hk hongoing).2
    unfold updateRefresh at hother
    simp only at hother
    by_cases hjk : j = k
    · rw [hjk, Function.update_self] at hother
      cases hother
    · rw [Function.update_of_ne hjk] at hother
      have hlast' := (h.ongoing j hj hother).2
      omega

/-- Each event keeps what was reported of a session the greatest of its completed snapshots. -/
theorem consistent_step (henabled : enabled s e = true) (hfresh : FreshId options s e)
    (h : Consistent options s) : Consistent options (next options remote s e) := by
  cases e with
  | sessions e =>
    refine h.sessionsChanged (SessionLedger.accounted_step henabled hfresh h.accounted) ?_
    intro n hn
    cases e with
    | closed m =>
      have hkeeps := RWebTransportDriver.keepsSessions_closeSession (s := s.ledger.driver) m
      exact ⟨hkeeps.native n, hkeeps.sessionCount.ge⟩
    | driver e => exact RWebTransportDriver.native_next hn
  | datagramReceived n =>
    refine h.counts fun m => ?_
    by_cases hm : m = n
    · rw [hm, Function.update_self]
    · rw [Function.update_of_ne hm]
  | datagramSent n =>
    refine h.counts fun m => ?_
    by_cases hm : m = n
    · rw [hm, Function.update_self]
    · rw [Function.update_of_ne hm]
  | getStats now => exact h.begins now
  | statsSettled k w result =>
    exact h.statsSettled (of_decide_eq_true (Bool.and_eq_true_iff.mp henabled).1) result
  | captureContinues k w =>
    exact h.captureContinues (of_decide_eq_true (Bool.and_eq_true_iff.mp henabled).1)
  | workerContinues k w =>
    obtain ⟨hk, hworker⟩ := Bool.and_eq_true_iff.mp henabled
    have hsound := h.refreshes k (of_decide_eq_true hk)
    have hongoing := hsound.ongoing (of_decide_eq_true hworker) nofun
    exact h.works (f := (·.advance (holds s) w)) (hsound.advance hongoing) rfl
  | refreshEnds k =>
    obtain ⟨hbefore, hfinished⟩ := Bool.and_eq_true_iff.mp henabled
    obtain ⟨hk, hongoing⟩ := Bool.and_eq_true_iff.mp hbefore
    refine h.refreshEnds (of_decide_eq_true hk) (by simpa using hongoing) fun worker hworker => ?_
    exact of_decide_eq_true (List.all_eq_true.mp hfinished worker hworker)
  | closingSettled n result =>
    cases result with
    | none => exact ⟨h.accounted, h.entries, h.refreshes, h.ongoing, h.dropped⟩
    | some stats =>
      have hcaptured := h.captures remote n stats
      exact ⟨hcaptured.accounted, hcaptured.entries, hcaptured.refreshes, hcaptured.ongoing,
        hcaptured.dropped⟩

/-- With fresh ids the statistics are consistent in every run. -/
theorem consistent_run
    (h : ((program options remote).machine.restrict (FreshId options)).Run new es s) :
    Consistent options s := by
  refine h.invariant (P := Consistent options) ?_ consistent_new
  rintro s e _ ⟨hfresh, henabled, rfl⟩ hs
  exact consistent_step henabled hfresh hs

/-- In every run with unique session ids: no entry is one of a session that is gone; at most one
refresh is going on, and what an ended one has asked is answered; a refresh asks each session once,
at most 32 at a time; and what is reported for a session is the greatest total it has been seen to
have dropped. -/
theorem stats_consistent (options : StatsOptions) (remote : Nat → String × Nat)
    (es : List StatsEvent) (s : StatsState)
    (h : ((program options remote).machine.restrict (FreshId options)).Run new es s) :
    (∀ entry ∈ s.connectionStats.entries, entry.1 ∈ s.ledger.driver.sessions.map Prod.fst) ∧
    (∀ j < s.refreshCount, ∀ k < s.refreshCount, (s.refresh j).ended = false →
      (s.refresh k).ended = false → j = k) ∧
    (∀ k < s.refreshCount, (s.refresh k).requested.Nodup ∧
      (s.refresh k).workers.countP (·.isRequesting) ≤ 32 ∧
      ((s.refresh k).ended = true → (s.refresh k).workers.countP (·.isRequesting) = 0)) ∧
    ∀ n, reportedFor s n = maximumFor s n := by
  have hconsistent := consistent_run h
  refine ⟨hconsistent.entries, fun j hj k hk hjongoing hkongoing => ?_, fun k hk => ?_, fun n => ?_⟩
  · have hj := (hconsistent.ongoing j hj hjongoing).2
    have hk := (hconsistent.ongoing k hk hkongoing).2
    omega
  · have hsound := hconsistent.refreshes k hk
    refine ⟨(hsound.requested.trans (List.take_sublist _ _)).nodup hsound.distinct,
      List.countP_le_length.trans hsound.workers, fun hended => ?_⟩
    refine List.countP_eq_zero.mpr fun worker hworker => ?_
    rw [hsound.ended hended worker hworker]
    nofun
  · obtain ⟨hreported, hmaximum⟩ := hconsistent.dropped n
    rw [hreported, hmaximum]

/-- Snapshots of one session arrive out of order, and the other session leaves while the driver
waits for its snapshot. -/
theorem stats_consistent_unordered : ∃ es s,
    ((program ⟨RWebTransportDriver.smallOptions, 1000⟩ fun _ => ("", 0)).machine.restrict
      (FreshId ⟨RWebTransportDriver.smallOptions, 1000⟩)).Run new es s ∧
    s.completed = [(0, 5), (1, 2), (0, 3)] ∧ s.reported = [(0, 5), (1, 2)] ∧
    s.connectionStats.entries.map Prod.fst = [] ∧ reportedFor s 0 = maximumFor s 0 := by
  obtain ⟨s, hrun, hcompleted, hreported, hentries⟩ :=
    ((program ⟨RWebTransportDriver.smallOptions, 1000⟩ fun _ => ("", 0)).restrict
      (FreshId ⟨RWebTransportDriver.smallOptions, 1000⟩)).exists_run
      ((RWebTransportDriver.smallStart.map fun e => .sessions (.driver e)) ++
        [.sessions (.driver (.surfaced 0 ⟨"a", true, false⟩)),
          .sessions (.driver (.surfaced 0 ⟨"b", true, false⟩)), .getStats 0,
          .sessions (.driver (.sessionFinished 0 false)),
          .closingSettled 0 (some ⟨0, 0, 0, 0, 5, 0, 0, 0⟩),
          .statsSettled 0 1 (some ⟨0, 0, 0, 0, 0, 0, 1, 1⟩), .captureContinues 0 1,
          .statsSettled 0 0 (some ⟨0, 0, 0, 0, 3, 0, 0, 0⟩), .captureContinues 0 0,
          .sessions (.driver (.sessionFinished 1 false)), .workerContinues 0 0,
          .workerContinues 0 1, .refreshEnds 0]) new
      (fun s => s.completed = [(0, 5), (1, 2), (0, 3)] ∧ s.reported = [(0, 5), (1, 2)] ∧
        s.connectionStats.entries.map Prod.fst = []) (by decide +kernel)
  have hrestricted := (Program.restrict_run _ _).mp hrun
  exact ⟨_, s, hrestricted, hcompleted, hreported, hentries,
    (stats_consistent _ _ _ s hrestricted).2.2.2 0⟩

end StatsState

end NestWebTransport
