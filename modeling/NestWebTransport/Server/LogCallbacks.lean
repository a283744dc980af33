import NestWebTransport.Server.LogBudget

/-! The callbacks of log records that are unfinished, and how many there can be of them. -/
namespace NestWebTransport

namespace LogBudget

variable {o : LogOptions} {b c : LogBudget} {call : LogCall} {rest : List LogCall}
  {result : CallbackResult} {r pending : Nat} {now : Rat} {error : Bool}

/-! ### Promises that something looks at -/

/-- The records whose promises something still looks at. -/
def watching (b : LogBudget) : List Nat := b.calls.map LogCall.record ++ b.observed

structure Watch (b : LogBudget) : Prop where
  fresh : ∀ r, b.records ≤ r → b.unsettled r = 0
  nodup : b.watching.Nodup
  known : ∀ r ∈ b.watching, r < b.records
  pending : b.pendingLogCallbacks = b.observed.length
  watched : ∀ r, b.unsettled r ≠ 0 → r ∈ b.watching
  promised : ∀ call ∈ b.calls, b.unsettled call.record ≤ call.pending

theorem watch_new : Watch new where
  fresh _ _ := rfl
  nodup := List.nodup_nil
  known _ h := by cases h
  pending := rfl
  watched _ h := absurd rfl h
  promised _ h := by cases h

theorem finish_calls : (b.finish r pending).calls = b.calls := by
  unfold LogBudget.finish
  split <;> rfl

theorem finish_unsettled : (b.finish r pending).unsettled = b.unsettled := by
  unfold LogBudget.finish
  split <;> rfl

theorem Watch.congr (h : Watch b) (hcalls : c.calls = b.calls) (hobserved : c.observed = b.observed)
    (hpending : c.pendingLogCallbacks = b.pendingLogCallbacks) (hrecords : b.records ≤ c.records)
    (hunsettled : c.unsettled = b.unsettled) : Watch c where
  fresh r hr := by
    rw [hunsettled]
    exact h.fresh r (hrecords.trans hr)
  nodup := by
    rw [watching, hcalls, hobserved]
    exact h.nodup
  known r hr := by
    rw [watching, hcalls, hobserved] at hr
    exact (h.known r hr).trans_le hrecords
  pending := by rw [hpending, hobserved, h.pending]
  watched r hr := by
    rw [watching, hcalls, hobserved]
    rw [hunsettled] at hr
    exact h.watched r hr
  promised call hcall := by
    rw [hunsettled]
    rw [hcalls] at hcall
    exact h.promised call hcall

theorem Watch.refreshWindow (h : Watch b) : Watch (b.refreshWindow now) := by
  unfold LogBudget.refreshWindow
  split
  · exact h.congr rfl rfl rfl le_rfl rfl
  · exact h

/-- A new record is watched by its call. -/
theorem Watch.push (call : LogCall) (h : Watch b) (hcall : call.record = b.records)
    (hcalls : c.calls = call :: b.calls) (hobserved : c.observed = b.observed)
    (hpending : c.pendingLogCallbacks = b.pendingLogCallbacks)
    (hrecords : c.records = b.records + 1)
    (hunsettled : c.unsettled = b.unsettled) : Watch c := by
  have hwatching : c.watching = b.records :: b.watching := by
    rw [watching, hcalls, hobserved, List.map_cons, hcall]
    rfl
  refine ⟨fun r hr => ?_, ?_, fun r hr => ?_, by rw [hpending, hobserved, h.pending],
    fun r hr => ?_, fun call' hcall' => ?_⟩
  · rw [hunsettled]
    exact h.fresh r (by omega)
  · rw [hwatching]
    exact List.nodup_cons.mpr ⟨fun hmem => Nat.lt_irrefl _ (h.known _ hmem), h.nodup⟩
  · rw [hwatching] at hr
    rw [hrecords]
    rcases List.mem_cons.mp hr with rfl | hr
    · exact Nat.lt_succ_self _
    · exact (h.known r hr).trans (Nat.lt_succ_self _)
  · rw [hwatching]
    rw [hunsettled] at hr
    exact List.mem_cons_of_mem _ (h.watched r hr)
  · rw [hunsettled]
    rw [hcalls] at hcall'
    rcases List.mem_cons.mp hcall' with rfl | hcall'
    · rw [hcall, h.fresh _ le_rfl]
      exact Nat.zero_le _
    · exact h.promised call' hcall'

theorem Watch.log (h : Watch b) : Watch (b.log o now error) := by
  have hrefreshed : Watch (b.refreshWindow now) := h.refreshWindow
  unfold LogBudget.log
  generalize b.refreshWindow now = c at hrefreshed
  change Watch (if c.isExhausted o then c.suppress else c.admitRecord o error)
  split
  · exact hrefreshed.congr rfl rfl rfl (Nat.le_succ _) rfl
  · unfold admitRecord
    simp only
    split
    · exact hrefreshed.push ⟨c.records, c.logWindowAt, .onError, 0⟩ rfl rfl rfl rfl rfl rfl
    · exact hrefreshed.push ⟨c.records, c.logWindowAt, .logger, 0⟩ rfl rfl rfl rfl rfl rfl

/-- The innermost call holds no promise that is not `pending`, and is the one with its record. -/
theorem Watch.innermost (h : Watch b) (hcalls : b.calls = call :: rest) :
    call.record < b.records ∧ b.unsettled call.record ≤ call.pending ∧
      ∀ call' ∈ rest, call'.record ≠ call.record := by
  have hnodup := h.nodup
  rw [watching, hcalls, List.map_cons, List.cons_append, List.nodup_cons] at hnodup
  have hknown : call.record ∈ b.watching := by
    rw [watching, hcalls]
    exact List.mem_cons_self
  refine ⟨h.known _ hknown, h.promised call (hcalls ▸ List.mem_cons_self), ?_⟩
  intro call' hmem heq
  exact hnodup.1 (List.mem_append_left _ (heq ▸ List.mem_map_of_mem hmem))

/-- Behind `observe`, the promises of a record that is not the innermost are as before. -/
theorem Watch.observing_watched (h : Watch b) (hcalls : b.calls = call :: rest)
    (hr : (b.observing call rest result).unsettled r ≠ 0) : r ∈ b.watching := by
  by_cases heq : r = call.record
  · rw [heq, watching, hcalls]
    exact List.mem_cons_self
  · rw [observing_other heq] at hr
    exact h.watched r hr

theorem Watch.observing_fresh (h : Watch b) (hcalls : b.calls = call :: rest)
    (hr : b.records ≤ r) : (b.observing call rest result).unsettled r = 0 := by
  have hne : r ≠ call.record := by
    have := (h.innermost hcalls).1
    omega
  rw [observing_other hne]
  exact h.fresh r hr

theorem Watch.observing_promised (h : Watch b) (hcalls : b.calls = call :: rest)
    (result : CallbackResult) :
    ∀ call' ∈ rest, (b.observing call rest result).unsettled call'.record ≤ call'.pending := by
  intro call' hcall'
  rw [observing_other ((h.innermost hcalls).2.2 call' hcall')]
  exact h.promised call' (hcalls ▸ List.mem_cons_of_mem _ hcall')

/-- The promises of `onError` are watched while the logger is called. -/
theorem Watch.callLogger (h : Watch b) (hcalls : b.calls = call :: rest) :
    Watch ((b.observing call rest result).callLogger call.record call.window
      (call.pending + promises result)) := by
  have hpromised := (h.innermost hcalls).2.1
  have hwatching : ((b.observing call rest result).callLogger call.record call.window
      (call.pending + promises result)).watching = b.watching := by
    rw [watching, watching, hcalls]
    rfl
  refine ⟨fun r hr => h.observing_fresh hcalls hr, ?_, fun r hr => ?_, h.pending, fun r hr => ?_,
    fun call' hcall' => ?_⟩
  · rw [hwatching]
    exact h.nodup
  · exact h.known r (hwatching ▸ hr)
  · rw [hwatching]
    exact h.observing_watched hcalls hr
  · have hself : (b.observing call rest result).unsettled call.record ≤
        call.pending + promises result := by
      rw [observing_self]
      exact Nat.add_le_add_right hpromised _
    rcases List.mem_cons.mp hcall' with rfl | hcall'
    · exact hself
    · exact h.observing_promised hcalls result call' hcall'

/-- A call that is done leaves its promises to the pending count. -/
theorem Watch.finish (h : Watch b) (hcalls : b.calls = call :: rest) :
    Watch ((b.observing call rest result).finish call.record (call.pending + promises result)) := by
  have hpromised := (h.innermost hcalls).2.1
  have hwatching : b.watching = call.record :: (rest.map LogCall.record ++ b.observed) := by
    rw [watching, hcalls]
    rfl
  have hnodup := h.nodup
  rw [hwatching, List.nodup_cons] at hnodup
  have hothers := h.observing_promised hcalls result
  unfold LogBudget.finish
  split
  · have hperm : (rest.map LogCall.record ++ (b.observed ++ [call.record])).Perm b.watching := by
      rw [hwatching, ← List.append_assoc]
      exact List.perm_append_singleton _ _
    refine ⟨fun r hr => h.observing_fresh hcalls hr, hperm.nodup_iff.mpr h.nodup,
      fun r hr => h.known r (hperm.mem_iff.mp hr), ?_,
      fun r hr => hperm.mem_iff.mpr (h.observing_watched hcalls hr), hothers⟩
    change b.pendingLogCallbacks + 1 = (b.observed ++ [call.record]).length
    rw [List.length_append, List.length_singleton, h.pending]
  · rename_i hnone
    -- a call that collected no promise leaves none unsettled
    have hsettled : (b.observing call rest result).unsettled call.record = 0 := by
      rw [observing_self]
      omega
    refine ⟨fun r hr => h.observing_fresh hcalls hr, hnodup.2,
      fun r hr => h.known r (hwatching ▸ List.mem_cons_of_mem _ hr), h.pending, fun r hr => ?_,
      hothers⟩
    have hmem := h.observing_watched hcalls hr
    rw [hwatching] at hmem
    refine (List.mem_cons.mp hmem).resolve_left fun heq => hr ?_
    rw [heq, hsettled]

theorem Watch.callback (h : Watch b) : Watch (b.callback result) := by
  cases hcalls : b.calls with
  | nil =>
    unfold LogBudget.callback
    rw [hcalls]
    exact h
  | cons call rest =>
    rw [callback_eq hcalls]
    cases call.callback with
    | onError => exact h.callLogger hcalls
    | logger => exact h.finish hcalls

theorem Watch.settled (h : Watch b) : Watch (b.settled r) := by
  have hle : ∀ i, (b.settled r).unsettled i ≤ b.unsettled i := by
    intro i
    change Function.update b.unsettled r _ i ≤ _
    by_cases hi : i = r
    · rw [hi, Function.update_self]
      exact Nat.sub_le _ _
    · rw [Function.update_of_ne hi]
  refine ⟨fun i hi => ?_, h.nodup, h.known, h.pending, fun i hi => ?_, fun call hcall => ?_⟩
  · exact Nat.le_zero.mp ((hle i).trans (Nat.le_of_eq (h.fresh i hi)))
  · exact h.watched i fun hzero => hi (Nat.le_zero.mp ((hle i).trans (Nat.le_of_eq hzero)))
  · exact (hle _).trans (h.promised call hcall)

theorem Watch.allSettled (h : Watch b) (hr : r ∈ b.observed) (hsettled : b.unsettled r = 0) :
    Watch (b.allSettled r) := by
  have hsub : ∀ i ∈ (b.allSettled r).watching, i ∈ b.watching := by
    intro i hi
    rcases List.mem_append.mp hi with hi | hi
    · exact List.mem_append_left _ hi
    · exact List.mem_append_right _ (List.mem_of_mem_erase hi)
  refine ⟨h.fresh, ?_, fun i hi => h.known i (hsub i hi), ?_, fun i hi => ?_, h.promised⟩
  · exact h.nodup.sublist (List.erase_sublist.append_left _)
  · change b.pendingLogCallbacks - 1 = (b.observed.erase r).length
    rw [List.length_erase_of_mem hr, h.pending]
  · have hne : i ≠ r := fun heq => hi (heq ▸ hsettled)
    rcases List.mem_append.mp (h.watched i hi) with hi | hi
    · exact List.mem_append_left _ hi
    · exact List.mem_append_right _ ((List.mem_erase_of_ne hne).mpr hi)

/-- Promises that have not settled stay watched, by a call in progress or by the pending count. -/
theorem Watch.next {e : LogEvent} (h : Watch b) (he : b.enabled e = true) : Watch (b.next o e) := by
  cases e with
  | log now error => exact h.log
  | callback result => exact h.callback
  | settled record => exact h.settled
  | allSettled record =>
    simp only [enabled, Bool.and_eq_true, List.contains_iff_mem, beq_iff_eq] at he
    exact h.allSettled he.1.2 he.2

/-! ### Records that are open -/

theorem isOpen_iff : b.isOpen r = true ↔ b.unsettled r ≠ 0 ∨ ∃ call ∈ b.calls, call.record = r := by
  simp [isOpen, isUnfinished]

theorem unfinished_le_opened : b.unfinished ≤ b.opened := by
  refine List.countP_mono_left fun r _ hr => ?_
  rw [isOpen, hr]
  rfl

theorem opened_mono (hrecords : c.records = b.records)
    (hopen : ∀ r, c.isOpen r = true → b.isOpen r = true) : c.opened ≤ b.opened := by
  rw [opened, hrecords]
  exact List.countP_mono_left fun r _ => hopen r

/-- Without a call in progress, what is open has a promise that something waits for. -/
theorem Watch.opened_le (h : Watch b) (hcalls : b.calls = []) :
    b.opened ≤ b.pendingLogCallbacks := by
  rw [h.pending, opened, List.countP_eq_length_filter]
  refine List.Nodup.length_le_of_subset (List.nodup_range.filter _) fun r hr => ?_
  rcases isOpen_iff.mp (List.mem_filter.mp hr).2 with hunsettled | ⟨call, hcall, -⟩
  · have hmem := h.watched r hunsettled
    rwa [watching, hcalls] at hmem
  · rw [hcalls] at hcall
    cases hcall

theorem refreshWindow_opened : (b.refreshWindow now).opened = b.opened := by
  unfold LogBudget.refreshWindow
  split <;> rfl

/-- The number of a record that is yet to come is not open. -/
theorem Watch.not_isOpen (h : Watch b) : b.isOpen b.records = false := by
  rw [Bool.eq_false_iff, ne_eq, isOpen_iff, not_or]
  refine ⟨fun hne => hne (h.fresh _ le_rfl), ?_⟩
  rintro ⟨call, hcall, heq⟩
  exact Nat.lt_irrefl _ (heq ▸ h.known _ (List.mem_append_left _ (List.mem_map_of_mem hcall)))

theorem Watch.suppress_opened (h : Watch b) : b.suppress.opened = b.opened := by
  change (List.range (b.records + 1)).countP b.isOpen = b.opened
  rw [List.range_succ, List.countP_append, List.countP_singleton, h.not_isOpen]
  rfl

/-- A record that is taken is one more open. -/
theorem admit_opened : (b.admitRecord o error).opened = b.opened + 1 := by
  have hrecords : (b.admitRecord o error).records = b.records + 1 := by
    unfold admitRecord
    simp only
    split <;> rfl
  have hopen : ∀ r, (b.admitRecord o error).isOpen r = (b.isOpen r || b.records == r) := by
    intro r
    have hcalls : ∃ call, call.record = b.records ∧
        (b.admitRecord o error).calls = call :: b.calls ∧
        (b.admitRecord o error).unsettled = b.unsettled := by
      unfold admitRecord
      simp only
      split
      · exact ⟨_, rfl, rfl, rfl⟩
      · exact ⟨_, rfl, rfl, rfl⟩
    obtain ⟨call, hrecord, hcalls, hunsettled⟩ := hcalls
    rw [isOpen, isOpen, isUnfinished, isUnfinished, hcalls, hunsettled, List.any_cons, hrecord,
      Bool.or_assoc, Bool.or_comm (b.records == r)]
  rw [opened, hrecords, List.range_succ, List.countP_append, List.countP_singleton, hopen,
    beq_self_eq_true, Bool.or_true, if_pos rfl]
  refine congrArg (· + 1) (List.countP_congr fun r hr => ?_)
  have hne : b.records ≠ r := (List.mem_range.mp hr).ne'
  rw [hopen, beq_eq_false_iff_ne.mpr hne, Bool.or_false]

theorem callback_records : (b.callback result).records = b.records := by
  cases hcalls : b.calls with
  | nil =>
    unfold LogBudget.callback
    rw [hcalls]
  | cons call rest =>
    rw [callback_eq hcalls]
    cases call.callback with
    | onError => rfl
    | logger =>
      unfold LogBudget.finish
      simp only
      split <;> rfl

/-- What the callback leaves open: nothing new, and all of it where it returns a promise. -/
theorem callback_isOpen (hcalls : b.calls = call :: rest) :
    ((b.callback result).isOpen r = true → b.isOpen r = true) ∧
      (result = .promise → b.isOpen r = true → (b.callback result).isOpen r = true) := by
  have hunsettled : (b.callback result).unsettled = (b.observing call rest result).unsettled := by
    rw [callback_eq hcalls]
    cases call.callback with
    | onError => rfl
    | logger => exact finish_unsettled
  have hsub : ∀ i, (∃ call' ∈ (b.callback result).calls, call'.record = i) →
      ∃ call' ∈ b.calls, call'.record = i := by
    rintro i ⟨call', hcall', rfl⟩
    rw [callback_eq hcalls] at hcall'
    rw [hcalls]
    cases hcallback : call.callback with
    | onError =>
      rw [hcallback] at hcall'
      rcases List.mem_cons.mp hcall' with rfl | hcall'
      · exact ⟨call, List.mem_cons_self, rfl⟩
      · exact ⟨call', List.mem_cons_of_mem _ hcall', rfl⟩
    | logger =>
      rw [hcallback] at hcall'
      have hmem : call' ∈ (LogBudget.finish _ _ _).calls := hcall'
      rw [finish_calls] at hmem
      exact ⟨call', List.mem_cons_of_mem _ hmem, rfl⟩
  have hrest : ∀ call' ∈ rest, call' ∈ (b.callback result).calls := by
    intro call' hcall'
    rw [callback_eq hcalls]
    cases call.callback with
    | onError => exact List.mem_cons_of_mem _ hcall'
    | logger =>
      change call' ∈ (LogBudget.finish _ _ _).calls
      rw [finish_calls]
      exact hcall'
  rw [isOpen_iff, isOpen_iff, hunsettled]
  constructor
  · rintro (hr | hr)
    · by_cases heq : r = call.record
      · exact .inr ⟨call, hcalls ▸ List.mem_cons_self, heq.symm⟩
      · rw [observing_other heq] at hr
        exact .inl hr
    · exact .inr (hsub r hr)
  · rintro rfl hr
    by_cases heq : r = call.record
    · left
      rw [heq, observing_self, promises]
      exact Nat.succ_ne_zero _
    · rw [observing_other heq]
      refine hr.imp_right ?_
      rintro ⟨call', hcall', rfl⟩
      rw [hcalls] at hcall'
      refine ⟨call', hrest call' ((List.mem_cons.mp hcall').resolve_left ?_), rfl⟩
      exact fun hhead => heq (by rw [hhead])

theorem callback_opened_le : (b.callback result).opened ≤ b.opened := by
  refine opened_mono callback_records fun r hr => ?_
  cases hcalls : b.calls with
  | nil =>
    unfold LogBudget.callback at hr
    rw [hcalls] at hr
    exact hr
  | cons call rest => exact (callback_isOpen hcalls).1 hr

theorem opened_le_callback (hcalls : b.calls = call :: rest) :
    b.opened ≤ (b.callback .promise).opened :=
  opened_mono callback_records.symm fun _ hr => (callback_isOpen hcalls).2 rfl hr

theorem settled_opened_le : (b.settled r).opened ≤ b.opened := by
  refine opened_mono rfl fun i hi => ?_
  rw [isOpen_iff] at hi ⊢
  refine hi.imp_left fun hne hzero => hne ?_
  change Function.update b.unsettled r _ i = 0
  by_cases hir : i = r
  · rw [hir, Function.update_self, ← hir, hzero]
  · rw [Function.update_of_ne hir, hzero]

/-! ### When the callbacks stay within their bound -/

/-- A callback logs once more, and the record is taken though as many as are allowed are open. -/
def Overcommits (o : LogOptions) (b : LogBudget) : LogEvent → Prop
  | .log now _ => b.calls ≠ [] ∧ (b.refreshWindow now).isExhausted o = false ∧
    o.maxLogsPerSecond.value ≤ b.opened
  | _ => False

instance (o : LogOptions) (b : LogBudget) : DecidablePred (Overcommits o b)
  | .log _ _ => inferInstanceAs (Decidable (_ ∧ _))
  | .callback _ | .settled _ | .allSettled _ => inferInstanceAs (Decidable False)

/-- The promises are kept now, and whatever the callbacks in progress return. -/
def Assured (o : LogOptions) (b : LogBudget) : Prop :=
  ∀ es c, (∀ e ∈ es, e.isReturn = true) → (machine o).Run b es c → c.Kept o

structure Within (o : LogOptions) (b : LogBudget) : Prop where
  ledger : Ledger o b
  watch : Watch b
  opened : b.opened ≤ o.maxLogsPerSecond.value

theorem within_new : Within o new := ⟨ledger_new, watch_new, Nat.zero_le _⟩

/-- Only a record that is taken opens one. -/
theorem log_opened (h : Watch b) (hexhausted : (b.refreshWindow now).isExhausted o = true) :
    (b.log o now error).opened = b.opened := by
  unfold LogBudget.log
  simp only
  rw [if_pos hexhausted, h.refreshWindow.suppress_opened, refreshWindow_opened]

theorem log_opened_succ (hroom : (b.refreshWindow now).isExhausted o = false) :
    (b.log o now error).opened = b.opened + 1 := by
  unfold LogBudget.log
  simp only
  rw [if_neg (by rw [hroom]; exact Bool.false_ne_true), admit_opened, refreshWindow_opened]

theorem refreshWindow_pending (now : Rat) :
    (b.refreshWindow now).pendingLogCallbacks = b.pendingLogCallbacks := by
  unfold LogBudget.refreshWindow
  split <;> rfl

/-- Where no nested record overcommits the budget, the open records stay within it. -/
theorem Within.next {e : LogEvent} (h : Within o b) (he : b.enabled e = true)
    (hok : ¬ Overcommits o b e) : Within o (b.next o e) := by
  refine ⟨h.ledger.next e, h.watch.next he, ?_⟩
  cases e with
  | log now error =>
    change (b.log o now error).opened ≤ _
    cases hexhausted : (b.refreshWindow now).isExhausted o with
    | true =>
      rw [log_opened h.watch hexhausted]
      exact h.opened
    | false =>
      rw [log_opened_succ hexhausted]
      by_cases hcalls : b.calls = []
      · -- the counter of the source covers what is open: no call is in progress
        have hpending := h.watch.opened_le hcalls
        rw [← refreshWindow_pending now] at hpending
        simp only [isExhausted, Bool.or_eq_false_iff, decide_eq_false_iff_not] at hexhausted
        omega
      · have hroom : ¬ o.maxLogsPerSecond.value ≤ b.opened := fun hfull =>
          hok ⟨hcalls, hexhausted, hfull⟩
        omega
  | callback result => exact callback_opened_le.trans h.opened
  | settled record => exact settled_opened_le.trans h.opened
  | allSettled record => exact h.opened

theorem Within.kept (h : Within o b) : b.Kept o :=
  h.ledger.kept (unfinished_le_opened.trans h.opened)

theorem Within.assured (h : Within o b) : Assured o b := by
  intro es c hreturns hrun
  have hwithin : Within o c := by
    refine hrun.invariant_of_events (fun e => e.isReturn = true) ?_ hreturns h
    rintro b e c hreturn ⟨he, rfl⟩ hb
    refine hb.next he ?_
    cases e with
    | callback result => exact id
    | log _ _ | settled _ | allSettled _ => cases hreturn
  exact hwithin.kept

/-- Calls in progress may return one promise after another, until all that is open is unfinished. -/
theorem exists_returns (o : LogOptions) (calls : List LogCall) {b : LogBudget}
    (hcalls : b.calls = calls) :
    ∃ es c, (∀ e ∈ es, LogEvent.isReturn e = true) ∧ (machine o).Run b es c ∧ b.opened ≤ c.opened ∧
      c.calls = [] := by
  induction calls generalizing b with
  | nil => exact ⟨[], b, by simp, .refl, le_rfl, hcalls⟩
  | cons call rest ih =>
    have hstep : ∀ {b : LogBudget} {call : LogCall}, b.calls = call :: rest →
        (machine o).Step b (.callback .promise) (b.callback .promise) :=
      fun hcalls => ⟨by simp [program, enabled, hcalls], rfl⟩
    have hlogger : ∀ {b : LogBudget} {call : LogCall}, b.calls = call :: rest →
        call.callback = .logger → ∃ es c, (∀ e ∈ es, LogEvent.isReturn e = true) ∧
          (machine o).Run b es c ∧ b.opened ≤ c.opened ∧ c.calls = [] := by
      intro b call hcalls hcallback
      have hrest : (b.callback .promise).calls = rest := by
        rw [callback_eq hcalls, hcallback]
        exact finish_calls
      obtain ⟨es, c, hreturns, hrun, hopened, hdone⟩ := ih hrest
      refine ⟨.callback .promise :: es, c, ?_, .stepL (hstep hcalls) hrun,
        (opened_le_callback hcalls).trans hopened, hdone⟩
      intro e he
      rcases List.mem_cons.mp he with rfl | he
      · rfl
      · exact hreturns e he
    cases hcallback : call.callback with
    | logger => exact hlogger hcalls hcallback
    | onError =>
      have hnext : (b.callback .promise).calls =
          ⟨call.record, call.window, .logger, call.pending + 1⟩ :: rest := by
        rw [callback_eq hcalls, hcallback]
        rfl
      obtain ⟨es, c, hreturns, hrun, hopened, hdone⟩ := hlogger hnext rfl
      refine ⟨.callback .promise :: es, c, ?_, .stepL (hstep hcalls) hrun,
        (opened_le_callback hcalls).trans hopened, hdone⟩
      intro e he
      rcases List.mem_cons.mp he with rfl | he
      · rfl
      · exact hreturns e he

theorem unfinished_eq_opened (hcalls : b.calls = []) : b.unfinished = b.opened := by
  refine List.countP_congr fun r _ => ?_
  rw [isOpen, hcalls, List.any_nil, Bool.or_false]

/-- Once a record too many is open, the calls in progress may leave one too many unfinished. -/
theorem not_assured (h : o.maxLogsPerSecond.value < b.opened) : ¬ Assured o b := by
  intro hassured
  obtain ⟨es, c, hreturns, hrun, hopened, hdone⟩ := exists_returns o b.calls (b := b) rfl
  have hkept := (hassured es c hreturns hrun).callbacks
  rw [unfinished_eq_opened hdone] at hkept
  omega

/-- The budget is kept in every state of a run, whatever the callbacks in progress return, exactly
if no callback of the run overcommits it. -/
theorem log_budget_kept (o : LogOptions) (es : List LogEvent) (b : LogBudget) :
    ((machine o).restrict fun b e => ¬ Overcommits o b e).Run new es b ↔
      ((machine o).restrict fun b _ => Assured o b).Run new es b ∧ Assured o b := by
  refine Machine.Run.restrict_iff_good (I := Within o) ?_ ?_ ?_ within_new
  · rintro b e c ⟨he, rfl⟩ hb hok
    exact hb.next he hok
  · exact fun b hb => hb.assured
  · rintro b e c ⟨he, rfl⟩ hb hover
    have hover := not_not.mp hover
    cases e with
    | log now error =>
      obtain ⟨-, hroom, hfull⟩ := hover
      refine not_assured ?_
      change _ < (b.log o now error).opened
      rw [log_opened_succ hroom]
      exact Nat.lt_succ_of_le hfull
    | callback _ | settled _ | allSettled _ => exact absurd hover id

def twoLogs : LogOptions := ⟨.two, true⟩

/-- `onError` logs while it runs, and one more record finds the window full. -/
def nestedLogs : List LogEvent :=
  [.log 1 true, .log 1 false, .callback .promise, .callback .promise, .callback .threw, .log 2 true,
    .settled 1, .allSettled 1]

theorem log_budget_kept_nested :
    ∃ b, (machine twoLogs).Run new nestedLogs b ∧ Assured twoLogs b ∧ b.unfinished = 1 ∧
      b.suppressedLogs = 1 := by
  obtain ⟨b, hrun, hends⟩ := ((program twoLogs).restrict
    fun b e => ¬ Overcommits twoLogs b e).exists_run nestedLogs new
      (fun b => b.unfinished = 1 ∧ b.suppressedLogs = 1) (by decide +kernel)
  have hwithin := (Program.restrict_run _ _).mp hrun
  exact ⟨b, hwithin.unrestrict,
    ((log_budget_kept twoLogs nestedLogs b).mp hwithin).2, hends⟩

/-- A promise of the last window is open; in this one a logger logs before it returns its own. -/
def overcommittedLogs : List LogEvent :=
  [.log 1 false, .callback .promise, .log 2000 false, .log 2000 false, .callback .promise,
    .callback .promise]

theorem log_budget_exceeded :
    ∃ b, (machine twoLogs).Run new overcommittedLogs b ∧ b.unfinished = 3 ∧ ¬ b.Kept twoLogs := by
  obtain ⟨b, hrun, hthree⟩ := (program twoLogs).exists_run overcommittedLogs new
    (fun b => b.unfinished = 3) (by decide +kernel)
  refine ⟨b, hrun, hthree, fun hkept => ?_⟩
  have hcallbacks := hkept.callbacks
  rw [hthree] at hcallbacks
  exact absurd hcallbacks (by decide)

end LogBudget

end NestWebTransport
