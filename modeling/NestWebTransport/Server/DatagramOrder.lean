import NestWebTransport.Server.DataPlane
import NestWebTransport.Server.WorkOrder

/-! No datagram is lost, duplicated or overtaken on its way from the pump to user code. -/
namespace NestWebTransport

namespace Workload

variable {l : Workload} {k w : Nat}

/-- A session that has not been opened owns no work. -/
theorem unmanaged_arrivalIn (hpl : Placement [] [] l) (hk : l.managedCount ≤ k) {ws : List Nat}
    (hlt : ∀ w ∈ ws, w < l.workCount) : ws.filterMap (l.arrivalIn k) = [] := by
  rw [List.filterMap_eq_nil_iff]
  intro w hw
  have howner := hpl.owned w (hlt w hw)
  unfold arrivalIn
  split
  · rw [if_neg (by omega)]
  · rfl

theorem unmanaged_lane (hpl : Placement [] [] l) (hb : BegunAllocated l) (hk : l.managedCount ≤ k) :
    l.lane k = [] := by
  apply unmanaged_arrivalIn hpl hk
  intro w hw
  rcases List.mem_append.mp hw with hw | hw
  · exact line_lt hpl hb w hw
  · exact pending_lt hpl w hw

theorem unmanaged_submitted (hpl : Placement [] [] l) (hk : l.managedCount ≤ k) :
    l.submitted k = [] :=
  unmanaged_arrivalIn hpl hk fun _ hw => List.mem_range.mp hw

end Workload

namespace DataPlane

variable {options : NormalizedWebTransportModuleOptions} {p q : DataPlane} {k j w limit : Nat}

def queuedArrivals (p : DataPlane) (k : Nat) : List Nat := (p.queue k).map Datagram.arrival

/-- Every arrival number of session `k` under each of the fates it met. -/
def fates (p : DataPlane) (k : Nat) : List Nat :=
  (p.history k).dropped.map Prod.fst ++ (p.queuedArrivals k ++
    ((p.history k).cleared ++ p.submitted k))

/-- The drops of session `k` counted under one reason. -/
def DatagramHistory.dropsFor (reason : DropReason) (h : DatagramHistory) : Int :=
  (h.dropped.map Prod.snd).count reason

/-- Datagrams reach user code in arrival order and every one read meets exactly one fate. -/
structure DatagramOrder (p : DataPlane) : Prop where
  begun : p.toWorkload.BegunAllocated
  sorted : ∀ k, (p.lane k ++ p.queuedArrivals k).Pairwise (· < ·)
  conserved : ∀ k, (p.fates k).Perm (List.range (p.history k).received)
  total : (p.droppedDatagrams : Int) = (DropReason.all.map fun r => (p.drops r : Int)).sum
  reasons : ∀ r, (p.drops r : Int) = tally p.managedCount (DatagramHistory.dropsFor r) p.history

/-- What is queued or on its way was read. -/
theorem DatagramOrder.fresh (h : DatagramOrder p) (hpl : Workload.Placement [] [] p.toWorkload) :
    ∀ a ∈ p.lane k ++ p.queuedArrivals k, a < (p.history k).received := by
  intro a ha
  have hmem : a ∈ p.fates k := by
    unfold fates
    rcases List.mem_append.mp ha with ha | ha
    · have hsub : a ∈ p.submitted k := by
        obtain ⟨w, hw, harrival⟩ := List.mem_filterMap.mp ha
        have hlt : w < p.workCount := by
          rcases List.mem_append.mp hw with hw | hw
          · exact Workload.line_lt hpl h.begun w hw
          · exact Workload.pending_lt hpl w hw
        exact List.mem_filterMap.mpr ⟨w, List.mem_range.mpr hlt, harrival⟩
      simp [hsub]
    · simp [ha]
  exact List.mem_range.mp ((h.conserved k).mem_iff.mp hmem)

/-- Only the workload moves, and no datagram enters or overtakes. -/
theorem order_orderly (h : DatagramOrder p) (ho : Workload.Orderly p.toWorkload q.toWorkload)
    (hbuffer : q.buffer = p.buffer) (hhistory : q.history = p.history) (hdrops : q.drops = p.drops)
    (hdropped : q.droppedDatagrams = p.droppedDatagrams)
    (hcount : q.managedCount = p.managedCount) : DatagramOrder q := by
  have hqueued : ∀ k, q.queuedArrivals k = p.queuedArrivals k := by
    intro k
    simp [queuedArrivals, queue, hbuffer]
  constructor
  · exact ho.begun
  · intro k
    rw [hqueued]
    exact (h.sorted k).sublist ((ho.lane k).append (List.Sublist.refl _))
  · intro k
    unfold fates
    rw [hqueued, hhistory, ho.submitted]
    exact h.conserved k
  · rw [hdropped, hdrops]
    exact h.total
  · intro r
    rw [hdrops, hcount, hhistory]
    exact h.reasons r

/-- One drop counts once in total and once under its reason. -/
theorem drops_record
    (h : (p.droppedDatagrams : Int) = (DropReason.all.map fun r => (p.drops r : Int)).sum)
    (reason : DropReason) (arrival : Nat) :
    ((p.recordDatagramDrop k reason arrival).droppedDatagrams : Int) =
      (DropReason.all.map fun r =>
        ((p.recordDatagramDrop k reason arrival).drops r : Int)).sum := by
  simp only [recordDatagramDrop, DropReason.all, List.map_cons, List.map_nil, List.sum_cons,
    List.sum_nil] at h ⊢
  cases reason <;> simp [Function.update] <;> omega

theorem reasons_record (h : ∀ r, (p.drops r : Int) =
      tally p.managedCount (DatagramHistory.dropsFor r) p.history) (hk : k < p.managedCount)
    (reason : DropReason) (arrival : Nat) (r : DropReason) :
    ((p.recordDatagramDrop k reason arrival).drops r : Int) =
      tally p.managedCount (DatagramHistory.dropsFor r)
        (p.recordDatagramDrop k reason arrival).history := by
  have hr := h r
  simp only [recordDatagramDrop, tally_update hk]
  by_cases he : r = reason
  · subst he
    simp [DatagramHistory.dropsFor]
    omega
  · simp [DatagramHistory.dropsFor, he, Ne.symm he]
    omega

/-- A read, a drop or a new queue of session `k` leaves every other session's datagrams alone. -/
structure TouchesOnly (k : Nat) (p q : DataPlane) : Prop where
  buffer : ∀ j, j ≠ k → q.buffer j = p.buffer j
  history : ∀ j, j ≠ k → q.history j = p.history j

/-- What a change to the queue of one session has to show; the other sessions are as they were. -/
theorem order_touch (h : DatagramOrder p) (ht : TouchesOnly k p q)
    (hload : q.toWorkload = p.toWorkload)
    (hsorted : (p.lane k ++ q.queuedArrivals k).Pairwise (· < ·))
    (hconserved : (q.fates k).Perm (List.range (q.history k).received))
    (htotal : (q.droppedDatagrams : Int) = (DropReason.all.map fun r => (q.drops r : Int)).sum)
    (hreasons : ∀ r, (q.drops r : Int) =
      tally q.managedCount (DatagramHistory.dropsFor r) q.history) :
    DatagramOrder q := by
  constructor
  · rw [hload]
    exact h.begun
  · intro j
    rw [hload]
    by_cases hj : j = k
    · subst hj
      exact hsorted
    · simpa [queuedArrivals, queue, ht.buffer j hj] using h.sorted j
  · intro j
    by_cases hj : j = k
    · subst hj
      exact hconserved
    · simpa [fates, queuedArrivals, queue, ht.buffer j hj, ht.history j hj, hload] using
        h.conserved j
  · exact htotal
  · exact hreasons

theorem reasons_receive (h : ∀ r, (p.drops r : Int) =
      tally p.managedCount (DatagramHistory.dropsFor r) p.history) (hk : k < p.managedCount)
    (r : DropReason) :
    (p.drops r : Int) =
      tally p.managedCount (DatagramHistory.dropsFor r) (p.receive k).history := by
  rw [h r, receive, tally_update hk]
  simp [DatagramHistory.dropsFor]

/-- A datagram that is read is the last one, or has its fate at once. -/
theorem order_offer {n : Nat} (h : DatagramOrder p) (hpl : Workload.Placement [] [] p.toWorkload)
    (hk : k < p.managedCount) (ho : Offer p k n limit q) : DatagramOrder q := by
  have hsorted := h.sorted k
  have hperm := h.conserved k
  have hfresh := h.fresh (k := k) hpl
  have hreceived := reasons_receive h.reasons hk
  cases ho with
  | @refused buffer reason hqueue hbytes =>
    have harrivals : (((p.receive k).setBuffer k buffer).recordDatagramDrop k reason
        (p.history k).received).queuedArrivals k = p.queuedArrivals k := by
      simp [queuedArrivals, queue, recordDatagramDrop, setBuffer, hqueue]
    refine order_touch (k := k) h ⟨fun j hj => ?_, fun j hj => ?_⟩ rfl ?_ ?_ ?_ ?_
    · simp [recordDatagramDrop, setBuffer, receive, hj]
    · simp [recordDatagramDrop, setBuffer, receive, hj]
    · rw [harrivals]
      exact hsorted
    · unfold fates
      rw [harrivals]
      rw [List.perm_iff_count] at hperm ⊢
      intro a
      have hcount := hperm a
      simp only [fates, List.count_append] at hcount
      simp only [recordDatagramDrop, setBuffer, receive, Function.update_self, List.map_append,
        List.map_cons, List.map_nil, List.count_append, List.range_succ]
      omega
    · exact drops_record (p := (p.receive k).setBuffer k buffer) h.total reason
        (p.history k).received
    · exact reasons_record (p := (p.receive k).setBuffer k buffer) hreceived hk reason
        (p.history k).received
  | @enqueued buffer hqueue hbytes hlimit =>
    have harrivals : DataPlane.queuedArrivals { (p.receive k).setBuffer k buffer with
        queuedDatagramBytes := p.queuedDatagramBytes + n } k =
        p.queuedArrivals k ++ [(p.history k).received] := by
      simp [queuedArrivals, queue, setBuffer, hqueue]
    refine order_touch (k := k) h ⟨fun j hj => ?_, fun j hj => ?_⟩ rfl ?_ ?_ h.total hreceived
    · simp [setBuffer, receive, hj]
    · simp [setBuffer, receive, hj]
    · rw [harrivals, ← List.append_assoc, List.pairwise_append]
      refine ⟨hsorted, List.pairwise_singleton _ _, ?_⟩
      intro a ha b hb
      rw [List.mem_singleton] at hb
      exact hb ▸ hfresh a ha
    · unfold fates
      rw [harrivals]
      rw [List.perm_iff_count] at hperm ⊢
      intro a
      have hcount := hperm a
      simp only [fates, List.count_append] at hcount
      simp only [setBuffer, receive, Function.update_self, List.count_append, List.range_succ]
      omega
  | @evicted buffer old rest hold hqueue hbytes hlimit =>
    have hp : p.queuedArrivals k = old.arrival :: rest.map Datagram.arrival := by
      simp [queuedArrivals, hold]
    have harrivals : (DataPlane.recordDatagramDrop { (p.receive k).setBuffer k buffer with
        queuedDatagramBytes := p.queuedDatagramBytes + n - old.byteLength } k .droppedOldest
          old.arrival).queuedArrivals k =
            rest.map Datagram.arrival ++ [(p.history k).received] := by
      simp [queuedArrivals, queue, recordDatagramDrop, setBuffer, hqueue]
    rw [hp] at hsorted hfresh
    refine order_touch (k := k) h ⟨fun j hj => ?_, fun j hj => ?_⟩ rfl ?_ ?_ ?_ ?_
    · simp [recordDatagramDrop, setBuffer, receive, hj]
    · simp [recordDatagramDrop, setBuffer, receive, hj]
    · rw [harrivals, ← List.append_assoc, List.pairwise_append]
      have hsub : (p.lane k ++ rest.map Datagram.arrival).Sublist
          (p.lane k ++ (old.arrival :: rest.map Datagram.arrival)) :=
        (List.Sublist.refl _).append (List.sublist_cons_self _ _)
      refine ⟨hsorted.sublist hsub, List.pairwise_singleton _ _, ?_⟩
      intro a ha b hb
      rw [List.mem_singleton] at hb
      exact hb ▸ hfresh a (hsub.subset ha)
    · unfold fates
      rw [harrivals]
      rw [List.perm_iff_count] at hperm ⊢
      intro a
      have hcount := hperm a
      simp only [fates, hp, List.count_append, List.count_cons] at hcount
      simp only [recordDatagramDrop, setBuffer, receive, Function.update_self, List.map_append,
        List.map_cons, List.map_nil, List.count_append, List.count_cons, List.count_nil,
        List.range_succ]
      omega
    · exact drops_record (p := { (p.receive k).setBuffer k buffer with
        queuedDatagramBytes := p.queuedDatagramBytes + n - old.byteLength }) h.total .droppedOldest
          old.arrival
    · exact reasons_record (p := { (p.receive k).setBuffer k buffer with
        queuedDatagramBytes := p.queuedDatagramBytes + n - old.byteLength }) hreceived hk
          .droppedOldest old.arrival

/-- The first of the queue becomes the last one submitted. -/
theorem order_drain (h : DatagramOrder p) (ha : Workload.Accounted p.toWorkload)
    (hk : k < p.managedCount) (hd : Drain options p k q) : DatagramOrder q := by
  have hsorted := h.sorted
  have hperm := h.conserved
  cases hd with
  | empty => exact h
  | @accepted buffer d rest load outcome hold hqueue hbytes hsubmit hout =>
    have hcount := p.toWorkload.submit_managedCount k options.execution.overflow
      (.datagram d.arrival) d.byteLength
    have hlane := Workload.lane_submit ha h.begun k d.byteLength options.execution.overflow
      (.datagram d.arrival)
    simp only [hsubmit, hout, if_true] at hcount hlane
    have hqueued : ∀ j,
        DataPlane.queuedArrivals { p.setBuffer k buffer with toWorkload := load } j =
        if j = k then rest.map Datagram.arrival else p.queuedArrivals j := by
      intro j
      by_cases hj : j = k
      · subst hj
        simp [queuedArrivals, queue, setBuffer, hqueue]
      · simp [queuedArrivals, queue, setBuffer, hj]
    have hp : p.queuedArrivals k = d.arrival :: rest.map Datagram.arrival := by
      simp [queuedArrivals, hold]
    constructor
    · exact (hlane k).2.2
    · intro j
      obtain ⟨hj, -, -⟩ := hlane j
      rw [hqueued, hj]
      by_cases he : j = k
      · subst he
        have hs := hsorted j
        rw [hp] at hs
        simpa [Workload.WorkKind.arrivalFor] using hs
      · simpa [Workload.WorkKind.arrivalFor, he, Ne.symm he] using hsorted j
    · intro j
      obtain ⟨-, hj, -⟩ := hlane j
      have hpj := hperm j
      unfold fates at hpj ⊢
      rw [hqueued, hj]
      by_cases he : j = k
      · subst he
        rw [hp] at hpj
        rw [List.perm_iff_count] at hpj ⊢
        intro a
        have hcount := hpj a
        simp only [List.count_append, List.count_cons] at hcount
        simp only [Workload.WorkKind.arrivalFor, setBuffer, if_true, List.count_append,
          List.count_cons, List.count_nil]
        omega
      · simpa [Workload.WorkKind.arrivalFor, setBuffer, he, Ne.symm he] using hpj
    · exact h.total
    · intro r
      rw [hcount]
      exact h.reasons r
  | @refused buffer d rest load outcome hold hqueue hbytes hsubmit hout =>
    have hcount := p.toWorkload.submit_managedCount k options.execution.overflow
      (.datagram d.arrival) d.byteLength
    have hlane := Workload.lane_submit ha h.begun k d.byteLength options.execution.overflow
      (.datagram d.arrival)
    simp only [hsubmit, hout, Bool.false_eq_true, if_false, List.append_nil] at hcount hlane
    have hqueued : ∀ j, (DataPlane.recordDatagramDrop { p.setBuffer k buffer with
        toWorkload := load
        queuedDatagramBytes := p.queuedDatagramBytes - d.byteLength
        rejectedHandlers := p.rejectedHandlers + 1 } k .handlerLimit d.arrival).queuedArrivals j =
        if j = k then rest.map Datagram.arrival else p.queuedArrivals j := by
      intro j
      by_cases hj : j = k
      · subst hj
        simp [queuedArrivals, queue, recordDatagramDrop, setBuffer, hqueue]
      · simp [queuedArrivals, queue, recordDatagramDrop, setBuffer, hj]
    have hp : p.queuedArrivals k = d.arrival :: rest.map Datagram.arrival := by
      simp [queuedArrivals, hold]
    constructor
    · exact (hlane k).2.2
    · intro j
      obtain ⟨hj, -, -⟩ := hlane j
      rw [hqueued]
      change (load.lane j ++ _).Pairwise _
      rw [hj]
      by_cases he : j = k
      · subst he
        have hs := hsorted j
        rw [hp] at hs
        simpa using hs.sublist ((List.Sublist.refl _).append (List.sublist_cons_self _ _))
      · simpa [he] using hsorted j
    · intro j
      obtain ⟨-, hj, -⟩ := hlane j
      have hpj := hperm j
      unfold fates at hpj ⊢
      rw [hqueued]
      change (_ ++ (_ ++ (_ ++ load.submitted j))).Perm _
      rw [hj]
      by_cases he : j = k
      · subst he
        rw [hp] at hpj
        rw [List.perm_iff_count] at hpj ⊢
        intro a
        have hcount := hpj a
        simp only [List.count_append, List.count_cons] at hcount
        simp only [recordDatagramDrop, setBuffer, Function.update_self, if_true, List.map_append,
          List.map_cons, List.map_nil, List.count_append, List.count_cons, List.count_nil]
        omega
      · simpa [recordDatagramDrop, setBuffer, he] using hpj
    · exact drops_record (p := { p.setBuffer k buffer with
        toWorkload := load
        queuedDatagramBytes := p.queuedDatagramBytes - d.byteLength
        rejectedHandlers := p.rejectedHandlers + 1 }) h.total .handlerLimit d.arrival
    · have hreasons : ∀ r, (p.drops r : Int) =
          tally load.managedCount (DatagramHistory.dropsFor r) p.history := hcount ▸ h.reasons
      exact reasons_record (p := { p.setBuffer k buffer with
        toWorkload := load
        queuedDatagramBytes := p.queuedDatagramBytes - d.byteLength
        rejectedHandlers := p.rejectedHandlers + 1 }) hreasons (hcount ▸ hk) .handlerLimit d.arrival

/-- Clearing a queue moves its datagrams to the cleared ones. -/
theorem order_clear (h : DatagramOrder p) (hk : k < p.managedCount) :
    DatagramOrder (p.clearDatagrams k) := by
  have hperm := h.conserved k
  have harrivals : (p.clearDatagrams k).queuedArrivals k = [] := by
    simp [queuedArrivals, queue, clearDatagrams]
  refine order_touch (k := k) h ⟨fun j hj => ?_, fun j hj => ?_⟩ rfl ?_ ?_ h.total ?_
  · simp [clearDatagrams, hj]
  · simp [clearDatagrams, hj]
  · rw [harrivals]
    exact (h.sorted k).sublist ((List.Sublist.refl _).append (List.nil_sublist _))
  · unfold fates
    rw [harrivals]
    rw [List.perm_iff_count] at hperm ⊢
    intro a
    have hcount := hperm a
    simp only [fates, queuedArrivals, queue, List.count_append] at hcount
    simp only [clearDatagrams, Function.update_self, List.count_append, List.count_nil]
    omega
  · intro r
    change (p.drops r : Int) = tally p.managedCount _ (Function.update _ _ _)
    rw [tally_update hk, h.reasons r]
    simp [DatagramHistory.dropsFor]

/-- A new session has read nothing. -/
theorem order_openSession {now : Int} (h : DatagramOrder p)
    (hpl : Workload.Placement [] [] p.toWorkload) : DatagramOrder (p.openSession options now) := by
  have ho : Workload.Orderly p.toWorkload (p.openSession options now).toWorkload :=
    Workload.orderly_openSession h.begun
  have hother : ∀ j, j ≠ p.managedCount →
      (p.openSession options now).queuedArrivals j = p.queuedArrivals j := by
    intro j hj
    simp [queuedArrivals, queue, openSession, hj]
  have hnone := Workload.unmanaged_submitted hpl (Nat.le_refl p.managedCount)
  have hlane := Workload.unmanaged_lane hpl h.begun (Nat.le_refl p.managedCount)
  constructor
  · exact ho.begun
  · intro j
    by_cases hj : j = p.managedCount
    · subst hj
      have hsub := ho.lane p.managedCount
      rw [hlane, List.sublist_nil] at hsub
      rw [hsub]
      simp [queuedArrivals, queue, openSession, newBuffer]
    · rw [hother j hj]
      exact (h.sorted j).sublist ((ho.lane j).append (List.Sublist.refl _))
  · intro j
    unfold fates
    rw [ho.submitted]
    by_cases hj : j = p.managedCount
    · subst hj
      rw [hnone]
      simp [queuedArrivals, queue, openSession, newBuffer]
    · rw [hother j hj]
      simpa [openSession, hj, fates] using h.conserved j
  · exact h.total
  · intro r
    have hpush : tally (p.openSession options now).managedCount (DatagramHistory.dropsFor r)
        (p.openSession options now).history =
        tally p.managedCount (DatagramHistory.dropsFor r) p.history + 0 := tally_push
    rw [hpush, add_zero]
    exact h.reasons r

/-- Each operation of the data plane keeps the datagrams in the order in which they were read. -/
theorem order_step (hs : Step options p q) (ha : Workload.Accounted p.toWorkload)
    (h : DatagramOrder p) : DatagramOrder q := by
  have hpl := ha.placement
  cases hs with
  | @internal load hi =>
    exact order_orderly h (Workload.orderly_internal hi hpl h.begun) rfl rfl rfl rfl
      (hi.managedCount hpl)
  | refuseAdmission => exact { h with }
  | openSession => exact order_openSession h hpl
  | offer hk ho => exact order_offer h hpl hk ho
  | drain hk hcapacity hd => exact order_drain h ha hk hd
  | @stream k id hk =>
    obtain ⟨hbuffer, hhistory, hdrops, hdropped⟩ := p.submit_buffer options k (.stream id) 0
    have hload := p.submit_toWorkload options k (.stream id) 0
    have hcount := p.toWorkload.submit_managedCount k options.execution.overflow (.stream id) 0
    have hlane := Workload.lane_submit ha h.begun k 0 options.execution.overflow (.stream id)
    simp only [Workload.WorkKind.arrivalFor, ite_self, List.append_nil] at hlane
    refine order_orderly h ?_ hbuffer hhistory hdrops hdropped (by rw [hload, hcount])
    rw [hload]
    constructor
    · intro j
      rw [(hlane j).1]
    · exact fun j => (hlane j).2.1
    · exact (hlane k).2.2
  | settleTask hw hp hkind =>
    exact order_orderly h (Workload.orderly_settleTask hpl h.begun hp) rfl rfl rfl rfl
      (p.toWorkload.settleTask_managedCount _)
  | discard hp => exact order_orderly h (Workload.orderly_discard h.begun hp) rfl rfl rfl rfl rfl
  | clear hk => exact order_clear h hk
  | detach => exact order_orderly h (Workload.orderly_detach h.begun) rfl rfl rfl rfl rfl

end DataPlane

end NestWebTransport
