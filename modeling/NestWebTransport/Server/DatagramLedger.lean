import NestWebTransport.Server.DataPlane
import NestWebTransport.Server.WorkBudget

/-! The byte counter equals what the queues retain plus what submitted datagrams still owe. -/
namespace NestWebTransport

/-- The bytes of a list of datagrams. -/
def bytes (ds : List Datagram) : Int := (ds.map fun d => (d.byteLength : Int)).sum

@[simp] theorem bytes_nil : bytes [] = 0 := rfl

@[simp] theorem bytes_cons (d : Datagram) (ds : List Datagram) :
    bytes (d :: ds) = d.byteLength + bytes ds := by simp [bytes]

@[simp] theorem bytes_append (ds es : List Datagram) : bytes (ds ++ es) = bytes ds + bytes es := by
  simp [bytes]

theorem bytes_nonneg (ds : List Datagram) : 0 ≤ bytes ds := by
  induction ds with
  | nil => exact le_rfl
  | cons d ds ih =>
    rw [bytes_cons]
    omega

/-- What a datagram task was charged and has not given back. -/
def Work.owed (a : Work) : Int :=
  match a.kind with
  | .datagram _ => a.charged - (a.released.map fun n => (n : Int)).sum
  | _ => 0

/-- A task gives back what its array reads, once, when it settles, and never more than it owes. -/
structure Work.Balanced (a : Work) : Prop where
  unsettled : a.phase ≠ .settled → a.released = []
  settled : a.phase = .settled → a.released = [a.datagramBytes]
  bounded : a.byteLength ≤ a.charged

theorem Work.Balanced.owed_nonneg {a : Work} (h : a.Balanced) : 0 ≤ a.owed := by
  have hb := h.bounded
  unfold Work.owed
  cases hk : a.kind with
  | admission => exact le_rfl
  | stream => exact le_rfl
  | datagram arrival =>
    by_cases hs : a.phase = .settled
    · simp only [h.settled hs, Work.datagramBytes, hk]
      simp
      omega
    · simp [h.unsettled hs]

namespace Workload

variable {l l' : Workload} {w : Nat}

/-- Every piece of work is balanced. -/
def Balanced (l : Workload) : Prop := ∀ w < l.workCount, (l.work w).Balanced

theorem balanced_keeps (hk : KeepsWork l l') (h : Balanced l) : Balanced l' := by
  intro w hw
  obtain ⟨hwork, hsettled⟩ := hk.work w
  have hbal := h w (hk.workCount ▸ hw)
  rw [hwork]
  constructor
  · exact fun hs => hbal.unsettled fun h' => hs (hsettled.mpr h')
  · exact fun hs => hbal.settled (hsettled.mp hs)
  · exact hbal.bounded

theorem owed_keeps (hk : KeepsWork l l') :
    tally l'.workCount Work.owed l'.work = tally l.workCount Work.owed l.work := by
  rw [hk.workCount]
  refine tally_congr fun w _ => ?_
  rw [(hk.work w).1]
  rfl

theorem Balanced.push {a : Work} (h : Balanced l) (ha : a.Balanced)
    (hcount : l'.workCount = l.workCount + 1)
    (hwork : l'.work = Function.update l.work l.workCount a) : Balanced l' := by
  intro w hw
  rw [hwork]
  by_cases he : w = l.workCount
  · subst he
    simpa using ha
  · rw [Function.update_of_ne he]
    exact h w (by omega)

theorem balanced_settle (h : Balanced l) (hp : (l.work w).phase ≠ .settled) :
    Balanced (l.settle w) := by
  intro v hv
  by_cases he : v = w
  · subst he
    have hbal := h v hv
    constructor
    · simp [settle]
    · intro _
      simp only [settle, Function.update_self, hbal.unsettled hp]
      rfl
    · simpa [settle] using hbal.bounded
  · simpa [settle, he] using h v hv

theorem owed_settle (hw : w < l.workCount) :
    tally (l.settle w).workCount Work.owed (l.settle w).work =
      tally l.workCount Work.owed l.work - (l.work w).datagramBytes := by
  change tally l.workCount Work.owed (l.settle w).work = _
  simp only [settle, tally_update hw]
  cases hk : (l.work w).kind <;> simp [Work.owed, Work.datagramBytes, hk]
  omega

theorem balanced_allocate {k r n : Nat} {kind : WorkKind} {phase : WorkPhase} (h : Balanced l)
    (hp : phase ≠ .settled) : Balanced (l.allocate k r kind phase n) :=
  h.push ⟨fun _ => rfl, fun hs => absurd hs hp, le_rfl⟩ rfl rfl

theorem owed_allocate (k r n : Nat) (kind : WorkKind) (phase : WorkPhase) :
    tally (l.allocate k r kind phase n).workCount Work.owed (l.allocate k r kind phase n).work =
      tally l.workCount Work.owed l.work +
        match kind with
        | .datagram _ => (n : Int)
        | _ => 0 := by
  simp only [allocate, tally_push]
  cases kind <;> simp [Work.owed]

/-- A step that neither submits nor settles a task owes what was owed before. -/
theorem owed_internal (hs : Internal l l') (hpl : Placement [] [] l) (h : Balanced l) :
    Balanced l' ∧ tally l'.workCount Work.owed l'.work = tally l.workCount Work.owed l.work := by
  obtain hkeeps | ⟨k, r, hkeeps⟩ | ⟨w, hw, hkind, hp, rfl⟩ := internal_cases hs hpl
  · exact ⟨balanced_keeps hkeeps h, owed_keeps hkeeps⟩
  · refine ⟨balanced_keeps hkeeps (balanced_allocate h (by simp)), ?_⟩
    rw [owed_keeps hkeeps, owed_allocate]
    simp
  · refine ⟨balanced_settle h (by simp [hp]), ?_⟩
    rw [owed_settle hw]
    simp [Work.datagramBytes, hkind]

/-- A submitted datagram owes its charge once it is accepted. -/
theorem owed_submit (h : Balanced l) (k n : Nat) (overflow : HandlerOverflowPolicy)
    (kind : WorkKind) :
    Balanced (l.submit k overflow kind n).2 ∧
      tally (l.submit k overflow kind n).2.workCount Work.owed (l.submit k overflow kind n).2.work =
        tally l.workCount Work.owed l.work +
          if (l.submit k overflow kind n).1.isAccepted then
            (match kind with
            | .datagram _ => (n : Int)
            | _ => 0)
          else 0 := by
  obtain ⟨-, heq⟩ | ⟨r, budget, -, ⟨heq, -, -⟩ | ⟨heq, -, -, -⟩ | ⟨refusal, hout, -, heq⟩⟩ :=
    l.submit_cases k overflow kind n <;> rw [heq]
  · simpa using h
  · refine ⟨balanced_allocate (r := r) h (by simp), ?_⟩
    exact owed_allocate k r n kind .starting
  · refine ⟨balanced_allocate (r := r) h (by simp), ?_⟩
    exact owed_allocate k r n kind .pending
  · simpa [hout] using! h

theorem owed_settleTask (hpl : Placement [] [] l) (h : Balanced l) (hw : w < l.workCount)
    (hp : (l.work w).phase = .finishing) :
    Balanced (l.settleTask w) ∧
      tally (l.settleTask w).workCount Work.owed (l.settleTask w).work =
        tally l.workCount Work.owed l.work - (l.work w).datagramBytes := by
  have hleft : Placement [] []
      (l.setScheduler (l.work w).owner (l.scheduler (l.work w).owner).leave) :=
    placement_setScheduler hpl rfl
  have hsettled := placement_settle (w := w) hleft (by simp [setScheduler, Unlisted, hp])
  have hpromoted := (keeps_promote (k := (l.work w).owner) hsettled).toKeepsWork
  have hbal : Balanced ((l.setScheduler (l.work w).owner
      (l.scheduler (l.work w).owner).leave).settle w) :=
    balanced_settle (l := l.setScheduler _ _) h (by simp [setScheduler, hp])
  refine ⟨balanced_keeps hpromoted hbal, ?_⟩
  exact (owed_keeps hpromoted).trans (owed_settle (l := l.setScheduler _ _) hw)

end Workload

namespace DataPlane

variable {options : NormalizedWebTransportModuleOptions} {p q : DataPlane} {k w limit : Nat}

/-- The bytes in the queues of all sessions. -/
def queuedBytes (p : DataPlane) : Int :=
  tally p.managedCount (fun b => bytes b.datagrams.toArray) p.buffer

/-- The counters agree with the queues and the tasks, and the server-wide one keeps its limit. -/
structure ByteLedger (limit : Nat) (p : DataPlane) : Prop where
  session : ∀ k, (p.buffer k).queuedDatagramBytes = bytes (p.queue k)
  total : p.queuedDatagramBytes = p.queuedBytes + tally p.workCount Work.owed p.work
  balanced : p.toWorkload.Balanced
  le : p.queuedDatagramBytes ≤ limit

theorem session_setBuffer {buffer : DatagramBuffer}
    (h : ∀ k, (p.buffer k).queuedDatagramBytes = bytes (p.queue k))
    (hb : buffer.queuedDatagramBytes = bytes buffer.datagrams.toArray) (j : Nat) :
    ((p.setBuffer k buffer).buffer j).queuedDatagramBytes =
      bytes ((p.setBuffer k buffer).queue j) := by
  by_cases hj : j = k
  · subst hj
    simpa [queue, setBuffer] using hb
  · simpa [queue, setBuffer, hj] using h j

theorem queuedBytes_setBuffer (buffer : DatagramBuffer) (hk : k < p.managedCount) :
    (p.setBuffer k buffer).queuedBytes =
      p.queuedBytes - bytes (p.queue k) + bytes buffer.datagrams.toArray :=
  tally_update hk

/-- A datagram that is queued is charged; what it drops is released. -/
theorem ledger_offer {n : Nat} (h : ByteLedger limit p) (hk : k < p.managedCount)
    (ho : Offer p k n limit q) : ByteLedger limit q := by
  have hsession := h.session k
  have hle := h.le
  have htotal := h.total
  have hqueued : ∀ buffer, ((p.receive k).setBuffer k buffer).queuedBytes =
      p.queuedBytes - bytes (p.queue k) + bytes buffer.datagrams.toArray :=
    fun buffer => queuedBytes_setBuffer (p := p.receive k) buffer hk
  cases ho with
  | @refused buffer reason hqueue hbytes =>
    have hb : buffer.queuedDatagramBytes = bytes buffer.datagrams.toArray := by
      rw [hbytes, hqueue, hsession]
    refine ⟨session_setBuffer (p := p.receive k) h.session hb, ?_, h.balanced, hle⟩
    change p.queuedDatagramBytes = ((p.receive k).setBuffer k buffer).queuedBytes + _
    rw [hqueued buffer, hqueue]
    simp only [recordDatagramDrop, setBuffer, receive]
    omega
  | @enqueued buffer hqueue hbytes hlimit =>
    have hb : buffer.queuedDatagramBytes = bytes buffer.datagrams.toArray := by
      rw [hbytes, hqueue, hsession]
      simp
    refine ⟨session_setBuffer (p := p.receive k) h.session hb, ?_, h.balanced, hlimit⟩
    change p.queuedDatagramBytes + n = ((p.receive k).setBuffer k buffer).queuedBytes + _
    rw [hqueued buffer, hqueue]
    simp only [bytes_append, bytes_cons, bytes_nil, setBuffer, receive]
    omega
  | @evicted buffer old rest hold hqueue hbytes hlimit =>
    have hb : buffer.queuedDatagramBytes = bytes buffer.datagrams.toArray := by
      rw [hbytes, hqueue, hsession, hold]
      simp only [bytes_append, bytes_cons, bytes_nil]
      omega
    refine ⟨session_setBuffer (p := p.receive k) h.session hb, ?_, h.balanced, hlimit⟩
    change p.queuedDatagramBytes + n - old.byteLength =
      ((p.receive k).setBuffer k buffer).queuedBytes + _
    rw [hqueued buffer, hqueue, hold]
    simp only [bytes_append, bytes_cons, bytes_nil, recordDatagramDrop, setBuffer, receive]
    omega

/-- A dequeued datagram stays charged until it settles. -/
theorem ledger_drain (h : ByteLedger limit p) (hk : k < p.managedCount) (hd : Drain options p k q) :
    ByteLedger limit q := by
  have hsession := h.session k
  have hle := h.le
  have htotal := h.total
  cases hd with
  | empty => exact h
  | @accepted buffer d rest load outcome hold hqueue hbytes hsubmit hout =>
    have hb : buffer.queuedDatagramBytes = bytes buffer.datagrams.toArray := by
      rw [hbytes, hqueue, hsession, hold]
      simp only [bytes_cons]
      omega
    obtain ⟨hbal, howed⟩ :=
      Workload.owed_submit h.balanced k d.byteLength options.execution.overflow
        (.datagram d.arrival)
    have hcount := p.toWorkload.submit_managedCount k options.execution.overflow
      (.datagram d.arrival) d.byteLength
    simp only [hsubmit, hout, if_true] at hbal howed hcount
    refine ⟨session_setBuffer h.session hb, ?_, hbal, hle⟩
    have hqueued := queuedBytes_setBuffer buffer hk
    rw [hold, hqueue, bytes_cons] at hqueued
    unfold queuedBytes at hqueued ⊢
    simp only [hcount, howed]
    simp only [setBuffer] at hqueued ⊢
    unfold queuedBytes at htotal
    omega
  | @refused buffer d rest load outcome hold hqueue hbytes hsubmit hout =>
    have hb : buffer.queuedDatagramBytes = bytes buffer.datagrams.toArray := by
      rw [hbytes, hqueue, hsession, hold]
      simp only [bytes_cons]
      omega
    obtain ⟨hbal, howed⟩ :=
      Workload.owed_submit h.balanced k d.byteLength options.execution.overflow
        (.datagram d.arrival)
    have hcount := p.toWorkload.submit_managedCount k options.execution.overflow
      (.datagram d.arrival) d.byteLength
    simp only [hsubmit, hout, Bool.false_eq_true, if_false] at hbal howed hcount
    refine ⟨session_setBuffer h.session hb, ?_, hbal, ?_⟩
    · have hqueued := queuedBytes_setBuffer buffer hk
      rw [hold, hqueue, bytes_cons] at hqueued
      unfold queuedBytes at hqueued ⊢
      simp only [recordDatagramDrop, hcount, howed]
      simp only [setBuffer] at hqueued ⊢
      unfold queuedBytes at htotal
      omega
    · simp only [recordDatagramDrop]
      omega

theorem ledger_settleTask (h : ByteLedger limit p) (hpl : Workload.Placement [] [] p.toWorkload)
    (hw : w < p.workCount) (hp : (p.work w).phase = .finishing) :
    ByteLedger limit (p.settleTask w) := by
  obtain ⟨hbal, howed⟩ := Workload.owed_settleTask hpl h.balanced hw hp
  have htotal := h.total
  have hle := h.le
  have hcount := p.toWorkload.settleTask_managedCount w
  refine ⟨h.session, ?_, hbal, ?_⟩
  · unfold queuedBytes at htotal ⊢
    simp only [settleTask, onSettled, hcount, howed]
    omega
  · simp only [settleTask, onSettled]
    omega

/-- A task that is discarded releases what it was charged. -/
theorem ledger_discard {rest : List Nat} (h : ByteLedger limit p)
    (hpl : Workload.Placement [] [] p.toWorkload) (hhead : (p.scheduler k).pending = w :: rest) :
    ByteLedger limit (DataPlane.settle { p with
      toWorkload := p.toWorkload.setScheduler k { p.scheduler k with pending := rest } } w) := by
  obtain ⟨hw, hheld⟩ := (hpl.pending k).mem (w := w) (by simp [hhead])
  have hbal : Workload.Balanced
      ((p.toWorkload.setScheduler k { p.scheduler k with pending := rest }).settle w) :=
    Workload.balanced_settle (l := p.toWorkload.setScheduler _ _) h.balanced
      (by simp [Workload.setScheduler, hheld.1])
  have howed := Workload.owed_settle
    (l := p.toWorkload.setScheduler k { p.scheduler k with pending := rest }) (w := w) hw
  have htotal := h.total
  have hle := h.le
  refine ⟨h.session, ?_, hbal, ?_⟩
  · simp only [settle, onSettled, howed]
    change p.queuedDatagramBytes - (p.work w).datagramBytes =
      p.queuedBytes + (tally p.workCount Work.owed p.work - (p.work w).datagramBytes)
    omega
  · simp only [settle, onSettled]
    omega

theorem ledger_clear (h : ByteLedger limit p) (hk : k < p.managedCount) :
    ByteLedger limit (p.clearDatagrams k) := by
  have hsession := h.session k
  have htotal := h.total
  have hle := h.le
  have hnonneg := bytes_nonneg (p.queue k)
  have hqueued : (p.clearDatagrams k).queuedBytes = p.queuedBytes - bytes (p.queue k) + bytes [] :=
    queuedBytes_setBuffer _ hk
  rw [bytes_nil] at hqueued
  refine ⟨session_setBuffer h.session (by simp), ?_, h.balanced, ?_⟩
  · rw [hqueued]
    simp only [clearDatagrams]
    omega
  · simp only [clearDatagrams]
    omega

theorem ledger_openSession {now : Int} (h : ByteLedger limit p) :
    ByteLedger limit (p.openSession options now) := by
  refine ⟨fun j => ?_, ?_, h.balanced, h.le⟩
  · by_cases hj : j = p.managedCount
    · subst hj
      simp [queue, openSession, newBuffer]
    · simpa [queue, openSession, hj] using h.session j
  · have hpush : (p.openSession options now).queuedBytes = p.queuedBytes + bytes [] := tally_push
    rw [hpush, bytes_nil]
    have htotal := h.total
    change p.queuedDatagramBytes = p.queuedBytes + 0 + tally p.workCount Work.owed p.work
    omega

/-- A transferred buffer is not charged again nor released: only what it reads has changed. -/
theorem ledger_detach (h : ByteLedger limit p) (hp : (p.work w).phase ≠ .settled) :
    ByteLedger limit { p with toWorkload := p.toWorkload.detach w } := by
  refine ⟨h.session, ?_, fun v hv => ?_, h.le⟩
  · have hsame : tally p.workCount Work.owed (p.toWorkload.detach w).work =
        tally p.workCount Work.owed p.work := by
      refine tally_congr fun v _ => ?_
      by_cases hv : v = w
      · subst hv
        simp [Workload.detach, Work.owed]
      · simp [Workload.detach, hv]
    exact h.total.trans (by rw [← hsame]; rfl)
  · have hbal := h.balanced v hv
    by_cases he : v = w
    · subst he
      constructor
      · simpa [Workload.detach] using hbal.unsettled
      · intro hs
        exact absurd (by simpa [Workload.detach] using hs) hp
      · simp [Workload.detach]
    · simpa [Workload.detach, he] using hbal

/-- Each operation of the data plane charges and releases the bytes of the same datagrams. -/
theorem ledger_step (hs : Step options p q) (hpl : Workload.Placement [] [] p.toWorkload)
    (h : ByteLedger options.limits.server.maxQueuedDatagramBytes.value p) :
    ByteLedger options.limits.server.maxQueuedDatagramBytes.value q := by
  cases hs with
  | @internal load hi =>
    obtain ⟨hbal, howed⟩ := Workload.owed_internal hi hpl h.balanced
    have hcount := hi.managedCount hpl
    have htotal := h.total
    refine ⟨h.session, ?_, hbal, h.le⟩
    unfold queuedBytes at htotal ⊢
    rw [howed, hcount]
    exact htotal
  | refuseAdmission => exact { h with }
  | openSession => exact ledger_openSession h
  | offer hk ho => exact ledger_offer h hk ho
  | drain hk hcapacity hd => exact ledger_drain h hk hd
  | @stream k id hk =>
    obtain ⟨hbal, howed⟩ :=
      Workload.owed_submit h.balanced k 0 options.execution.overflow (.stream id)
    have hcount := p.toWorkload.submit_managedCount k options.execution.overflow (.stream id) 0
    obtain ⟨hbuffer, -, -, -⟩ := p.submit_buffer options k (.stream id) 0
    have htotal := h.total
    rw [← p.submit_toWorkload options k (.stream id) 0] at hbal howed hcount
    refine ⟨?_, ?_, hbal, ?_⟩
    · simpa [queue, hbuffer] using h.session
    · unfold queuedBytes at htotal ⊢
      rw [howed, hcount, hbuffer, submit_queuedDatagramBytes]
      simpa using htotal
    · rw [submit_queuedDatagramBytes]
      exact h.le
  | settleTask hw hp hkind => exact ledger_settleTask h hpl hw hp
  | discard hp => exact ledger_discard h hpl hp
  | clear hk => exact ledger_clear h hk
  | detach hw hp => exact ledger_detach h hp

end DataPlane

end NestWebTransport
