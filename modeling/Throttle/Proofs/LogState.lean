import Mathlib
import Throttle.Proofs.BucketState

/-! # What a sliding log holds

Every log that a sliding-log limiter keeps is in order, holds no instant after its key's
last check and at most the cap on entries (`SlidingLog.Ordered`), whatever policies the
checks of its key use and whatever resets, evictions and clock moves come between them.
Pruning only drops entries from the front, and the store never gives a check an instant
before the key's last touch, so the order is what makes pruning drop every expired entry.

A check at `now` under a valid policy then leaves a log whose entries all lie in the
window ending at `now`; an admission ends it with `now`, within both the limit and the cap,
and counts the remaining requests from it whenever the limit fits under the cap; a refusal
leaves at least the limit of entries, so a limit above the cap is never refused
(`SlidingLog.Recorded`).
-/

namespace Throttle

namespace SlidingLog

/-! ## Pruning and trimming keep the tail of a log -/

theorem prune_suffix (w now : Duration) (log : List Duration) : prune w now log <:+ log := by
  unfold prune
  split
  · exact List.dropWhile_suffix _
  · exact List.suffix_refl log

theorem trim_suffix (M : Nat) (log : List Duration) : trim M log <:+ log :=
  List.drop_suffix _ _

theorem length_trim (M : Nat) (log : List Duration) : (trim M log).length = min log.length M := by
  simp only [trim, List.length_drop]
  omega

/-- Trimming a log just extended keeps the new entry last, while the cap is positive. -/
theorem getLast?_trim_snoc {M : Nat} (hM : 0 < M) (log : List Duration) (t : Duration) :
    (trim M (log ++ [t])).getLast? = some t := by
  unfold trim
  rw [List.length_append, List.length_singleton, List.drop_append_of_le_length (by omega)]
  simp

theorem create_eq_ok {M : Nat} {l : SlidingLog} : create M = .ok l ↔ 0 < M ∧ l = ⟨M, .empty⟩ := by
  unfold create
  split
  · rename_i hM
    simp [hM]
  · rename_i hM
    simp only [Except.ok.injEq]
    constructor
    · rintro rfl
      exact ⟨Nat.pos_of_ne_zero hM, rfl⟩
    · rintro ⟨-, rfl⟩
      rfl

/-! ## Logs in order -/

/-- A log as the checks of its key leave it, the last at `now`: in order, with no entry after
`now`, and at most `M` entries. -/
structure Ordered (M : Nat) (now : Duration) (log : List Duration) : Prop where
  sorted : log.Pairwise (· ≤ ·)
  le_now : ∀ e ∈ log, e ≤ now
  length_le : log.length ≤ M

variable {M : Nat} {p : Policy} {now t : Duration} {log : List Duration}

theorem Ordered.nil (M : Nat) (now : Duration) : Ordered M now [] :=
  ⟨.nil, by simp, Nat.zero_le M⟩

theorem Ordered.mono (h : Ordered M now log) (hle : now ≤ t) : Ordered M t log :=
  ⟨h.sorted, fun e he => (h.le_now e he).trans hle, h.length_le⟩

theorem Ordered.suffix {log' : List Duration} (h : Ordered M now log) (hs : log' <:+ log) :
    Ordered M now log' :=
  ⟨h.sorted.sublist hs.sublist, fun e he => h.le_now e (hs.subset he), hs.length_le.trans h.length_le⟩

theorem mem_trim_snoc {e : Duration} (he : e ∈ trim M (log ++ [t])) : e ∈ log ∨ e = t := by
  simpa using (trim_suffix M _).subset he

/-- Appending the instant of a check to a log in order, and trimming to the cap, keeps it in
order. -/
theorem Ordered.trim_snoc (h : Ordered M t log) : Ordered M t (trim M (log ++ [t])) := by
  have hsnoc : (log ++ [t]).Pairwise (· ≤ ·) :=
    List.pairwise_append.mpr ⟨h.sorted, List.pairwise_singleton _ _,
      fun e he u hu => (List.mem_singleton.mp hu) ▸ h.le_now e he⟩
  refine ⟨(hsnoc.sublist (trim_suffix M _).sublist), fun e he => ?_, ?_⟩
  · rcases mem_trim_snoc he with he | rfl
    · exact h.le_now e he
    · exact le_rfl
  · rw [length_trim]
    exact min_le_right _ _

/-- A check at `t`, no earlier than the last instant of an ordered log, leaves it ordered. -/
theorem record_ordered (h : Ordered M now log) (hle : now ≤ t) :
    Ordered M t (record M p log t).1 := by
  have hpruned : Ordered M t (prune p.window t log) := (h.mono hle).suffix (prune_suffix _ _ _)
  by_cases hlt : (prune p.window t log).length < p.limit
  · simp only [record, hlt, if_true]
    exact hpruned.trim_snoc
  · simp only [record, hlt, if_false]
    exact hpruned

/-! ## What a check leaves -/

/-- What a check at `now` under `p` leaves in a log with the cap `M`, with its decision `d`:
every entry lies in the window that ends at `now`; an admission ends the log with `now`,
keeps it within the limit and the cap, and counts the remaining requests from it when the
limit fits under the cap; a refusal leaves at least the limit of entries. -/
structure Recorded (M : Nat) (p : Policy) (now : Duration) (log : List Duration) (d : Decision) :
    Prop where
  live : ∀ e ∈ log, now.nanos < e.nanos + p.window.nanos
  admitted_last : d.allowed = true → log.getLast? = some now
  admitted_length : d.allowed = true → log.length ≤ min p.limit M
  admitted_remaining : d.allowed = true → p.limit ≤ M → d.remaining = p.limit - log.length
  refused_length : d.allowed = false → p.limit ≤ log.length

/-- A check whose limit exceeds the cap is admitted: a refusal would leave more entries than
the cap allows. -/
theorem Recorded.allowed_of_lt {d : Decision} (h : Recorded M p now log d) (hlen : log.length ≤ M)
    (hlimit : M < p.limit) : d.allowed = true := by
  cases hd : d.allowed
  · have := h.refused_length hd
    omega
  · rfl

/-- A check at `t` under a valid policy, on a log in order, leaves what `Recorded` says. -/
theorem record_recorded (hp : p.validate = .ok ()) (hM : 0 < M) (hsorted : log.Pairwise (· ≤ ·)) :
    Recorded M p t (record M p log t).1 (record M p log t).2 := by
  have hw : 0 < p.window.nanos := (Policy.validate_eq_ok.mp hp).2
  -- pruning the ordered log keeps exactly the entries still in the window
  have hlive : ∀ e ∈ prune p.window t log, counts p.window t e = true := by
    intro e he
    rw [prune_eq_filter hsorted] at he
    exact (List.mem_filter.mp he).2
  by_cases hlt : (prune p.window t log).length < p.limit
  · simp only [record, hlt, if_true]
    refine ⟨fun e he => ?_, fun _ => getLast?_trim_snoc hM _ t, fun _ => ?_, fun _ hLM => ?_,
      fun hd => by simp at hd⟩
    · rcases mem_trim_snoc he with he | rfl
      · simpa [counts] using hlive e he
      · omega
    · rw [length_trim, List.length_append, List.length_singleton]
      omega
    · simp only [Decision.allow, Decision.remaining, length_trim, List.length_append,
        List.length_singleton]
      omega
  · simp only [record, hlt, if_false]
    refine ⟨fun e he => by simpa [counts] using hlive e he, fun hd => by simp at hd,
      fun hd => by simp at hd, fun hd => by simp at hd, fun _ => by omega⟩

/-! ## Stores of ordered logs -/

/-- Every log of the store is ordered up to its last touch, and no touch is after `now`. -/
def StoreOrdered (M : Nat) (now : Duration) (st : KeyStore (List Duration)) : Prop :=
  ∀ x ∈ st.slots, Ordered M x.2.touched x.2.state ∧ x.2.touched ≤ now

variable {st st' : KeyStore (List Duration)}

theorem StoreOrdered.mono (h : StoreOrdered M now st) (hle : now ≤ t) : StoreOrdered M t st :=
  fun x hx => ⟨(h x hx).1, (h x hx).2.trans hle⟩

/-- Dropping slots keeps the others ordered. -/
theorem StoreOrdered.of_subset (h : StoreOrdered M now st) (hsub : st'.slots ⊆ st.slots) :
    StoreOrdered M now st' :=
  fun x hx => h x (hsub hx)

/-- A key is touched no later than `now`, and its log, or the new empty one, is ordered up to
`now`. -/
theorem StoreOrdered.base (h : StoreOrdered M now st) (key : String) :
    (∀ x ∈ st.slot? key, x.touched ≤ now) ∧
      Ordered M now ((st.slot? key).getD ⟨[], now, now⟩).state := by
  refine ⟨fun x hx => (h (key, x) (List.mem_of_lookup_eq_some hx)).2, ?_⟩
  cases hx : st.slot? key with
  | none => exact Ordered.nil M now
  | some x =>
      obtain ⟨hord, hle⟩ := h (key, x) (List.mem_of_lookup_eq_some hx)
      exact hord.mono hle

/-- A check of a key at `now` keeps the store ordered: the key is visited at `now` itself. -/
theorem StoreOrdered.update (h : StoreOrdered M now st) (key : String) :
    StoreOrdered M now (st.update key now p.window (fun _ => []) (record M p)).1 := by
  obtain ⟨hle, hbase⟩ := h.base key
  rw [KeyStore.update_eq, Slot.visit_of_le _ _ _ hle]
  intro x hx
  rcases KeyStore.mem_setSlot hx with rfl | hx
  · exact ⟨record_ordered hbase le_rfl, le_rfl⟩
  · exact h x hx

end SlidingLog

/-! ## Every run of a sliding-log limiter -/

namespace Session

/-- The session drives a sliding-log limiter with the cap `M` whose every log is ordered up
to its last touch, which the clock has reached. -/
def LogsOrdered (M : Nat) (s : Session) : Prop :=
  ∃ st, s.limiter = .slidingLog ⟨M, st⟩ ∧ SlidingLog.StoreOrdered M s.clock.now st

variable {M : Nat} {s : Session}

theorem keyed_update (M : Nat) (st : KeyStore (List Duration)) (key : String) (now : Duration)
    (p : Policy) :
    st.update key now ((SlidingLog.keyed M).hold p) ((SlidingLog.keyed M).init p)
        ((SlidingLog.keyed M).step p) =
      st.update key now p.window (fun _ => []) (SlidingLog.record M p) := rfl

/-- Every step keeps every log ordered. -/
theorem logsOrdered_step (h : s.LogsOrdered M) (c : Command) : (s.step c).1.LogsOrdered M := by
  obtain ⟨st, hs, hst⟩ := h
  obtain ⟨st', hs', hcases⟩ := (SlidingLog.keyed M).step_store hs c
  refine ⟨st', hs', ?_⟩
  rcases hcases with ⟨key, p, rfl, -, rfl⟩ | ⟨-, hst'⟩
  · -- a check visits its key at the clock, which stays
    rw [step_clock_eq, keyed_update]
    exact hst.update key
  · -- any other step keeps or drops slots, and the clock moves on
    refine (hst.mono (now_le_step s c)).of_subset ?_
    rcases hst' with rfl | ⟨k, rfl⟩ | ⟨ttl, rfl⟩
    · exact List.Subset.refl _
    · exact fun x hx => (List.mem_filter.mp hx).1
    · exact fun x hx => (List.mem_filter.mp hx).1

/-- Every run keeps every log ordered. -/
theorem logsOrdered_run : ∀ (cs : List Command) (s : Session), s.LogsOrdered M →
    (s.run cs).1.LogsOrdered M
  | [], _, h => h
  | c :: cs, s, h => by
      rw [run_cons_fst]
      exact logsOrdered_run cs _ (logsOrdered_step h c)

/-- A check under a valid policy, in a session whose logs are ordered and whose cap is
positive, answers with a decision at the clock and leaves its key the log `Recorded` says. -/
theorem check_recorded (h : s.LogsOrdered M) (hM : 0 < M) {p : Policy} (hp : p.validate = .ok ())
    (key : String) :
    ∃ (st' : KeyStore (List Duration)) (slot : Slot (List Duration)) (d : Decision),
      s.step (.check key p) = (⟨s.clock, .slidingLog ⟨M, st'⟩⟩, .decision d) ∧
      st'.slot? key = some slot ∧ slot.touched = s.clock.now ∧
      SlidingLog.Ordered M slot.touched slot.state ∧ SlidingLog.Recorded M p slot.touched slot.state d := by
  obtain ⟨st, hs, hst⟩ := h
  obtain ⟨hle, hbase⟩ := hst.base key
  have hstep := (SlidingLog.keyed M).step_check key hs hp
  rw [keyed_update] at hstep
  have hvisit := Slot.visit_of_le p.window (fun _ => []) (SlidingLog.record M p) hle
  refine ⟨_, (Slot.visit (st.slot? key) s.clock.now p.window (fun _ => []) (SlidingLog.record M p)).1,
    _, hstep, ?_, ?_, ?_⟩
  · rw [KeyStore.slot?_update, if_pos rfl]
  · rw [hvisit]
    rfl
  · rw [KeyStore.update_snd, hvisit]
    exact ⟨SlidingLog.record_ordered hbase le_rfl, SlidingLog.record_recorded hp hM hbase.sorted⟩

end Session

/-- Every log that a sliding-log limiter made with the cap `M` keeps, after any run of
commands (checks under policies that change from call to call, resets, evictions, clock
moves), is in order, holds no instant after its key's last touch, which the clock has
reached, and at most `M` entries. A check under a valid policy `p` from there is made at the
clock and leaves its key a log whose every entry lies in the window of `p` ending at the
check. When it admits, the log ends with the check's instant and holds at most
`min p.limit M` entries, and when the limit fits under the cap the remaining count is the
limit less the log's length; when it refuses, the log holds at least the limit, so a limit
above the cap is never refused. -/
theorem slidingLog_logs_ordered {M : Nat} {l : SlidingLog} (hl : SlidingLog.create M = .ok l)
    (clock : Clock) (cs : List Command) :
    let s := ((⟨clock, .slidingLog l⟩ : Session).run cs).1
    ∃ st : KeyStore (List Duration), s.limiter = .slidingLog ⟨M, st⟩ ∧
      (∀ x ∈ st.slots, x.2.state.Pairwise (· ≤ ·) ∧ (∀ e ∈ x.2.state, e ≤ x.2.touched) ∧
        x.2.state.length ≤ M ∧ x.2.touched ≤ s.clock.now) ∧
      ∀ (key : String) (p : Policy), p.validate = .ok () →
        ∃ (st' : KeyStore (List Duration)) (slot : Slot (List Duration)) (d : Decision),
          s.step (.check key p) = (⟨s.clock, .slidingLog ⟨M, st'⟩⟩, .decision d) ∧
          st'.slot? key = some slot ∧ slot.touched = s.clock.now ∧
          (∀ e ∈ slot.state, s.clock.now.nanos < e.nanos + p.window.nanos) ∧
          (d.allowed = true → slot.state.getLast? = some s.clock.now ∧
            slot.state.length ≤ min p.limit M ∧
            (p.limit ≤ M → d.remaining = p.limit - slot.state.length)) ∧
          (d.allowed = false → p.limit ≤ slot.state.length) ∧
          (M < p.limit → d.allowed = true) := by
  intro s
  obtain ⟨hM, rfl⟩ := SlidingLog.create_eq_ok.mp hl
  have hstart : Session.LogsOrdered M ⟨clock, .slidingLog ⟨M, .empty⟩⟩ :=
    ⟨.empty, rfl, fun x hx => by cases hx⟩
  have hrun : s.LogsOrdered M := Session.logsOrdered_run cs _ hstart
  obtain ⟨st, hs, hst⟩ := hrun
  refine ⟨st, hs, fun x hx => ?_, fun key p hp => ?_⟩
  · obtain ⟨hord, hle⟩ := hst x hx
    exact ⟨hord.sorted, hord.le_now, hord.length_le, hle⟩
  · obtain ⟨st', slot, d, hstep, hslot, htouched, hord, hrec⟩ :=
      Session.check_recorded ⟨st, hs, hst⟩ hM hp key
    rw [htouched] at hrec
    exact ⟨st', slot, d, hstep, hslot, htouched, hrec.live,
      fun hd => ⟨hrec.admitted_last hd, hrec.admitted_length hd, hrec.admitted_remaining hd⟩,
      hrec.refused_length, hrec.allowed_of_lt hord.length_le⟩

/-- A log capped at two entries for one key, checked under three requests per ten seconds,
then under one per two seconds after a reset of another key and an eviction. -/
theorem slidingLog_logs_ordered_policy_change :
    let cs := [Command.check "a" (Policy.ofSecs 3 10), .check "a" (Policy.ofSecs 3 10),
      .check "a" (Policy.ofSecs 3 10), .advance (Duration.ofSecs 4), .reset "b",
      .evictIdle Duration.zero, .check "a" (Policy.ofSecs 1 2)]
    let s := ((⟨⟨Duration.zero⟩, .slidingLog ⟨2, .empty⟩⟩ : Session).run cs).1
    SlidingLog.create 2 = .ok ⟨2, .empty⟩ ∧
    ∃ st : KeyStore (List Duration), s.limiter = .slidingLog ⟨2, st⟩ ∧
      (∀ x ∈ st.slots, x.2.state.Pairwise (· ≤ ·) ∧ (∀ e ∈ x.2.state, e ≤ x.2.touched) ∧
        x.2.state.length ≤ 2 ∧ x.2.touched ≤ s.clock.now) ∧
      ∀ (key : String) (p : Policy), p.validate = .ok () →
        ∃ (st' : KeyStore (List Duration)) (slot : Slot (List Duration)) (d : Decision),
          s.step (.check key p) = (⟨s.clock, .slidingLog ⟨2, st'⟩⟩, .decision d) ∧
          st'.slot? key = some slot ∧ slot.touched = s.clock.now ∧
          (∀ e ∈ slot.state, s.clock.now.nanos < e.nanos + p.window.nanos) ∧
          (d.allowed = true → slot.state.getLast? = some s.clock.now ∧
            slot.state.length ≤ min p.limit 2 ∧
            (p.limit ≤ 2 → d.remaining = p.limit - slot.state.length)) ∧
          (d.allowed = false → p.limit ≤ slot.state.length) ∧
          (2 < p.limit → d.allowed = true) := by
  have hl : SlidingLog.create 2 = .ok ⟨2, .empty⟩ := rfl
  have h := slidingLog_logs_ordered hl ⟨Duration.zero⟩ [Command.check "a" (Policy.ofSecs 3 10),
    .check "a" (Policy.ofSecs 3 10), .check "a" (Policy.ofSecs 3 10), .advance (Duration.ofSecs 4),
    .reset "b", .evictIdle Duration.zero, .check "a" (Policy.ofSecs 1 2)]
  exact ⟨hl, h⟩

end Throttle
