import Mathlib
import RowQuery.Shutdown

/-!
# When waits for shutdown end

What was done is read from a history: the operations in order, each with its answer. A wait that is
polled ends if the signal was given anywhere before or if every handle was dropped, and else it goes
on. Two facts of the channel carry this. Every handle holds a share of the sender and a receiver, so
no signal is lost and the channel is closed with the last handle. And the value of a version that a
suspended wait has seen is false, so the wait misses nothing by looking at later versions only.
-/
namespace RowQuery.Shutdown

def IsWaiting (s : Shutdown) (n : Nat) : Prop := ∃ w, s.waits[n]? = some w ∧ w.isEnded = false

/-- The signal is given, or no handle is left. -/
def Over (s : Shutdown) : Prop := s.channel.value = true ∨ true ∉ s.handles

def Has (s : Shutdown) : Operation → Prop
  | .trigger i | .clone i | .drop i | .wait i => s.isHandle i = true
  | .poll n => s.IsWaiting n

/-- The channel counts the handles and the waits, and no wait has seen the signal and gone on. -/
structure Sound (s : Shutdown) : Prop where
  shares : s.channel.shares = s.handles.count true
  receivers : s.channel.receivers = s.handles.count true + s.waits.countP (!·.isEnded)
  seen : ∀ v, .suspended v ∈ s.waits →
    v ≤ s.channel.version ∧ (v = s.channel.version → s.channel.value = false)

def signalled (s : Shutdown) : Shutdown :=
  { s with channel := { s.channel with value := true, version := s.channel.version + 1 } }

@[simp] theorem signalled_value (s : Shutdown) : s.signalled.channel.value = true := rfl

@[simp] theorem signalled_handles (s : Shutdown) : s.signalled.handles = s.handles := rfl

@[simp] theorem signalled_waits (s : Shutdown) : s.signalled.waits = s.waits := rfl

inductive Does (s : Shutdown) : Operation → Shutdown → Answer → Prop
  | trigger {i : Nat} : s.isHandle i = true → Does s (.trigger i) s.signalled .done
  | clone {i : Nat} : s.isHandle i = true → Does s (.clone i)
      ⟨s.channel.share.subscribe, s.handles ++ [true], s.waits⟩ (.handle s.handles.length)
  | drop {i : Nat} : s.isHandle i = true → Does s (.drop i)
      ⟨s.channel.unshare.unsubscribe, s.handles.set i false, s.waits⟩ .done
  | wait {i : Nat} : s.isHandle i = true → Does s (.wait i)
      ⟨s.channel.subscribe, s.handles, s.waits ++ [.created]⟩ (.future s.waits.length)
  | ready {n : Nat} : s.IsWaiting n → s.Over → Does s (.poll n)
      ⟨s.channel.unsubscribe, s.handles, s.waits.set n .ended⟩ .ready
  | pending {n : Nat} : s.IsWaiting n → ¬s.Over → Does s (.poll n)
      ⟨s.channel, s.handles, s.waits.set n (.suspended s.channel.version)⟩ .pending
  | gone {o : Operation} : ¬s.Has o → Does s o s .gone

variable {s s' t : Shutdown} {o : Operation} {a : Answer}

theorem isHandle_iff {i : Nat} : s.isHandle i = true ↔ s.handles[i]? = some true := beq_iff_eq

theorem lt_of_isHandle {i : Nat} (h : s.isHandle i = true) : i < s.handles.length :=
  (List.getElem?_eq_some_iff.mp (isHandle_iff.mp h)).1

theorem count_set_handle {i : Nat} (h : s.isHandle i = true) :
    (s.handles.set i false).count true = s.handles.count true - 1 := by
  obtain ⟨hlt, hlive⟩ := List.getElem?_eq_some_iff.mp (isHandle_iff.mp h)
  simp [List.count_set hlt, hlive]

theorem countP_set_wait {n : Nat} (h : s.IsWaiting n) (w : Wait) :
    (s.waits.set n w).countP (!·.isEnded) + 1 =
      s.waits.countP (!·.isEnded) + if w.isEnded then 0 else 1 := by
  obtain ⟨old, hold, hlive⟩ := h
  obtain ⟨hlt, hget⟩ := List.getElem?_eq_some_iff.mp hold
  have hpos : 0 < s.waits.countP (!·.isEnded) :=
    List.countP_pos_iff.mpr ⟨old, List.mem_of_getElem? hold, by simp [hlive]⟩
  cases hw : w.isEnded <;> simp [List.countP_set hlt, hget, hlive, hw] <;> omega

theorem count_pos_of_isHandle {i : Nat} (h : s.isHandle i = true) : 0 < s.handles.count true :=
  List.count_pos_iff.mpr (List.mem_of_getElem? (isHandle_iff.mp h))

namespace Sound

theorem isClosed_iff (h : Sound s) : s.channel.isClosed = true ↔ true ∉ s.handles := by
  rw [Channel.isClosed, h.shares, beq_iff_eq, List.count_eq_zero]

theorem over_iff (h : Sound s) : s.Over ↔ (s.channel.value || s.channel.isClosed) = true := by
  rw [Over, Bool.or_eq_true, h.isClosed_iff]

theorem signal_eq (h : Sound s) {i : Nat} (hi : s.isHandle i = true) :
    s.signal = s.signalled := by
  have hpos := count_pos_of_isHandle hi
  have hsome : s.channel.receivers ≠ 0 := by
    rw [h.receivers]
    omega
  rw [signal, Channel.send?, if_neg hsome]
  rfl

theorem poll_of_over (h : Sound s) {w : Wait} (hw : w ∈ s.waits) (hover : s.Over) :
    s.channel.poll w = .ended := by
  have hlook : s.channel.look = .ended := by
    rw [Channel.look, if_pos (h.over_iff.mp hover)]
  cases w with
  | created => exact hlook
  | suspended v =>
    rw [Channel.poll]
    split
    · exact hlook
    · next hlatest =>
      -- the version seen is the latest, so the signal is not given and no handle is left
      have hvalue := (h.seen v hw).2 (not_not.mp hlatest).symm
      have hclosed : s.channel.isClosed = true := by
        simpa [hvalue] using h.over_iff.mp hover
      rw [if_pos hclosed]
  | ended => rfl

theorem poll_of_not_over (h : Sound s) {w : Wait} (hw : w.isEnded = false) (hover : ¬s.Over) :
    s.channel.poll w = .suspended s.channel.version := by
  have hnot : ¬(s.channel.value || s.channel.isClosed) = true := mt h.over_iff.mpr hover
  have hlook : s.channel.look = .suspended s.channel.version := by
    rw [Channel.look, if_neg hnot]
  cases w with
  | created => exact hlook
  | suspended v =>
    rw [Channel.poll]
    split
    · exact hlook
    · next hlatest =>
      have hopen : ¬s.channel.isClosed = true := fun hclosed => hnot (by simp [hclosed])
      rw [if_neg hopen, not_not.mp hlatest]
  | ended => cases hw

end Sound

theorem exists_does (s : Shutdown) (o : Operation) : ∃ s' a, Does s o s' a := by
  by_cases h : s.Has o
  · cases o with
    | trigger i => exact ⟨_, _, .trigger h⟩
    | clone i => exact ⟨_, _, .clone h⟩
    | drop i => exact ⟨_, _, .drop h⟩
    | wait i => exact ⟨_, _, .wait h⟩
    | poll n =>
      by_cases hover : s.Over
      · exact ⟨_, _, .ready h hover⟩
      · exact ⟨_, _, .pending h hover⟩
  · exact ⟨_, _, .gone h⟩

theorem step_of_not_has (h : ¬s.Has o) : s.step o = (s, .gone) := by
  cases o with
  | poll n =>
    rw [step]
    split
    · next w hw =>
      have hended : w.isEnded = true := by
        by_contra hlive
        exact h ⟨w, hw, Bool.not_eq_true _ ▸ hlive⟩
      rw [if_pos hended]
    · rfl
  | _ => exact if_neg h

theorem Does.step_eq (h : Does s o s' a) (hs : Sound s) : s.step o = (s', a) := by
  cases h with
  | trigger hi => rw [step, if_pos hi, hs.signal_eq hi]
  | clone hi => rw [step, if_pos hi]
  | drop hi => rw [step, if_pos hi]
  | wait hi => rw [step, if_pos hi]
  | ready hn hover =>
    obtain ⟨w, hw, hlive⟩ := hn
    have hpoll := hs.poll_of_over (List.mem_of_getElem? hw) hover
    simp [step, hw, hlive, pollWait, hpoll]
  | pending hn hover =>
    obtain ⟨w, hw, hlive⟩ := hn
    have hpoll := hs.poll_of_not_over hlive hover
    simp [step, hw, hlive, pollWait, hpoll]
  | gone hnot => exact step_of_not_has hnot

theorem Sound.does_step (hs : Sound s) (o : Operation) : Does s o (s.step o).1 (s.step o).2 := by
  obtain ⟨s', a, h⟩ := exists_does s o
  rw [h.step_eq hs]
  exact h

theorem sound_initial : Sound initial := ⟨rfl, rfl, fun _ h => absurd h List.not_mem_nil⟩

theorem Does.sound (h : Does s o s' a) (hs : Sound s) : Sound s' := by
  obtain ⟨shares, receivers, seen⟩ := hs
  cases h with
  | trigger hi =>
    refine ⟨shares, receivers, fun v hv => ?_⟩
    have hle := (seen v hv).1
    exact ⟨Nat.le_succ_of_le hle, fun heq => absurd heq (Nat.lt_succ_of_le hle).ne⟩
  | clone hi =>
    refine ⟨?_, ?_, seen⟩
    · simp [Channel.share, Channel.subscribe, shares]
    · simp [Channel.share, Channel.subscribe, receivers]
      omega
  | drop hi =>
    have hpos := count_pos_of_isHandle hi
    refine ⟨?_, ?_, seen⟩
    · simp [Channel.unshare, Channel.unsubscribe, shares, count_set_handle hi]
    · simp [Channel.unshare, Channel.unsubscribe, receivers, count_set_handle hi]
      omega
  | wait hi =>
    refine ⟨shares, ?_, fun v hv => seen v ?_⟩
    · simp [Channel.subscribe, receivers]
      omega
    · simpa using hv
  -- The wait that ends gives its receiver back; all others are as they were.
  | ready hn hover =>
    have hcount := countP_set_wait hn .ended
    refine ⟨shares, ?_, fun v hv => seen v ?_⟩
    · simp only [Wait.isEnded_ended, if_true] at hcount
      simp only [Channel.unsubscribe, receivers]
      omega
    · exact (List.mem_or_eq_of_mem_set hv).resolve_right nofun
  | pending hn hover =>
    have hcount := countP_set_wait hn (.suspended s.channel.version)
    refine ⟨shares, ?_, fun v hv => ?_⟩
    · simp only [Wait.isEnded_suspended, Bool.false_eq_true, if_false, Nat.add_right_cancel_iff]
        at hcount
      rw [receivers, hcount]
    · rcases List.mem_or_eq_of_mem_set hv with hold | hnew
      · exact seen v hold
      -- It goes on because the value it saw was false, and no newer one has been sent.
      · obtain rfl := Wait.suspended.inj hnew
        have hvalue : s.channel.value = false := Bool.not_eq_true _ ▸ fun hv => hover (.inl hv)
        exact ⟨Nat.le_refl _, fun _ => hvalue⟩
  | gone hnot => exact ⟨shares, receivers, seen⟩

abbrev History := List (Operation × Answer)

namespace History

def Given (h : History) : Prop := ∃ i, (.trigger i, .done) ∈ h

def Made (h : History) (i : Nat) : Prop := i = 0 ∨ ∃ j, (.clone j, .handle i) ∈ h

def Held (h : History) (i : Nat) : Prop := h.Made i ∧ (.drop i, .done) ∉ h

def Begun (h : History) (n : Nat) : Prop := ∃ i, (.wait i, .future n) ∈ h

def Awaits (h : History) (n : Nat) : Prop := h.Begun n ∧ (.poll n, .ready) ∉ h

end History

/-- The state holds what the history says was done. -/
structure Reflects (s : Shutdown) (h : History) : Prop where
  given : s.channel.value = true ↔ h.Given
  made : ∀ i, i < s.handles.length ↔ h.Made i
  dropped : ∀ i, s.handles[i]? = some false ↔ (.drop i, .done) ∈ h
  begun : ∀ n, n < s.waits.length ↔ h.Begun n
  ended : ∀ n, s.waits[n]? = some .ended ↔ (.poll n, .ready) ∈ h

theorem reflects_initial : Reflects initial [] where
  given := by simp [initial, Channel.initial, History.Given]
  made i := by simp [initial, History.Made]
  dropped i := by cases i <;> simp [initial]
  begun n := by simp [initial, History.Begun]
  ended n := by simp [initial]

theorem getElem?_append_other {α : Type} {x y : α} (h : x ≠ y) (xs : List α) (i : Nat) :
    (xs ++ [x])[i]? = some y ↔ xs[i]? = some y := by
  rw [List.getElem?_append]
  split
  · exact Iff.rfl
  · next hlt =>
    have hnone : xs[i]? = none := List.getElem?_eq_none (Nat.le_of_not_lt hlt)
    simp [hnone, List.getElem?_singleton, h]

namespace Does

theorem value_iff (h : Does s o s' a) : s'.channel.value = true ↔
    s.channel.value = true ∨ ∃ i, o = .trigger i ∧ a = .done := by
  cases h with
  | trigger hi => simp
  | _ => simp [Channel.share, Channel.subscribe, Channel.unshare, Channel.unsubscribe]

theorem made_iff (h : Does s o s' a) (i : Nat) : i < s'.handles.length ↔
    i < s.handles.length ∨ ∃ j, o = .clone j ∧ a = .handle i := by
  cases h with
  | clone hi =>
    simp only [List.length_append, List.length_singleton, Nat.lt_succ_iff_lt_or_eq,
      Operation.clone.injEq, Answer.handle.injEq, exists_and_right, exists_eq', true_and]
    exact or_congr_right eq_comm
  | _ => simp

theorem dropped_iff (h : Does s o s' a) (i : Nat) : s'.handles[i]? = some false ↔
    s.handles[i]? = some false ∨ o = .drop i ∧ a = .done := by
  cases h with
  | @drop j hj =>
    have hlt := lt_of_isHandle hj
    by_cases hij : j = i
    · subst hij
      simp [hlt]
    · simp [hij]
  | clone hi => simp [getElem?_append_other]
  | _ => simp

theorem begun_iff (h : Does s o s' a) (n : Nat) : n < s'.waits.length ↔
    n < s.waits.length ∨ ∃ i, o = .wait i ∧ a = .future n := by
  cases h with
  | wait hi =>
    simp only [List.length_append, List.length_singleton, Nat.lt_succ_iff_lt_or_eq,
      Operation.wait.injEq, Answer.future.injEq, exists_and_right, exists_eq', true_and]
    exact or_congr_right eq_comm
  | _ => simp

theorem ended_iff (h : Does s o s' a) (n : Nat) : s'.waits[n]? = some .ended ↔
    s.waits[n]? = some .ended ∨ o = .poll n ∧ a = .ready := by
  cases h with
  | wait hi => simp [getElem?_append_other]
  | @ready m hm hover =>
    obtain ⟨w, hw, -⟩ := hm
    obtain ⟨hlt, -⟩ := List.getElem?_eq_some_iff.mp hw
    by_cases hmn : m = n
    · subst hmn
      simp [hlt]
    · simp [hmn]
  | @pending m hm hover =>
    obtain ⟨w, hw, hlive⟩ := hm
    obtain ⟨hlt, -⟩ := List.getElem?_eq_some_iff.mp hw
    by_cases hmn : m = n
    · subst hmn
      have hnot : w ≠ .ended := fun he => by simp [he] at hlive
      rw [List.getElem?_set_self hlt, hw]
      simp [hnot]
    · simp [hmn]
  | _ => simp

theorem reflects {h : History} (hd : Does s o s' a) (hr : Reflects s h) :
    Reflects s' (h ++ [(o, a)]) where
  given := by
    rw [hd.value_iff, hr.given]
    simp [History.Given, exists_or, eq_comm]
  made i := by
    rw [hd.made_iff, hr.made]
    simp [History.Made, exists_or, or_assoc, eq_comm]
  dropped i := by
    rw [hd.dropped_iff, hr.dropped]
    simp [eq_comm]
  begun n := by
    rw [hd.begun_iff, hr.begun]
    simp [History.Begun, exists_or, eq_comm]
  ended n := by
    rw [hd.ended_iff, hr.ended]
    simp [eq_comm]

end Does

namespace Reflects
variable {h : History}

theorem held_iff (hr : Reflects s h) (i : Nat) : s.isHandle i = true ↔ h.Held i := by
  rw [History.Held, ← hr.made, ← hr.dropped, isHandle_iff]
  cases hi : s.handles[i]? with
  | none => simpa using List.getElem?_eq_none_iff.mp hi
  | some live =>
    have hlt := (List.getElem?_eq_some_iff.mp hi).1
    cases live <;> simp [hlt]

theorem awaits_iff (hr : Reflects s h) (n : Nat) : s.IsWaiting n ↔ h.Awaits n := by
  rw [History.Awaits, ← hr.begun, ← hr.ended, IsWaiting]
  cases hn : s.waits[n]? with
  | none => simpa using List.getElem?_eq_none_iff.mp hn
  | some w =>
    have hlt := (List.getElem?_eq_some_iff.mp hn).1
    cases w <;> simp [hlt]

theorem over_iff (hr : Reflects s h) : s.Over ↔ h.Given ∨ ∀ i, ¬h.Held i := by
  have hnone : true ∉ s.handles ↔ ∀ i, ¬h.Held i := by
    simp only [← hr.held_iff, isHandle_iff, List.mem_iff_getElem?, not_exists]
  rw [Over, hr.given, hnone]

end Reflects

def after (os : List Operation) : Shutdown := (initial.run os).1

def history (os : List Operation) : History := os.zip (initial.run os).2

def answer (os : List Operation) (o : Operation) : Answer := ((after os).step o).2

def answers (os more : List Operation) : List Answer := ((after os).run more).2

theorem run_cons (s : Shutdown) (o : Operation) (os : List Operation) : s.run (o :: os) =
    (((s.step o).1.run os).1, (s.step o).2 :: ((s.step o).1.run os).2) := rfl

theorem run_append (s : Shutdown) (os more : List Operation) : s.run (os ++ more) =
    (((s.run os).1.run more).1, (s.run os).2 ++ ((s.run os).1.run more).2) := by
  induction os generalizing s with
  | nil => rfl
  | cons o os ih => simp only [List.cons_append, run_cons, ih]

theorem length_run (s : Shutdown) (os : List Operation) : (s.run os).2.length = os.length := by
  induction os generalizing s with
  | nil => rfl
  | cons o os ih => simp [run_cons, ih]

theorem after_append (os more : List Operation) :
    after (os ++ more) = ((after os).run more).1 := by
  rw [after, run_append, after]

theorem history_append (os more : List Operation) :
    history (os ++ more) = history os ++ more.zip (answers os more) := by
  have hlength : os.length = (initial.run os).2.length := (length_run initial os).symm
  rw [history, run_append, List.zip_append hlength]
  rfl

theorem after_snoc (os : List Operation) (o : Operation) :
    after (os ++ [o]) = ((after os).step o).1 := after_append os [o]

theorem history_snoc (os : List Operation) (o : Operation) :
    history (os ++ [o]) = history os ++ [(o, answer os o)] := history_append os [o]

theorem sound_and_reflects (os : List Operation) :
    Sound (after os) ∧ Reflects (after os) (history os) := by
  induction os using List.reverseRecOn with
  | nil => exact ⟨sound_initial, reflects_initial⟩
  | append_singleton os o ih =>
    obtain ⟨hs, hr⟩ := ih
    have hdoes := hs.does_step o
    rw [after_snoc, history_snoc]
    exact ⟨hdoes.sound hs, hdoes.reflects hr⟩

theorem answer_of_does {os : List Operation} (h : Does (after os) o s' a) : answer os o = a :=
  congrArg Prod.snd (h.step_eq (sound_and_reflects os).1)

theorem History.Given.append {os : List Operation} (h : (history os).Given)
    (more : List Operation) : (history (os ++ more)).Given := by
  obtain ⟨i, hi⟩ := h
  rw [history_append]
  exact ⟨i, List.mem_append_left _ hi⟩

structure Alike (s t : Shutdown) : Prop where
  given : s.channel.value = true ∧ t.channel.value = true
  handles : t.handles = s.handles
  waits : t.waits = s.waits

theorem Does.alike (h : Does s o s' a) (hs : Alike s t) : ∃ t', Does t o t' a ∧ Alike s' t' := by
  obtain ⟨⟨hgiven, hgiven'⟩, handles, waits⟩ := hs
  have hhandle (i : Nat) : t.isHandle i = s.isHandle i := by rw [isHandle, handles, isHandle]
  have hwaiting (n : Nat) : t.IsWaiting n ↔ s.IsWaiting n := by rw [IsWaiting, waits, IsWaiting]
  cases h with
  | trigger hi => exact ⟨_, .trigger ((hhandle _).trans hi), ⟨rfl, rfl⟩, handles, waits⟩
  | clone hi =>
    rw [← handles]
    exact ⟨_, .clone ((hhandle _).trans hi), ⟨hgiven, hgiven'⟩, rfl, waits⟩
  | drop hi =>
    rw [← handles]
    exact ⟨_, .drop ((hhandle _).trans hi), ⟨hgiven, hgiven'⟩, rfl, waits⟩
  | wait hi =>
    rw [← waits]
    exact ⟨_, .wait ((hhandle _).trans hi), ⟨hgiven, hgiven'⟩, handles, rfl⟩
  | ready hn hover =>
    rw [← waits]
    exact ⟨_, .ready ((hwaiting _).mpr hn) (.inl hgiven'), ⟨hgiven, hgiven'⟩, handles, rfl⟩
  | pending hn hover => exact absurd (.inl hgiven) hover
  | gone hnot =>
    refine ⟨t, .gone fun hhas => hnot ?_, ⟨hgiven, hgiven'⟩, handles, waits⟩
    cases o with
    | poll n => exact (hwaiting n).mp hhas
    | _ => exact (hhandle _).symm.trans hhas

theorem Alike.run_eq (h : Alike s t) (hs : Sound s) (ht : Sound t) (os : List Operation) :
    (t.run os).2 = (s.run os).2 := by
  induction os generalizing s t with
  | nil => rfl
  | cons o os ih =>
    have hdoes := hs.does_step o
    obtain ⟨t', hdoes', halike⟩ := hdoes.alike h
    have hrest := ih halike (hdoes.sound hs) (hdoes'.sound ht)
    simp only [run_cons, hdoes'.step_eq ht, hrest]

theorem answer_poll_of_over {os : List Operation} {n : Nat} (h : (history os).Awaits n)
    (hover : (history os).Given ∨ ∀ i, ¬(history os).Held i) : answer os (.poll n) = .ready := by
  have hr := (sound_and_reflects os).2
  exact answer_of_does (.ready ((hr.awaits_iff n).mpr h) (hr.over_iff.mpr hover))

theorem answer_poll_of_not_over {os : List Operation} {n : Nat} (h : (history os).Awaits n)
    (hover : ¬(history os).Given ∧ ∃ i, (history os).Held i) :
    answer os (.poll n) = .pending := by
  have hr := (sound_and_reflects os).2
  have hnot : ¬(after os).Over := by rwa [hr.over_iff, not_or, not_forall_not]
  exact answer_of_does (.pending ((hr.awaits_iff n).mpr h) hnot)

theorem answer_poll_of_not_awaits {os : List Operation} {n : Nat} (h : ¬(history os).Awaits n) :
    answer os (.poll n) = .gone := by
  have hr := (sound_and_reflects os).2
  exact answer_of_does (.gone (mt (hr.awaits_iff n).mp h))

theorem answers_of_given_twice {os : List Operation} (h : (history os).Given) {i : Nat}
    (hi : (history os).Held i) (more : List Operation) :
    answers (os ++ [.trigger i]) more = answers os more := by
  obtain ⟨hs, hr⟩ := sound_and_reflects os
  have hdoes := Does.trigger ((hr.held_iff i).mpr hi)
  have halike : Alike (after os) (after os).signalled := ⟨⟨hr.given.mpr h, rfl⟩, rfl, rfl⟩
  rw [answers, after_snoc, hdoes.step_eq hs]
  exact halike.run_eq hs (hdoes.sound hs) more

theorem answer_of_held {os : List Operation} {i : Nat} (h : (history os).Held i) :
    answer os (.trigger i) = .done ∧ answer os (.drop i) = .done ∧
      (∃ j, answer os (.clone i) = .handle j ∧ ¬(history os).Made j) ∧
      ∃ n, answer os (.wait i) = .future n ∧ ¬(history os).Begun n := by
  have hr := (sound_and_reflects os).2
  have hi := (hr.held_iff i).mpr h
  refine ⟨answer_of_does (.trigger hi), answer_of_does (.drop hi),
    ⟨_, answer_of_does (.clone hi), ?_⟩, ⟨_, answer_of_does (.wait hi), ?_⟩⟩
  · rw [← hr.made]
    exact Nat.lt_irrefl _
  · rw [← hr.begun]
    exact Nat.lt_irrefl _

theorem answer_of_not_held {os : List Operation} {i : Nat} (h : ¬(history os).Held i)
    (ho : o ∈ [.trigger i, .drop i, .clone i, .wait i]) : answer os o = .gone := by
  have hnone := mt ((sound_and_reflects os).2.held_iff i).mp h
  refine answer_of_does (.gone ?_)
  simp only [List.mem_cons, List.not_mem_nil, or_false] at ho
  rcases ho with rfl | rfl | rfl | rfl <;> exact hnone

/-- Whatever was done before, a wait that is polled ends exactly if the signal was given or every
handle was dropped. Given once, the signal ends every wait there is or will be, and given again it
changes no answer. While a handle is held it does what it is asked to, and it alone does: a handle
that was dropped gives no signal. -/
theorem waits_end_with_signal (os : List Operation) :
    let h := history os
    (∀ n, h.Awaits n →
      (answer os (.poll n) = .ready ↔ h.Given ∨ ∀ i, ¬h.Held i) ∧
      (answer os (.poll n) = .pending ↔ ¬h.Given ∧ ∃ i, h.Held i)) ∧
    (h.Given → ∀ more n, (history (os ++ more)).Awaits n →
      answer (os ++ more) (.poll n) = .ready) ∧
    (h.Given → ∀ i, h.Held i → ∀ more,
      answers (os ++ [.trigger i]) more = answers os more) ∧
    ((∃ i, h.Held i) → ¬h.Given → ∀ n, answer os (.poll n) ≠ .ready) ∧
    ∀ i, (h.Held i →
      answer os (.trigger i) = .done ∧ answer os (.drop i) = .done ∧
      (∃ j, answer os (.clone i) = .handle j ∧ ¬h.Made j) ∧
      ∃ n, answer os (.wait i) = .future n ∧ ¬h.Begun n) ∧
      (¬h.Held i → ∀ o ∈ [.trigger i, .drop i, .clone i, .wait i], answer os o = .gone) := by
  intro h
  refine ⟨fun n hn => ?_, fun hgiven more n hn => ?_, fun hgiven i hi more => ?_,
    fun ⟨i, hi⟩ hnot n => ?_, fun i => ⟨answer_of_held, fun hi o => answer_of_not_held hi⟩⟩
  · have hnot : ¬(h.Given ∨ ∀ i, ¬h.Held i) ↔ ¬h.Given ∧ ∃ i, h.Held i := by
      rw [not_or, not_forall_not]
    by_cases hover : h.Given ∨ ∀ i, ¬h.Held i
    · simp [answer_poll_of_over hn hover, hover, ← hnot]
    · simp [answer_poll_of_not_over hn (hnot.mp hover), hover, ← hnot]
  · exact answer_poll_of_over hn (.inl (hgiven.append more))
  · exact answers_of_given_twice hgiven hi more
  · by_cases hn : h.Awaits n
    · simp [answer_poll_of_not_over hn ⟨hnot, i, hi⟩]
    · simp [answer_poll_of_not_awaits hn]

/-- Of two handles one is dropped, and the other gives the signal twice: a wait that was polled
before and one that begins afterwards both end. -/
theorem waits_end_with_signal_once_and_twice :
    let os : List Operation := [.clone 0, .wait 0, .poll 0, .drop 0, .trigger 1]
    (initial.run os).2 = [.handle 1, .future 0, .pending, .done, .done] ∧
      (history os).Given ∧ (history os).Awaits 0 ∧ (history os).Held 1 ∧ ¬(history os).Held 0 ∧
      answer os (.poll 0) = .ready ∧
      answers (os ++ [.trigger 1]) [.wait 1, .poll 1] = [.future 1, .ready] ∧
      answer os (.trigger 0) = .gone := by
  intro os
  have hgiven : (history os).Given := ⟨1, by decide⟩
  have hwait : (history os).Awaits 0 := ⟨⟨0, by decide⟩, by decide⟩
  have hheld : (history os).Held 1 := ⟨.inr ⟨0, by decide⟩, by decide⟩
  have hdropped : ¬(history os).Held 0 := fun h => h.2 (by decide)
  obtain ⟨hpoll, -, htwice, -, hhandles⟩ := waits_end_with_signal os
  have hmore : answers os [.wait 1, .poll 1] = [.future 1, .ready] := by decide
  exact ⟨by decide, hgiven, hwait, hheld, hdropped, (hpoll 0 hwait).1.mpr (.inl hgiven),
    (htwice hgiven 1 hheld _).trans hmore, (hhandles 0).2 hdropped _ List.mem_cons_self⟩

end RowQuery.Shutdown
