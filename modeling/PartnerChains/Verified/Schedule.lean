import Mathlib.Tactic

/-!
# Schedules of slots and epochs

A schedule is a list of segments.  A segment says when its first slot and its
first epoch start, how many slots an epoch has and how long a slot takes; it
ends after a whole number of epochs, where the next one begins.  A segment may
have no epoch at all.

Inside one segment, epochs and times are linear in the slot.  A schedule is
linear as a whole exactly if the segments that have slots all have the same
lengths (`linear_iff_uniform`).
-/

namespace PartnerChains.Verified.Schedule

/-- A stretch of time with one slot length and one epoch length. -/
structure Segment where
  slot : Nat
  epoch : Nat
  time : Nat
  epochLength : Nat
  slotLength : Nat

/-- The epoch of a slot, when the segment goes on forever. -/
def Segment.epochAt (segment : Segment) (slot : Nat) : Nat :=
  segment.epoch + (slot - segment.slot) / segment.epochLength

/-- The time of a slot, when the segment goes on forever. -/
def Segment.timeAt (segment : Segment) (slot : Nat) : Nat :=
  segment.time + (slot - segment.slot) * segment.slotLength

/-- `next` starts after `epochs` epochs of `current`. -/
structure After (epochs : Nat) (current next : Segment) : Prop where
  slot : next.slot = current.slot + epochs * current.epochLength
  epoch : next.epoch = current.epoch + epochs
  time : next.time = current.time + epochs * current.epochLength * current.slotLength

/-- The next segment starts at an epoch boundary of the current one. -/
def Follows (current next : Segment) : Prop :=
  0 < current.epochLength ∧ ∃ epochs, After epochs current next

/-- The segment of a slot. -/
def segmentAt : Segment → List Segment → Nat → Segment
  | current, [], _ => current
  | current, next :: rest, slot =>
      if slot < next.slot then current else segmentAt next rest slot

section Walk

variable {current next : Segment} {rest : List Segment} {slot : Nat}

theorem segmentAt_cons_of_lt (h : slot < next.slot) :
    segmentAt current (next :: rest) slot = current := if_pos h

theorem segmentAt_cons_of_le (h : next.slot ≤ slot) :
    segmentAt current (next :: rest) slot = segmentAt next rest slot :=
  if_neg (Nat.not_lt.mpr h)

/-- Segments follow in the order of their slots. -/
theorem Follows.slot_le (h : Follows current next) : current.slot ≤ next.slot := by
  obtain ⟨-, epochs, hafter⟩ := h
  rw [hafter.slot]
  exact Nat.le_add_right _ _

private theorem slot_le_of_chain (h : (current :: rest).IsChain Follows) :
    ∀ segment ∈ rest, current.slot ≤ segment.slot := by
  induction rest generalizing current with
  | nil => simp
  | cons next rest ih =>
      obtain ⟨hfollows, hrest⟩ := List.isChain_cons_cons.mp h
      intro segment hsegment
      rcases List.mem_cons.mp hsegment with rfl | hsegment
      · exact hfollows.slot_le
      · exact hfollows.slot_le.trans (ih hrest segment hsegment)

/-- The segments before one that has started do not matter. -/
theorem segmentAt_append {before : List Segment} {segment : Segment}
    (h : (current :: (before ++ segment :: rest)).IsChain Follows) (hslot : segment.slot ≤ slot) :
    segmentAt current (before ++ segment :: rest) slot = segmentAt segment rest slot := by
  induction before generalizing current with
  | nil => exact segmentAt_cons_of_le hslot
  | cons next before ih =>
      have hrest := (List.isChain_cons_cons.mp h).2
      have hnext : next.slot ≤ segment.slot := slot_le_of_chain hrest segment (by simp)
      rw [List.cons_append, segmentAt_cons_of_le (hnext.trans hslot)]
      exact ih hrest

/-- At the first slot of a segment the schedule is where the segment starts,
also if the segment has no slots. -/
theorem segmentAt_start (h : (current :: rest).IsChain Follows) :
    (segmentAt current rest current.slot).epochAt current.slot = current.epoch ∧
      (segmentAt current rest current.slot).timeAt current.slot = current.time := by
  induction rest generalizing current with
  | nil => simp [segmentAt, Segment.epochAt, Segment.timeAt]
  | cons next rest ih =>
      obtain ⟨⟨hpos, epochs, hafter⟩, hrest⟩ := List.isChain_cons_cons.mp h
      by_cases hlt : current.slot < next.slot
      · simp [segmentAt_cons_of_lt hlt, Segment.epochAt, Segment.timeAt]
      · have hnone : epochs = 0 := by
          have hslot := hafter.slot
          have hzero : epochs * current.epochLength = 0 := by omega
          rcases Nat.mul_eq_zero.mp hzero with hzero | hzero
          · exact hzero
          · exact absurd hzero hpos.ne'
        subst hnone
        have hslot : next.slot = current.slot := by simpa using hafter.slot
        have hepoch : next.epoch = current.epoch := by simpa using hafter.epoch
        have htime : next.time = current.time := by simpa using hafter.time
        have hstart := ih hrest
        rw [hslot, hepoch, htime] at hstart
        rw [segmentAt_cons_of_le hslot.le]
        exact hstart

/-- The next slot starts when the current one ends, also across segments. -/
theorem timeAt_succ (h : (current :: rest).IsChain Follows) (hslot : current.slot ≤ slot) :
    (segmentAt current rest (slot + 1)).timeAt (slot + 1) =
      (segmentAt current rest slot).timeAt slot + (segmentAt current rest slot).slotLength := by
  have hinside (segment : Segment) (hle : segment.slot ≤ slot) :
      segment.timeAt (slot + 1) = segment.timeAt slot + segment.slotLength := by
    rw [Segment.timeAt, Segment.timeAt, Nat.sub_add_comm hle, Nat.add_one_mul, Nat.add_assoc]
  induction rest generalizing current with
  | nil => exact hinside current hslot
  | cons next rest ih =>
      obtain ⟨⟨-, epochs, hafter⟩, hrest⟩ := List.isChain_cons_cons.mp h
      by_cases hlt : slot < next.slot
      · rw [segmentAt_cons_of_lt hlt]
        by_cases hlt' : slot + 1 < next.slot
        · rw [segmentAt_cons_of_lt hlt']
          exact hinside current hslot
        · -- the next slot is the first one of the next segment
          have hnext : slot + 1 = next.slot := by omega
          have hcount : epochs * current.epochLength = slot + 1 - current.slot := by
            have := hafter.slot
            omega
          rw [segmentAt_cons_of_le hnext.ge, hnext, (segmentAt_start hrest).2, hafter.time, hcount,
            ← hinside current hslot, Segment.timeAt]
      · have hle := Nat.not_lt.mp hlt
        rw [segmentAt_cons_of_le hle, segmentAt_cons_of_le (by omega)]
        exact ih hrest hle

end Walk

/-! ## Linear schedules -/

section Linear

variable (epochLength slotLength horizon : Nat) (first : Segment) (rest : List Segment)

/-- Epochs and times are those of one segment with the given lengths. -/
def Linear : Prop :=
  ∀ slot, first.slot ≤ slot → slot ≤ horizon →
    (segmentAt first rest slot).epochAt slot = first.epoch + (slot - first.slot) / epochLength ∧
      (segmentAt first rest slot).timeAt slot = first.time + (slot - first.slot) * slotLength

/-- The segments that have slots have the given lengths. -/
def Uniform : Prop :=
  ∀ slot, first.slot ≤ slot → slot ≤ horizon →
    (segmentAt first rest slot).epochLength = epochLength ∧
      (segmentAt first rest slot).slotLength = slotLength

end Linear

section LinearIff

variable {epochLength slotLength horizon : Nat} {current next : Segment} {rest : List Segment}

/-- What holds from a segment on holds from the next one on. -/
theorem Uniform.tail (h : Uniform epochLength slotLength horizon current (next :: rest))
    (hle : current.slot ≤ next.slot) : Uniform epochLength slotLength horizon next rest := by
  intro slot hslot hhorizon
  have huniform := h slot (hle.trans hslot) hhorizon
  rwa [segmentAt_cons_of_le hslot] at huniform

private theorem linear_of_uniform (hchain : (current :: rest).IsChain Follows)
    (h : Uniform epochLength slotLength horizon current rest) :
    Linear epochLength slotLength horizon current rest := by
  induction rest generalizing current with
  | nil =>
      intro slot hslot hhorizon
      obtain ⟨hepoch, htime⟩ := h slot hslot hhorizon
      rw [segmentAt] at hepoch htime ⊢
      rw [Segment.epochAt, Segment.timeAt, hepoch, htime]
      exact ⟨rfl, rfl⟩
  | cons next rest ih =>
      intro slot hslot hhorizon
      obtain ⟨hfollows, hrest⟩ := List.isChain_cons_cons.mp hchain
      by_cases hlt : slot < next.slot
      · obtain ⟨hepoch, htime⟩ := h slot hslot hhorizon
        rw [segmentAt_cons_of_lt hlt] at hepoch htime ⊢
        rw [Segment.epochAt, Segment.timeAt, hepoch, htime]
        exact ⟨rfl, rfl⟩
      have hle := Nat.not_lt.mp hlt
      obtain ⟨hepoch, htime⟩ := ih hrest (h.tail hfollows.slot_le) slot hle hhorizon
      obtain ⟨hpos, epochs, hafter⟩ := hfollows
      rw [segmentAt_cons_of_le hle, hepoch, htime]
      rcases Nat.eq_zero_or_pos epochs with rfl | hepochs
      · -- the segment has no slots
        rw [hafter.slot, hafter.epoch, hafter.time]
        simp
      · have hstart : current.slot < next.slot := by
          have := hafter.slot
          have := Nat.mul_pos hepochs hpos
          omega
        obtain ⟨hepochLength, hslotLength⟩ := h current.slot le_rfl (by omega)
        rw [segmentAt_cons_of_lt hstart] at hepochLength hslotLength
        subst hepochLength hslotLength
        have hsplit : slot - current.slot =
            slot - next.slot + epochs * current.epochLength := by
          have := hafter.slot
          omega
        rw [hsplit, Nat.add_mul_div_right _ _ hpos, Nat.add_mul, hafter.epoch, hafter.time]
        omega

/-- The lengths of a segment that is left after some epochs can be read off a
linear schedule. -/
theorem lengths_of_linear (hchain : (current :: next :: rest).IsChain Follows)
    (h : Linear epochLength slotLength horizon current (next :: rest)) {epochs : Nat}
    (hepochs : 0 < epochs) (hafter : After epochs current next) (hhorizon : next.slot ≤ horizon) :
    current.epochLength = epochLength ∧ current.slotLength = slotLength := by
  obtain ⟨⟨hpos, -⟩, hrest⟩ := List.isChain_cons_cons.mp hchain
  have hslots : current.slot + current.epochLength ≤ next.slot := by
    have := Nat.le_mul_of_pos_left current.epochLength hepochs
    have := hafter.slot
    omega
  have hfirst : segmentAt current (next :: rest) current.slot = current :=
    segmentAt_cons_of_lt (by omega)
  refine ⟨?_, ?_⟩
  · -- the first slot of the second epoch
    have hsecond : (segmentAt current (next :: rest) (current.slot + current.epochLength)).epochAt
        (current.slot + current.epochLength) = current.epoch + 1 := by
      by_cases hlt : current.slot + current.epochLength < next.slot
      · rw [segmentAt_cons_of_lt hlt, Segment.epochAt, Nat.add_sub_cancel_left, Nat.div_self hpos]
      · have heq : current.slot + current.epochLength = next.slot := by omega
        have hone : epochs = 1 := by
          have hslot := hafter.slot
          have hmul : epochs * current.epochLength = 1 * current.epochLength := by omega
          exact Nat.eq_of_mul_eq_mul_right hpos hmul
        rw [segmentAt_cons_of_le (by omega), heq, (segmentAt_start hrest).1, hafter.epoch, hone]
    have hlinear := (h (current.slot + current.epochLength) (by omega) (by omega)).1
    rw [hsecond, Nat.add_sub_cancel_left] at hlinear
    have hdiv : current.epochLength / epochLength = 1 := by omega
    have hlength : 0 < epochLength := by
      by_contra hzero
      rw [Nat.eq_zero_of_not_pos hzero, Nat.div_zero] at hdiv
      exact absurd hdiv (by decide)
    have hle : epochLength ≤ current.epochLength := by
      by_contra hlt
      rw [Nat.div_eq_of_lt (by omega)] at hdiv
      exact absurd hdiv (by decide)
    -- a longer epoch would still go on when the linear one ends
    by_contra hne
    have hlt : epochLength < current.epochLength := by omega
    have hlinear := (h (current.slot + epochLength) (by omega) (by omega)).1
    rw [segmentAt_cons_of_lt (by omega), Segment.epochAt, Nat.add_sub_cancel_left,
      Nat.div_eq_of_lt hlt, Nat.div_self hlength] at hlinear
    omega
  · have hstep := timeAt_succ hchain (le_refl current.slot)
    rw [(h (current.slot + 1) (by omega) (by omega)).2, hfirst] at hstep
    simp only [Segment.timeAt, Nat.sub_self, Nat.add_sub_cancel_left] at hstep
    omega

/-- A linear schedule stays linear from the next segment on. -/
theorem Linear.tail (h : Linear epochLength slotLength horizon current (next :: rest))
    (hpos : 0 < current.epochLength) {epochs : Nat} (hafter : After epochs current next)
    (hlengths : epochs = 0 ∨
      current.epochLength = epochLength ∧ current.slotLength = slotLength) :
    Linear epochLength slotLength horizon next rest := by
  intro slot hslot hhorizon
  have hnext := hafter.slot
  have hlinear := h slot (by omega) hhorizon
  rw [segmentAt_cons_of_le hslot] at hlinear
  rw [hlinear.1, hlinear.2]
  rcases hlengths with rfl | ⟨rfl, rfl⟩
  · rw [hafter.slot, hafter.epoch, hafter.time]
    simp
  · have hsplit : slot - current.slot = slot - next.slot + epochs * current.epochLength := by omega
    rw [hsplit, Nat.add_mul_div_right _ _ hpos, Nat.add_mul, hafter.epoch, hafter.time]
    omega

private theorem uniform_of_linear (hchain : (current :: rest).IsChain Follows)
    (h : Linear epochLength slotLength horizon current rest)
    (hhorizon : ∀ segment ∈ rest, segment.slot ≤ horizon)
    (hlast : ((current :: rest).getLast (List.cons_ne_nil _ _)).epochLength = epochLength ∧
      ((current :: rest).getLast (List.cons_ne_nil _ _)).slotLength = slotLength) :
    Uniform epochLength slotLength horizon current rest := by
  induction rest generalizing current with
  | nil => exact fun slot _ _ => hlast
  | cons next rest ih =>
      obtain ⟨⟨hpos, epochs, hafter⟩, hrest⟩ := List.isChain_cons_cons.mp hchain
      have hlengths : epochs = 0 ∨
          current.epochLength = epochLength ∧ current.slotLength = slotLength := by
        rcases Nat.eq_zero_or_pos epochs with hzero | hepochs
        · exact .inl hzero
        · exact .inr (lengths_of_linear hchain h hepochs hafter
            (hhorizon next List.mem_cons_self))
      intro slot hslot hslot'
      by_cases hlt : slot < next.slot
      · rw [segmentAt_cons_of_lt hlt]
        rcases hlengths with rfl | hlengths
        · have := hafter.slot
          omega
        · exact hlengths
      · have hle := Nat.not_lt.mp hlt
        rw [segmentAt_cons_of_le hle]
        refine ih hrest (h.tail hpos hafter hlengths) (fun segment hsegment => ?_) ?_ slot hle
          hslot'
        · exact hhorizon segment (List.mem_cons_of_mem _ hsegment)
        · rwa [List.getLast_cons (List.cons_ne_nil _ _)] at hlast

/-- A schedule is linear with the lengths of its last segment exactly if all
segments with slots have these lengths. -/
theorem linear_iff_uniform (hchain : (current :: rest).IsChain Follows)
    (hhorizon : ∀ segment ∈ rest, segment.slot ≤ horizon)
    (hlast : ((current :: rest).getLast (List.cons_ne_nil _ _)).epochLength = epochLength ∧
      ((current :: rest).getLast (List.cons_ne_nil _ _)).slotLength = slotLength) :
    Linear epochLength slotLength horizon current rest ↔
      Uniform epochLength slotLength horizon current rest :=
  ⟨fun h => uniform_of_linear hchain h hhorizon hlast, linear_of_uniform hchain⟩

end LinearIff

end PartnerChains.Verified.Schedule
