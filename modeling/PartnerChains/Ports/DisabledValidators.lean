import PartnerChains.Ports.CommitteeRun

/-!
# Disabling validators

The port of `disable_index`, `disable` and `is_disabled` of the session pallet.
A validator is looked up among the validators with keys, while its index is
checked against the number of stored validator identifiers, which only the
feature `polkadot-js-compat` keeps.  Seats are disabled by index, and a member
that was drawn several times has several seats.

Over any sequence of blocks, rotations and calls the disabled indices are the
first seats of the validators for which a call returned `true` since the last
rotation (`Disabled`).  `disable_takesEffect_iff` draws the consequences: a call
does what it is for exactly if the validator has one seat only and the feature
is on, or if there is nothing to do.
-/

namespace PartnerChains.Ports.DisabledValidators

open PartnerChains.Ports.CommitteePallet
open PartnerChains.Ports.SessionPallet
open PartnerChains.Ports.CommitteeRun

/-! ## The pallet -/

/-- `binary_search` of a sorted vector: the index of the value, or the one
where it can be inserted. -/
def binarySearch (l : List UInt32) (x : UInt32) : Except Nat Nat :=
  if x ∈ l then .ok (l.idxOf x) else .error (l.countP (· < x))

variable {Id Keys Account H A : Type} {config : Config Id Keys Account H A}

section Pallet

variable (onDisabled : UInt32 → H → H)

/-- `disable_index`: the index is inserted at the place the binary search names,
so the list stays sorted. -/
def disableIndex (i : UInt32) (st : State config) : Bool × State config :=
  if i ≥ UInt32.ofNat st.session.validators.length then (false, st)
  else
    match binarySearch st.session.disabledValidators i with
    | .error index =>
        (true, { st with
          session := { st.session with
            disabledValidators := st.session.disabledValidators.insertIdx index i }
          handlerState := onDisabled i st.handlerState })
    | .ok _ => (false, st)

/-- `disable`: the first seat of the account is disabled. -/
def disable [DecidableEq Account] (c : Account) (st : State config) : Bool × State config :=
  ((st.session.validatorsAndKeys.findIdx? fun v => decide (v.1 = c)).map
    fun i => disableIndex onDisabled (UInt32.ofNat i) st).getD (false, st)

end Pallet

/-- `is_disabled`, by binary search as well. -/
def isDisabled (index : UInt32) (st : State config) : Bool :=
  (binarySearch st.session.disabledValidators index).isOk

/-! ## Runs -/

/-- Blocks, rotations and calls in any order, with the validators for which a
call returned `true` since the last rotation. -/
inductive SessionRun [DecidableEq Account] (onDisabled : UInt32 → H → H)
    (genesis : Genesis config) : State config → List Account → Prop where
  | start {st : State config} (built : genesis.build = .ok st) :
      SessionRun onDisabled genesis st []
  | block {st st' : State config} {disabled : List Account} {events : List Event}
      (run : SessionRun onDisabled genesis st disabled) (block : Block config)
      (executed : executeBlock st block = .ok (st', events)) :
      SessionRun onDisabled genesis st' (if events = [] then disabled else [])
  | rotate {st st' : State config} {disabled : List Account} {events : List Event}
      (run : SessionRun onDisabled genesis st disabled)
      (rotated : rotateSession st = .ok (st', events)) : SessionRun onDisabled genesis st' []
  | disable {st : State config} {disabled : List Account}
      (run : SessionRun onDisabled genesis st disabled) (c : Account) :
      SessionRun onDisabled genesis (disable onDisabled c st).2
        (if (DisabledValidators.disable onDisabled c st).1 then c :: disabled else disabled)

/-- The validator at an index. -/
def Seat (session : SessionStorage Account Keys) (c : Account) (i : Nat) : Prop :=
  ∃ keys, session.validatorsAndKeys[i]? = some (c, keys)

/-- `i` is the first seat of the account. -/
def FirstSeat (session : SessionStorage Account Keys) (c : Account) (i : Nat) : Prop :=
  Seat session c i ∧ ∀ j < i, ¬ Seat session c j

/-- The disabled indices are the first seats of the disabled validators. -/
structure Disabled (config : Config Id Keys Account H A) (session : SessionStorage Account Keys)
    (disabled : List Account) : Prop where
  seats : session.validatorsAndKeys.length ≤ config.maxValidators
  validators : session.validators =
    if config.polkadotJsCompat then session.validatorsAndKeys.map Prod.fst else []
  increasing : session.disabledValidators.Pairwise (· < ·)
  mem_iff : ∀ i, i ∈ session.disabledValidators ↔ ∃ c ∈ disabled, FirstSeat session c i.toNat
  hasSeat : ∀ c ∈ disabled, ∃ i, Seat session c i
  compat : disabled ≠ [] → config.polkadotJsCompat

/-- A call for `c` in the state `st` does what it is for. -/
structure TakesEffect [DecidableEq Account] (onDisabled : UInt32 → H → H) (st : State config)
    (disabled : List Account) (c : Account) : Prop where
  result : (disable onDisabled c st).1 = true ↔ (∃ i, Seat st.session c i) ∧ c ∉ disabled
  seats : ∀ i, Seat st.session c i →
    isDisabled (UInt32.ofNat i) (disable onDisabled c st).2 = true

/-! ## Sorted insertion -/

section Sorted

variable {l : List UInt32} {x : UInt32}

private theorem binarySearch_isOk : (binarySearch l x).isOk = true ↔ x ∈ l := by
  unfold binarySearch
  split
  next h => exact iff_of_true rfl h
  next h => exact iff_of_false (by simp [Except.isOk, Except.toBool]) h

/-- Insertion at the place of the binary search adds one element. -/
theorem mem_insertIdx_countP {y : UInt32} :
    y ∈ l.insertIdx (l.countP (· < x)) x ↔ y = x ∨ y ∈ l :=
  List.mem_insertIdx List.countP_le_length

private theorem pairwise_insertIdx_countP (h : l.Pairwise (· < ·)) (hx : x ∉ l) :
    (l.insertIdx (l.countP (· < x)) x).Pairwise (· < ·) := by
  induction l with
  | nil => simp
  | cons a l ih =>
      obtain ⟨ha, hl⟩ := List.pairwise_cons.mp h
      obtain ⟨hne, hxl⟩ := not_or.mp fun hor => hx (List.mem_cons.mpr hor)
      by_cases hlt : a < x
      · rw [List.countP_cons_of_pos (by simpa using hlt), List.insertIdx_succ_cons,
          List.pairwise_cons]
        refine ⟨?_, ih hl hxl⟩
        intro y hy
        rcases mem_insertIdx_countP.mp hy with rfl | hy
        · exact hlt
        · exact ha y hy
      · have hxa : x < a := by
          rcases UInt32.lt_or_eq_of_le (UInt32.not_lt.mp hlt) with hlt' | heq
          · exact hlt'
          · exact absurd heq hne
        have hall : ∀ y ∈ a :: l, x < y := by
          intro y hy
          rcases List.mem_cons.mp hy with rfl | hy
          · exact hxa
          · exact UInt32.lt_trans hxa (ha y hy)
        have hcount : (a :: l).countP (· < x) = 0 := by
          rw [List.countP_eq_zero]
          intro y hy
          simpa using UInt32.le_of_lt (hall y hy)
        rw [hcount, List.insertIdx_zero, List.pairwise_cons]
        exact ⟨hall, h⟩

end Sorted

/-! ## Seats -/

section Seats

variable {session : SessionStorage Account Keys} {c c' : Account} {i j : Nat}

theorem Seat.unique (h : Seat session c i) (h' : Seat session c' i) : c = c' := by
  obtain ⟨keys, hget⟩ := h
  obtain ⟨keys', hget'⟩ := h'
  cases hget.symm.trans hget'
  rfl

theorem Seat.lt (h : Seat session c i) : i < session.validatorsAndKeys.length := by
  obtain ⟨keys, hget⟩ := h
  exact (List.getElem?_eq_some_iff.mp hget).1

theorem FirstSeat.unique (h : FirstSeat session c i) (h' : FirstSeat session c j) : i = j := by
  rcases Nat.lt_trichotomy i j with hlt | heq | hgt
  · exact absurd h.1 (h'.2 i hlt)
  · exact heq
  · exact absurd h'.1 (h.2 j hgt)

variable [DecidableEq Account]

/-- The search for an account ends at its first seat, or the account has none. -/
theorem findIdx?_cases (session : SessionStorage Account Keys) (c : Account) :
    (session.validatorsAndKeys.findIdx? (fun v => decide (v.1 = c)) = none ∧
        ∀ i, ¬ Seat session c i) ∨
      ∃ i, session.validatorsAndKeys.findIdx? (fun v => decide (v.1 = c)) = some i ∧
        FirstSeat session c i := by
  cases hfind : session.validatorsAndKeys.findIdx? (fun v => decide (v.1 = c)) with
  | none =>
      refine .inl ⟨rfl, ?_⟩
      rintro i ⟨keys, hget⟩
      have hnone := List.findIdx?_eq_none_iff.mp hfind _ (List.mem_of_getElem? hget)
      simp at hnone
  | some i =>
      refine .inr ⟨i, rfl, ?_⟩
      obtain ⟨hi, heq, hbefore⟩ := List.findIdx?_eq_some_iff_getElem.mp hfind
      refine ⟨⟨session.validatorsAndKeys[i].2, ?_⟩, ?_⟩
      · rw [List.getElem?_eq_getElem hi, ← of_decide_eq_true heq]
      · rintro j hj ⟨keys, hget⟩
        obtain ⟨hj', hget⟩ := List.getElem?_eq_some_iff.mp hget
        have hne := hbefore j hj
        rw [hget] at hne
        simp at hne

end Seats

/-! ## One call -/

section Call

variable {onDisabled : UInt32 → H → H} {st : State config} {disabled : List Account}

/-- The state after the seat `i` has been disabled. -/
def disabledAt (onDisabled : UInt32 → H → H) (i : UInt32) (st : State config) : State config :=
  { st with
    session := { st.session with
      disabledValidators := st.session.disabledValidators.insertIdx
        (st.session.disabledValidators.countP (· < i)) i }
    handlerState := onDisabled i st.handlerState }

private theorem disableIndex_eq (onDisabled : UInt32 → H → H) (i : UInt32) (st : State config) :
    disableIndex onDisabled i st =
      if i < UInt32.ofNat st.session.validators.length ∧ i ∉ st.session.disabledValidators then
        (true, disabledAt onDisabled i st)
      else (false, st) := by
  unfold disableIndex binarySearch disabledAt
  by_cases hlt : i < UInt32.ofNat st.session.validators.length
  · rw [if_neg (UInt32.not_le.mpr hlt)]
    by_cases hmem : i ∈ st.session.disabledValidators
    · simp [hmem]
    · simp [hlt, hmem]
  · rw [if_pos (UInt32.not_lt.mp hlt)]
    simp [hlt]

theorem toNat_ofNat_seat (h : Disabled config st.session disabled)
    (hmax : config.maxValidators < 2 ^ 32) {c : Account} {i : Nat}
    (hseat : Seat st.session c i) : (UInt32.ofNat i).toNat = i :=
  UInt32.toNat_ofNat_of_lt' (Nat.lt_trans (Nat.lt_of_lt_of_le hseat.lt h.seats) hmax)

/-- The first seat of a validator is disabled if the validator is. -/
theorem Disabled.mem_firstSeat_iff (h : Disabled config st.session disabled)
    (hmax : config.maxValidators < 2 ^ 32) {c : Account} {i : Nat}
    (hfirst : FirstSeat st.session c i) :
    UInt32.ofNat i ∈ st.session.disabledValidators ↔ c ∈ disabled := by
  rw [h.mem_iff, toNat_ofNat_seat h hmax hfirst.1]
  constructor
  · rintro ⟨c', hc', hfirst'⟩
    rwa [hfirst.1.unique hfirst'.1]
  · intro hc
    exact ⟨c, hc, hfirst⟩

/-- The check of the index passes with the feature only. -/
theorem Disabled.lt_validators_iff (h : Disabled config st.session disabled)
    (hmax : config.maxValidators < 2 ^ 32) {c : Account} {i : Nat}
    (hseat : Seat st.session c i) :
    UInt32.ofNat i < UInt32.ofNat st.session.validators.length ↔
      config.polkadotJsCompat = true := by
  have hlt := hseat.lt
  have hseats := h.seats
  rw [UInt32.lt_iff_toNat_lt, toNat_ofNat_seat h hmax hseat, h.validators]
  cases config.polkadotJsCompat with
  | false => simp
  | true =>
      rw [if_pos rfl, List.length_map, UInt32.toNat_ofNat_of_lt' (Nat.lt_of_le_of_lt hseats hmax)]
      exact iff_of_true hlt rfl

variable [DecidableEq Account]

/-- Either nothing happens, or the first seat of the validator is disabled. -/
theorem disable_cases (onDisabled : UInt32 → H → H) (h : Disabled config st.session disabled)
    (hmax : config.maxValidators < 2 ^ 32) (c : Account) :
    (disable onDisabled c st = (false, st) ∧
        ((∀ i, ¬ Seat st.session c i) ∨ config.polkadotJsCompat = false ∨ c ∈ disabled)) ∨
      ∃ i, FirstSeat st.session c i ∧ config.polkadotJsCompat = true ∧ c ∉ disabled ∧
        disable onDisabled c st = (true, disabledAt onDisabled (UInt32.ofNat i) st) := by
  unfold disable
  rcases findIdx?_cases st.session c with ⟨hfind, hnone⟩ | ⟨i, hfind, hfirst⟩
  · rw [hfind]
    exact .inl ⟨rfl, .inl hnone⟩
  · have hlt := h.lt_validators_iff hmax hfirst.1
    have hmem := h.mem_firstSeat_iff hmax hfirst
    rw [hfind, Option.map_some, Option.getD_some, disableIndex_eq]
    by_cases hcompat : config.polkadotJsCompat = true
    · by_cases hc : c ∈ disabled
      · exact .inl ⟨if_neg fun hand => hand.2 (hmem.mpr hc), .inr (.inr hc)⟩
      · exact .inr ⟨i, hfirst, hcompat, hc,
          if_pos ⟨hlt.mpr hcompat, fun hin => hc (hmem.mp hin)⟩⟩
    · exact .inl ⟨if_neg fun hand => hcompat (hlt.mp hand.1),
        .inr (.inl (Bool.eq_false_of_not_eq_true hcompat))⟩

/-- A call of `disable` adds the account to the disabled ones if it returns true. -/
theorem Disabled.disableStep (h : Disabled config st.session disabled)
    (hmax : config.maxValidators < 2 ^ 32) (c : Account) :
    Disabled config (disable onDisabled c st).2.session
      (if (disable onDisabled c st).1 then c :: disabled else disabled) := by
  rcases disable_cases onDisabled h hmax c with ⟨heq, -⟩ | ⟨i, hfirst, hcompat, hc, heq⟩
  · rw [heq]
    exact h
  · rw [heq]
    have hnew : UInt32.ofNat i ∉ st.session.disabledValidators :=
      fun hmem => hc ((h.mem_firstSeat_iff hmax hfirst).mp hmem)
    have hi := toNat_ofNat_seat h hmax hfirst.1
    refine ⟨h.seats, h.validators, pairwise_insertIdx_countP h.increasing hnew, ?_, ?_,
      fun _ => hcompat⟩
    · intro j
      show j ∈ st.session.disabledValidators.insertIdx _ _ ↔
        ∃ c' ∈ c :: disabled, FirstSeat st.session c' j.toNat
      rw [mem_insertIdx_countP, h.mem_iff, List.exists_mem_cons_iff]
      refine or_congr_left ?_
      constructor
      · rintro rfl
        rwa [hi]
      · intro hj
        rw [← UInt32.toNat_inj, hi]
        exact hj.unique hfirst
    · intro c' hc'
      rcases List.mem_cons.mp hc' with rfl | hc'
      · exact ⟨i, hfirst.1⟩
      · exact h.hasSeat c' hc'

end Call

/-! ## Whole runs -/

section Runs

variable {onDisabled : UInt32 → H → H} {genesis : Genesis config} {st st' : State config}
  {disabled : List Account}

private theorem disabled_replacedValidators {session : SessionStorage Account Keys}
    (info : CommitteeInfo Id Keys config.maxValidators)
    (hvalidators : config.polkadotJsCompat = false → session.validators = []) :
    Disabled config (replacedValidators config (accountsOf config info) session) [] where
  seats := by
    show (accountsOf config info).length ≤ _
    rw [accountsOf, List.length_map]
    exact info.committee.length_le
  validators := by
    cases hcompat : config.polkadotJsCompat with
    | false => simp [replacedValidators, hcompat, hvalidators hcompat]
    | true => simp [replacedValidators, hcompat]
  increasing := List.Pairwise.nil
  mem_iff i := by simp [replacedValidators]
  hasSeat c hc := absurd hc List.not_mem_nil
  compat h := absurd rfl h

private theorem Disabled.validators_of_not_compat {session : SessionStorage Account Keys}
    (h : Disabled config session disabled) (hcompat : config.polkadotJsCompat = false) :
    session.validators = [] := by
  rw [h.validators, hcompat]
  rfl

variable [DecidableEq Account]

/-- A rotation puts the validators of some committee into the next session. -/
theorem rotateSession_session {events : List Event} (h : rotateSession st = .ok (st', events)) :
    ∃ next, st'.session = replacedValidators config (accountsOf config next)
      { st.session with currentIndex := st.session.currentIndex + 1 } := by
  cases hnext : st.committee.nextCommittee with
  | none =>
      simp [rotateSession, newSession, rotateCommitteeToNextEpoch, hnext, bind, Except.bind] at h
  | some next =>
      by_cases hslots : st.slotsPerEpoch = 0
      · simp [rotateSession, newSession, rotateCommitteeToNextEpoch, hnext, rotateValidators_eq,
          startSession, currentEpochNumber, Domain.epochNumber, hslots, bind, Except.bind] at h
      · rw [rotateSession_eq hslots hnext] at h
        cases h
        exact ⟨next, rfl⟩

private theorem rotateSession_clears {events : List Event}
    (h : rotateSession st = .ok (st', events)) : st'.session.disabledValidators = [] := by
  obtain ⟨next, hsession⟩ := rotateSession_session h
  rw [hsession]
  rfl

/-- The session is as before, or there is an event and the validators have been
replaced. -/
theorem executeBlock_session {block : Block config} {events : List Event}
    (h : executeBlock st block = .ok (st', events)) :
    (events = [] ∧ st'.session = st.session) ∨
      events ≠ [] ∧ ∃ next, st'.session = replacedValidators config (accountsOf config next)
        { st.session with currentIndex := st.session.currentIndex + 1 } := by
  obtain ⟨mid, committee, rfl, -, hcase⟩ := executeBlock_cases h
  rcases hcase with ⟨-, rfl, rfl⟩ | ⟨next, -, rfl, rfl⟩
  · exact .inl ⟨rfl, rfl⟩
  · exact .inr ⟨List.cons_ne_nil _ _, next, rfl⟩

/-- Along a run the list holds the first seats of those disabled in this session. -/
theorem SessionRun.invariant (hmax : config.maxValidators < 2 ^ 32)
    (run : SessionRun onDisabled genesis st disabled) : Disabled config st.session disabled := by
  induction run with
  | start built =>
      obtain ⟨-, _, rfl⟩ := build_state built
      exact disabled_replacedValidators _ fun _ => rfl
  | block run block executed ih =>
      rcases executeBlock_session executed with ⟨rfl, hsession⟩ | ⟨hne, next, hsession⟩
      · rw [hsession, if_pos rfl]
        exact ih
      · rw [hsession, if_neg hne]
        exact disabled_replacedValidators next ih.validators_of_not_compat
  | rotate run rotated ih =>
      obtain ⟨next, hsession⟩ := rotateSession_session rotated
      rw [hsession]
      exact disabled_replacedValidators next ih.validators_of_not_compat
  | disable run c ih => exact ih.disableStep hmax c

end Runs

/-! ## The result -/

section Result

variable {onDisabled : UInt32 → H → H} {genesis : Genesis config} {st : State config}
  {disabled : List Account}

/-- On a sorted list the binary search is membership. -/
theorem isDisabled_iff {i : UInt32} :
    isDisabled i st = true ↔ i ∈ st.session.disabledValidators :=
  binarySearch_isOk

/-- Only first seats are ever disabled. -/
theorem Disabled.firstSeat_of_isDisabled (h : Disabled config st.session disabled)
    (hmax : config.maxValidators < 2 ^ 32) {c : Account} {i : Nat} (hseat : Seat st.session c i)
    (hi : isDisabled (UInt32.ofNat i) st = true) : c ∈ disabled ∧ FirstSeat st.session c i := by
  obtain ⟨c', hc', hfirst⟩ := (h.mem_iff _).mp (isDisabled_iff.mp hi)
  rw [toNat_ofNat_seat h hmax hseat] at hfirst
  rw [hseat.unique hfirst.1]
  exact ⟨hc', hfirst⟩

private theorem Disabled.lt_seats (h : Disabled config st.session disabled) {i : UInt32}
    (hi : i ∈ st.session.disabledValidators) :
    i.toNat < st.session.validatorsAndKeys.length := by
  obtain ⟨c, -, hfirst⟩ := (h.mem_iff i).mp hi
  exact hfirst.1.lt

private theorem exists_firstSeat [DecidableEq Account] {session : SessionStorage Account Keys}
    {c : Account} {i : Nat} (h : Seat session c i) : ∃ j, FirstSeat session c j := by
  rcases findIdx?_cases session c with ⟨-, hnone⟩ | ⟨j, -, hfirst⟩
  · exact absurd h (hnone i)
  · exact ⟨j, hfirst⟩

variable [DecidableEq Account]

private theorem Disabled.single_of_takesEffect (h : Disabled config st.session disabled)
    (hmax : config.maxValidators < 2 ^ 32) {c : Account}
    (heffect : TakesEffect onDisabled st disabled c) {i : Nat} (hseat : Seat st.session c i) :
    config.polkadotJsCompat = true ∧
      ∀ i j, Seat st.session c i → Seat st.session c j → i = j := by
  have hstep := @Disabled.disableStep _ _ _ _ _ _ onDisabled _ _ _ h hmax c
  -- every seat is disabled afterwards, so every seat is the first one
  have hfirst : ∀ j, Seat st.session c j → FirstSeat (disable onDisabled c st).2.session c j ∧
      config.polkadotJsCompat = true := by
    intro j hj
    have hj' : Seat (disable onDisabled c st).2.session c j := by
      rcases disable_cases onDisabled h hmax c with ⟨heq, -⟩ | ⟨_, -, -, -, heq⟩
      · rwa [heq]
      · rwa [heq]
    obtain ⟨hc, hfirst⟩ := hstep.firstSeat_of_isDisabled hmax hj' (heffect.seats j hj)
    exact ⟨hfirst, hstep.compat (List.ne_nil_of_mem hc)⟩
  exact ⟨(hfirst i hseat).2, fun j k hj hk => (hfirst j hj).1.unique (hfirst k hk).1⟩

private theorem Disabled.takesEffect_of_single (h : Disabled config st.session disabled)
    (hmax : config.maxValidators < 2 ^ 32) {c : Account}
    (hcond : (∃ i, Seat st.session c i) → config.polkadotJsCompat = true ∧
      ∀ i j, Seat st.session c i → Seat st.session c j → i = j) :
    TakesEffect onDisabled st disabled c := by
  have hfirst : ∀ i, Seat st.session c i → FirstSeat st.session c i := by
    intro i hseat
    obtain ⟨j, hj⟩ := exists_firstSeat hseat
    rwa [(hcond ⟨i, hseat⟩).2 i j hseat hj.1]
  rcases disable_cases onDisabled h hmax c with ⟨heq, hreason⟩ | ⟨i, hi, -, hc, heq⟩
  · -- nothing happens: a validator with a seat has been disabled before
    have hdisabled : ∀ j, Seat st.session c j → c ∈ disabled := by
      intro j hj
      rcases hreason with hnone | hcompat | hc
      · exact absurd hj (hnone j)
      · rw [(hcond ⟨j, hj⟩).1] at hcompat
        cases hcompat
      · exact hc
    refine ⟨?_, ?_⟩
    · rw [heq]
      refine iff_of_false Bool.false_ne_true ?_
      rintro ⟨⟨j, hj⟩, hc⟩
      exact hc (hdisabled j hj)
    · intro j hj
      rw [heq]
      exact isDisabled_iff.mpr ((h.mem_firstSeat_iff hmax (hfirst j hj)).mpr (hdisabled j hj))
  · refine ⟨?_, ?_⟩
    · rw [heq]
      exact iff_of_true rfl ⟨⟨i, hi.1⟩, hc⟩
    · intro j hj
      rw [heq, (hfirst j hj).unique hi]
      exact isDisabled_iff.mpr (mem_insertIdx_countP.mpr (.inl rfl))

/-- What holds in every run: the disabled indices increase and are seats, they
are seats of disabled validators, and a rotation clears them.  A call takes
effect exactly if the validator has no seat, or the feature is on and the
validator has one seat. -/
theorem disable_takesEffect_iff (hmax : config.maxValidators < 2 ^ 32)
    (run : SessionRun onDisabled genesis st disabled) :
    (st.session.disabledValidators.Pairwise (· < ·) ∧
      ∀ i ∈ st.session.disabledValidators, i.toNat < st.session.validatorsAndKeys.length) ∧
    (∀ c i, Seat st.session c i → isDisabled (UInt32.ofNat i) st = true → c ∈ disabled) ∧
    (∀ st' events, rotateSession st = .ok (st', events) → st'.session.disabledValidators = []) ∧
    ∀ c, TakesEffect onDisabled st disabled c ↔
      ((∃ i, Seat st.session c i) → config.polkadotJsCompat = true ∧
        ∀ i j, Seat st.session c i → Seat st.session c j → i = j) := by
  have h := run.invariant hmax
  refine ⟨⟨h.increasing, fun i hi => h.lt_seats hi⟩, ?_, ?_, ?_⟩
  · intro c i hseat hi
    exact (h.firstSeat_of_isDisabled hmax hseat hi).1
  · intro st' events hrotate
    exact rotateSession_clears hrotate
  · intro c
    constructor
    · rintro heffect ⟨i, hseat⟩
      exact h.single_of_takesEffect hmax heffect hseat
    · intro hcond
      exact h.takesEffect_of_single hmax hcond

end Result

/-! ## Two seats -/

private theorem firstState_sessionRun : SessionRun (fun _ h => h) exampleGenesis firstState [] := by
  have hrun : SessionRun (fun _ h => h) exampleGenesis firstState
      (if ([] : List Event) = [] then [] else []) :=
    SessionRun.block (SessionRun.start rfl) firstBlock rfl
  exact hrun

private theorem seat_of_firstState {i : Nat} (h : Seat firstState.session 101 i) : i = 0 := by
  obtain ⟨keys, hget⟩ := h
  rcases i with _ | _ | i
  · rfl
  · cases hget
  · cases hget

/-- A validator of the example is disabled as intended. -/
theorem disable_takesEffect_iff_firstState : TakesEffect (fun _ h => h) firstState [] 101 := by
  refine ((disable_takesEffect_iff (by decide) firstState_sessionRun).2.2.2 101).mpr ?_
  intro _
  refine ⟨rfl, ?_⟩
  intro i j hi hj
  rw [seat_of_firstState hi, seat_of_firstState hj]

/-- The same member twice. -/
def repeatedGenesis : Genesis exampleConfig :=
  ⟨(), (), 5, ⟨[(1, ()), (1, ())], exampleScripts⟩, 0, []⟩

/-- `exampleConfig` without the compatibility with polkadot-js. -/
def plainConfig : Config Nat Unit Nat Unit Unit :=
  { exampleConfig with polkadotJsCompat := false }

/-- A genesis with two validators. -/
def plainGenesis : Genesis plainConfig :=
  ⟨(), (), 5, ⟨[(1, ()), (2, ())], exampleScripts⟩, 0, []⟩

/-- The second seat of the member is not disabled, and without the feature no
seat is. -/
theorem disable_misses_seats :
    (∃ st, repeatedGenesis.build = .ok st ∧ Seat st.session 101 1 ∧
      (disable (fun _ h => h) 101 st).1 = true ∧
      isDisabled 1 (disable (fun _ h => h) 101 st).2 = false) ∧
    ∃ st, plainGenesis.build = .ok st ∧ Seat st.session 101 0 ∧
      (disable (fun _ h => h) 101 st).1 = false ∧
      isDisabled 0 (disable (fun _ h => h) 101 st).2 = false :=
  ⟨⟨_, rfl, ⟨(), rfl⟩, by decide, by decide⟩, _, rfl, ⟨(), rfl⟩, by decide, by decide⟩

end PartnerChains.Ports.DisabledValidators
