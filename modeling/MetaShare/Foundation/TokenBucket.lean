import Mathlib.Algebra.Order.Field.Basic
import Mathlib.Tactic.Linarith
import Mathlib.Tactic.Ring

namespace MetaShare

/-!
# Token buckets

A bucket is refilled at a rate up to a capacity, but only when somebody looks:
the tokens it holds are those of the last look.  Whoever takes tokens out looks
first.  All of this is over an ordered field, so time is exact.
-/

structure TokenBucket (K : Type) where
  rate : K
  burst : K
  tokens : K
  last : K

namespace TokenBucket

variable {K : Type} [Field K] [LinearOrder K] [IsStrictOrderedRing K]

/-- The tokens a look at this instant would find. -/
def level (bucket : TokenBucket K) (now : K) : K :=
  min bucket.burst (bucket.tokens + (now - bucket.last) * bucket.rate)

def refill (bucket : TokenBucket K) (now : K) : TokenBucket K :=
  { bucket with tokens := bucket.level now, last := now }

def take (bucket : TokenBucket K) (amount : K) : TokenBucket K :=
  { bucket with tokens := bucket.tokens - amount }

/-- The bucket is neither overdrawn nor too full. -/
structure WellFormed (bucket : TokenBucket K) : Prop where
  nonneg : 0 ≤ bucket.tokens
  capped : bucket.tokens ≤ bucket.burst

variable {bucket : TokenBucket K} {start now finish amount spent : K}

/-- What flows in between two looks. -/
theorem inflow_nonneg (rate : 0 ≤ bucket.rate) (later : bucket.last ≤ now) :
    0 ≤ (now - bucket.last) * bucket.rate :=
  mul_nonneg (sub_nonneg.mpr later) rate

theorem WellFormed.refill (wellFormed : bucket.WellFormed) (rate : 0 ≤ bucket.rate) (later : bucket.last ≤ now) :
    (bucket.refill now).WellFormed where
  nonneg := by
    have full : 0 ≤ bucket.burst := wellFormed.nonneg.trans wellFormed.capped
    exact le_min full (add_nonneg wellFormed.nonneg (inflow_nonneg rate later))
  capped := min_le_left _ _

theorem WellFormed.take (wellFormed : bucket.WellFormed) (nonneg : 0 ≤ amount) (enough : amount ≤ bucket.tokens) :
    (bucket.take amount).WellFormed where
  nonneg := sub_nonneg.mpr enough
  capped := (sub_le_self _ nonneg).trans wellFormed.capped

/-! ## What passes in a window -/

/-- The amount was taken in the window.  Nothing at all, or the last look was in
the window, and what was taken and what is left do not exceed a full bucket at
its beginning and the inflow since. -/
def Spent (bucket : TokenBucket K) (start finish spent : K) : Prop :=
  spent = 0 ∨
    (start ≤ bucket.last ∧ bucket.last ≤ finish) ∧
      spent + bucket.tokens ≤ bucket.burst + bucket.rate * (bucket.last - start)

theorem Spent.refill (paid : bucket.Spent start finish spent) (later : bucket.last ≤ now) (within : now ≤ finish) :
    (bucket.refill now).Spent start finish spent := by
  rcases paid with nothing | ⟨⟨begun, _⟩, bound⟩
  · exact Or.inl nothing
  · have found : bucket.level now ≤ bucket.tokens + (now - bucket.last) * bucket.rate := min_le_right _ _
    refine Or.inr ⟨⟨begun.trans later, within⟩, ?_⟩
    calc
      spent + bucket.level now ≤ spent + bucket.tokens + (now - bucket.last) * bucket.rate := by linarith
      _ ≤ bucket.burst + bucket.rate * (bucket.last - start) + (now - bucket.last) * bucket.rate := by linarith
      _ = bucket.burst + bucket.rate * (now - start) := by ring

theorem Spent.take (paid : bucket.Spent start finish spent) (wellFormed : bucket.WellFormed)
    (rate : 0 ≤ bucket.rate) (begun : start ≤ bucket.last) (within : bucket.last ≤ finish) (amount : K) :
    (bucket.take amount).Spent start finish (spent + amount) := by
  have inflow : 0 ≤ bucket.rate * (bucket.last - start) := mul_nonneg rate (sub_nonneg.mpr begun)
  have bound : spent + bucket.tokens ≤ bucket.burst + bucket.rate * (bucket.last - start) := by
    rcases paid with nothing | ⟨_, bound⟩
    · rw [nothing, zero_add]
      exact wellFormed.capped.trans (le_add_of_nonneg_right inflow)
    · exact bound
  refine Or.inr ⟨⟨begun, within⟩, ?_⟩
  calc
    spent + amount + (bucket.tokens - amount) = spent + bucket.tokens := by ring
    _ ≤ bucket.burst + bucket.rate * (bucket.last - start) := bound

/-- No more than a full bucket and the inflow passes in a window. -/
theorem Spent.le (paid : bucket.Spent start finish spent) (wellFormed : bucket.WellFormed) (rate : 0 ≤ bucket.rate)
    (window : start ≤ finish) : spent ≤ bucket.burst + bucket.rate * (finish - start) := by
  rcases paid with nothing | ⟨⟨_, within⟩, bound⟩
  · rw [nothing]
    exact add_nonneg (wellFormed.nonneg.trans wellFormed.capped) (mul_nonneg rate (sub_nonneg.mpr window))
  · have longer : bucket.rate * (bucket.last - start) ≤ bucket.rate * (finish - start) :=
      mul_le_mul_of_nonneg_left (sub_le_sub_right within start) rate
    calc
      spent ≤ spent + bucket.tokens := le_add_of_nonneg_right wellFormed.nonneg
      _ ≤ bucket.burst + bucket.rate * (bucket.last - start) := bound
      _ ≤ bucket.burst + bucket.rate * (finish - start) := by linarith

/-! ## The level -/

omit [IsStrictOrderedRing K] in
theorem level_le (bucket : TokenBucket K) (now : K) : bucket.level now ≤ bucket.burst := min_le_left _ _

theorem WellFormed.level_nonneg (wellFormed : bucket.WellFormed) (rate : 0 ≤ bucket.rate)
    (later : bucket.last ≤ now) : 0 ≤ bucket.level now :=
  (wellFormed.refill rate later).nonneg

/-- As long as the bucket does not run over, the level rises at the rate. -/
theorem level_rises {early late : K} (sooner : early ≤ late) (rate : 0 ≤ bucket.rate)
    (room : bucket.tokens + (late - bucket.last) * bucket.rate ≤ bucket.burst) :
    bucket.level late = bucket.level early + bucket.rate * (late - early) := by
  have rise : 0 ≤ bucket.rate * (late - early) := mul_nonneg rate (sub_nonneg.mpr sooner)
  have split : bucket.tokens + (late - bucket.last) * bucket.rate =
      bucket.tokens + (early - bucket.last) * bucket.rate + bucket.rate * (late - early) := by ring
  have before : bucket.tokens + (early - bucket.last) * bucket.rate ≤ bucket.burst := by linarith
  rw [level, level, min_eq_right room, min_eq_right before, split]

omit [IsStrictOrderedRing K] in
@[simp] theorem level_refill (bucket : TokenBucket K) (now : K) :
    (bucket.refill now).level now = bucket.level now := by
  change min bucket.burst (bucket.level now + (now - now) * bucket.rate) = bucket.level now
  rw [sub_self, zero_mul, add_zero]
  exact min_eq_right (bucket.level_le now)

theorem level_take_refill (nonneg : 0 ≤ amount) :
    ((bucket.refill now).take amount).level now = bucket.level now - amount := by
  change min bucket.burst (bucket.level now - amount + (now - now) * bucket.rate) = bucket.level now - amount
  rw [sub_self, zero_mul, add_zero]
  exact min_eq_right ((sub_le_self _ nonneg).trans (bucket.level_le now))

/-! ## Work that waits -/

/-- Jobs in order, each an amount of tokens and the instant by which it has to
pass.  With the tokens at hand and the inflow from now on, each job passes in
time. -/
def Meets (rate now tokens : K) : List (K × K) → Prop
  | [] => True
  | job :: rest => job.1 ≤ tokens + rate * (job.2 - now) ∧ Meets rate now (tokens - job.1) rest

variable {rate tokens more due : K} {job : K × K} {jobs : List (K × K)}

/-- The amounts of the jobs. -/
def total (jobs : List (K × K)) : K := (jobs.map Prod.fst).sum

theorem Meets.mono (meets : Meets rate now tokens jobs) (enough : tokens ≤ more) : Meets rate now more jobs := by
  induction jobs generalizing tokens more with
  | nil => trivial
  | cons job rest inductionHypothesis =>
      have first := meets.1
      refine ⟨by linarith, inductionHypothesis meets.2 (sub_le_sub_right enough _)⟩

omit [IsStrictOrderedRing K] in
/-- Waiting changes nothing: what a job loses in time flows in. -/
theorem Meets.wait {later : K} (meets : Meets rate now tokens jobs) :
    Meets rate later (tokens + rate * (later - now)) jobs := by
  induction jobs generalizing tokens with
  | nil => trivial
  | cons job rest inductionHypothesis =>
      have first := meets.1
      have same : tokens + rate * (later - now) + rate * (job.2 - later) = tokens + rate * (job.2 - now) := by ring
      have left : tokens + rate * (later - now) - job.1 = tokens - job.1 + rate * (later - now) := by ring
      refine ⟨same.symm ▸ first, ?_⟩
      rw [left]
      exact inductionHypothesis meets.2

/-- Part of the first job passes. -/
theorem Meets.pay {left : K} (meets : Meets rate now tokens ((amount + left, due) :: jobs)) :
    Meets rate now (tokens - amount) ((left, due) :: jobs) := by
  have first := meets.1
  have same : tokens - amount - left = tokens - (amount + left) := by ring
  refine ⟨?_, ?_⟩
  · dsimp only at first ⊢
    linarith
  · rw [same]
    exact meets.2

/-- A job is given up, or done with. -/
theorem Meets.skip (meets : Meets rate now tokens (job :: jobs)) (nonneg : 0 ≤ job.1) :
    Meets rate now tokens jobs :=
  meets.2.mono (sub_le_self _ nonneg)

theorem Meets.concat (meets : Meets rate now tokens jobs)
    (last : total jobs + job.1 ≤ tokens + rate * (job.2 - now)) : Meets rate now tokens (jobs ++ [job]) := by
  induction jobs generalizing tokens with
  | nil =>
      rw [total, List.map_nil, List.sum_nil, zero_add] at last
      exact ⟨last, trivial⟩
  | cons first rest inductionHypothesis =>
      rw [total, List.map_cons, List.sum_cons, ← total] at last
      exact ⟨meets.1, inductionHypothesis meets.2 (by linarith)⟩

/-- While the tokens do not suffice for the first job, no job is late. -/
theorem Meets.in_time (meets : Meets rate now tokens (job :: jobs)) (positive : 0 < rate)
    (nonneg : ∀ other ∈ jobs, 0 ≤ other.1) (tooFew : tokens ≤ job.1) : ∀ other ∈ job :: jobs, now ≤ other.2 := by
  have reached : ∀ {amount tokens due : K}, amount ≤ tokens + rate * (due - now) → tokens ≤ amount → now ≤ due := by
    intro amount tokens due bound few
    have product : 0 ≤ rate * (due - now) := by linarith
    exact sub_nonneg.mp (nonneg_of_mul_nonneg_right product positive)
  induction jobs generalizing tokens job with
  | nil =>
      intro other member
      rw [List.mem_singleton.mp member]
      exact reached meets.1 tooFew
  | cons second rest inductionHypothesis =>
      intro other member
      rcases List.mem_cons.mp member with same | later
      · rw [same]
        exact reached meets.1 tooFew
      · have empty : tokens - job.1 ≤ second.1 := by
          have notNegative := nonneg second List.mem_cons_self
          linarith
        exact inductionHypothesis meets.2 (fun other member => nonneg other (List.mem_cons_of_mem _ member)) empty
          other later

theorem Meets.sublist {fewer : List (K × K)} (meets : Meets rate now tokens jobs) (nonneg : ∀ job ∈ jobs, 0 ≤ job.1)
    (part : fewer.Sublist jobs) : Meets rate now tokens fewer := by
  induction part generalizing tokens with
  | slnil => exact meets
  | cons job part inductionHypothesis =>
      have rest := meets.skip (nonneg job List.mem_cons_self)
      exact inductionHypothesis rest (fun other member => nonneg other (List.mem_cons_of_mem _ member))
  | cons_cons job part inductionHypothesis =>
      exact ⟨meets.1,
        inductionHypothesis meets.2 (fun other member => nonneg other (List.mem_cons_of_mem _ member))⟩

omit [LinearOrder K] [IsStrictOrderedRing K] in
theorem total_append (jobs : List (K × K)) (job : K × K) : total (jobs ++ [job]) = total jobs + job.1 := by
  simp [total]

omit [LinearOrder K] [IsStrictOrderedRing K] in
theorem total_cons (jobs : List (K × K)) (job : K × K) : total (job :: jobs) = job.1 + total jobs := by
  simp [total]

theorem total_sublist {fewer : List (K × K)} (nonneg : ∀ job ∈ jobs, 0 ≤ job.1) (part : fewer.Sublist jobs) :
    total fewer ≤ total jobs := by
  induction part with
  | slnil => exact le_refl _
  | cons job part inductionHypothesis =>
      rw [total_cons]
      have rest := inductionHypothesis (fun other member => nonneg other (List.mem_cons_of_mem _ member))
      exact rest.trans (le_add_of_nonneg_left (nonneg job List.mem_cons_self))
  | cons_cons job part inductionHypothesis =>
      rw [total_cons, total_cons]
      have rest := inductionHypothesis (fun other member => nonneg other (List.mem_cons_of_mem _ member))
      exact add_le_add_right rest _

/-! ## A queue behind a bucket -/

/-- Jobs wait for the tokens of a bucket.  What has arrived since any instant is
known, and since some instant on the bucket has never run over: what waits is
what has arrived since then, less what could pass. -/
structure Serves (bucket : TokenBucket K) (now : K) (arrived : K → K) (jobs : List (K × K)) : Prop where
  nonneg : ∀ job ∈ jobs, 0 ≤ job.1
  meets : Meets bucket.rate now (bucket.level now) jobs
  inTime : ∀ job ∈ jobs, now ≤ job.2
  backlog : ∃ since ≤ now, total jobs + bucket.rate * (now - since) ≤ bucket.level now + arrived since

variable {arrived : K → K}

/-- Nothing waits. -/
theorem serves_nil (wellFormed : bucket.WellFormed) (rate : 0 ≤ bucket.rate) (later : bucket.last ≤ now)
    (nonneg : 0 ≤ arrived now) : bucket.Serves now arrived [] where
  nonneg := by
    intro job impossible
    cases impossible
  meets := trivial
  inTime := by
    intro job impossible
    cases impossible
  backlog := by
    refine ⟨now, le_refl _, ?_⟩
    rw [total, List.map_nil, List.sum_nil, sub_self, mul_zero, add_zero]
    exact add_nonneg (wellFormed.level_nonneg rate later) nonneg

theorem Serves.sublist {fewer : List (K × K)} (serves : bucket.Serves now arrived jobs) (part : fewer.Sublist jobs) :
    bucket.Serves now arrived fewer where
  nonneg := fun job member => serves.nonneg job (part.subset member)
  meets := serves.meets.sublist serves.nonneg part
  inTime := fun job member => serves.inTime job (part.subset member)
  backlog := by
    obtain ⟨since, earlier, bound⟩ := serves.backlog
    have less := total_sublist serves.nonneg part
    exact ⟨since, earlier, by linarith⟩

/-- The first job waits for its tokens. -/
theorem Serves.wait {later : K} (serves : bucket.Serves now arrived (job :: jobs)) (positive : 0 < bucket.rate)
    (sooner : now ≤ later) (room : bucket.tokens + (later - bucket.last) * bucket.rate ≤ bucket.burst)
    (tooFew : bucket.level later ≤ job.1) : bucket.Serves later arrived (job :: jobs) := by
  have rises := level_rises sooner (le_of_lt positive) room
  have meets : Meets bucket.rate later (bucket.level later) (job :: jobs) := by
    rw [rises]
    exact serves.meets.wait
  refine ⟨serves.nonneg, meets, ?_, ?_⟩
  · exact meets.in_time positive (fun other member => serves.nonneg other (List.mem_cons_of_mem _ member)) tooFew
  · obtain ⟨since, earlier, bound⟩ := serves.backlog
    refine ⟨since, earlier.trans sooner, ?_⟩
    calc
      total (job :: jobs) + bucket.rate * (later - since) =
          total (job :: jobs) + bucket.rate * (now - since) + bucket.rate * (later - now) := by ring
      _ ≤ bucket.level now + arrived since + bucket.rate * (later - now) := add_le_add_left bound _
      _ = bucket.level later + arrived since := by rw [rises]; ring

omit [IsStrictOrderedRing K] in
theorem Serves.refill (serves : bucket.Serves now arrived jobs) : (bucket.refill now).Serves now arrived jobs := by
  have level := bucket.level_refill now
  refine ⟨serves.nonneg, ?_, serves.inTime, ?_⟩
  · rw [level]
    exact serves.meets
  · rw [level]
    exact serves.backlog

/-- Part of the first job passes. -/
theorem Serves.take {left : K} (serves : bucket.Serves now arrived ((amount + left, due) :: jobs))
    (paid : 0 ≤ amount) (rest : 0 ≤ left) : ((bucket.refill now).take amount).Serves now arrived
      ((left, due) :: jobs) := by
  have level : ((bucket.refill now).take amount).level now = bucket.level now - amount := level_take_refill paid
  refine ⟨?_, ?_, ?_, ?_⟩
  · intro job member
    rcases List.mem_cons.mp member with same | later
    · exact same ▸ rest
    · exact serves.nonneg job (List.mem_cons_of_mem _ later)
  · rw [level]
    exact serves.meets.pay
  · intro job member
    rcases List.mem_cons.mp member with same | later
    · rw [same]
      exact serves.inTime (amount + left, due) List.mem_cons_self
    · exact serves.inTime job (List.mem_cons_of_mem _ later)
  · obtain ⟨since, earlier, bound⟩ := serves.backlog
    refine ⟨since, earlier, ?_⟩
    rw [total_cons] at bound ⊢
    rw [level]
    change left + total jobs + bucket.rate * (now - since) ≤ bucket.level now - amount + arrived since
    dsimp only at bound
    linarith

/-- A job arrives that may wait as long as the arrivals of the last time need. -/
theorem Serves.arrive {later : K → K} (serves : bucket.Serves now arrived jobs) (nonneg : 0 ≤ job.1)
    (inTime : now ≤ job.2) (more : ∀ since, since ≤ now → arrived since + job.1 ≤ later since)
    (bound : ∀ since, since ≤ now → later since ≤ bucket.rate * (now - since) + bucket.rate * (job.2 - now)) :
    bucket.Serves now later (jobs ++ [job]) := by
  obtain ⟨since, earlier, waiting⟩ := serves.backlog
  have arrival := more since earlier
  have curve := bound since earlier
  refine ⟨?_, serves.meets.concat (by linarith), ?_, since, earlier, ?_⟩
  · intro other member
    rcases List.mem_append.mp member with older | new
    · exact serves.nonneg other older
    · exact List.mem_singleton.mp new ▸ nonneg
  · intro other member
    rcases List.mem_append.mp member with older | new
    · exact serves.inTime other older
    · exact List.mem_singleton.mp new ▸ inTime
  · rw [total_append]
    linarith

/-- More may have arrived than waits. -/
theorem Serves.loosen {later : K → K} (serves : bucket.Serves now arrived jobs)
    (more : ∀ since, since ≤ now → arrived since ≤ later since) : bucket.Serves now later jobs := by
  obtain ⟨since, earlier, bound⟩ := serves.backlog
  have arrival := more since earlier
  exact ⟨serves.nonneg, serves.meets, serves.inTime, since, earlier, by linarith⟩

end TokenBucket
end MetaShare
