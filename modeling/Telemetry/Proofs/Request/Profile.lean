import Mathlib.Data.List.Induction
import Telemetry.Proofs.Metric.Growth
import Telemetry.Request.Profile

/-! # What a profile adds up

A profile that takes calls one after another counts them, sums their times, keeps the largest time
and lists the first slow calls.
-/
namespace Telemetry.Request
open Telemetry.Metric (Unsigned unsigned_zero)

/-- Only a time above zero counts. -/
theorem Call.time_eq (c : Call) :
    c.time = if c.elapsedMs.isFinite && Number.lt 0 c.elapsedMs then c.elapsedMs else 0 := by
  unfold Call.time
  by_cases hfin : c.elapsedMs.isFinite = true
  · have hzero : (0 : Number).isNaN = false := unsigned_zero.number
    have hsign : (0 : Number).isNegative = false := unsigned_zero.sign
    simp only [hfin, if_true, Bool.true_and, Number.maximum, Number.isNaN_of_isFinite hfin, hzero,
      hsign, Bool.or_self, Bool.false_eq_true, if_false, ite_self]
  · simp [hfin]

theorem Call.finite_time (c : Call) : c.time.isFinite = true := by
  rw [c.time_eq]
  split
  · rename_i h
    simp only [Bool.and_eq_true] at h
    exact h.1
  · exact Number.isFinite_ofNat (Nat.zero_le _)

theorem Call.unsigned_time (c : Call) : Unsigned c.time := by
  refine ⟨Number.isNaN_of_isFinite c.finite_time, ?_⟩
  rw [c.time_eq]
  split
  · rename_i h
    simp only [Bool.and_eq_true] at h
    have hplace := ((Number.lt_iff _ _).mp h.2).2.2
    rw [Number.place_zero] at hplace
    exact Number.isNegative_of_place_pos hplace
  · exact unsigned_zero.sign

/-- A profile as it is when its request begins. -/
def Profile.opening (p : Profile) : Profile :=
  { requestId := p.requestId, method := p.method, path := p.path, slowQueryMs := p.slowQueryMs }

/-- What a profile holds after some calls. Of the calls whose time before rounding reaches the
threshold it keeps the first ten, each with what was reported of it and its time in hundredths. -/
structure Tallies (cs : List Call) (p : Profile) : Prop where
  calls : p.calls = cs.length
  cacheHits : p.cacheHits = cs.countP (·.cached)
  errors : p.errors = cs.countP (·.error)
  cacheHits_le : p.cacheHits ≤ p.calls
  errors_le : p.errors ≤ p.calls
  total : p.totalMs = (cs.map Call.time).foldl (· + ·) 0
  largest : p.maxMs = (cs.map Call.time).foldl Number.maximum 0
  bound : ∀ c ∈ cs, c.time.le p.maxMs = true
  attained : (cs = [] ∧ p.maxMs = 0) ∨ ∃ c ∈ cs, c.time = p.maxMs
  within : p.maxMs.le p.totalMs = true
  slow : p.slow = ((cs.filter fun c => p.slowQueryMs.le c.time).take 10).map fun c =>
    { operation := c.operation, elapsedMs := Number.roundHalfUp (c.time * 100) / 100
      cached := c.cached, rows := c.rows, error := c.error }

section Calls

variable {p : Profile} {cs : List Call}

theorem Profile.foldl_add (p : Profile) (cs : List Call) :
    (cs.foldl Profile.add p).calls = p.calls + cs.length ∧
      (cs.foldl Profile.add p).cacheHits = p.cacheHits + cs.countP (·.cached) ∧
      (cs.foldl Profile.add p).errors = p.errors + cs.countP (·.error) := by
  induction cs using List.reverseRecOn with
  | nil => exact ⟨rfl, rfl, rfl⟩
  | append_singleton before c ih =>
    obtain ⟨hcalls, hhits, herrors⟩ := ih
    simp only [List.foldl_concat, Profile.add, hcalls, hhits, herrors, List.countP_append,
      List.countP_singleton, List.length_append, List.length_singleton]
    refine ⟨by omega, ?_, ?_⟩
    · split <;> omega
    · split <;> omega

@[simp] theorem Profile.opening_foldl_add (p : Profile) (cs : List Call) :
    (cs.foldl Profile.add p).opening = p.opening := by
  induction cs generalizing p with
  | nil => rfl
  | cons c rest ih => exact ih (p.add c)

theorem take_concat {α : Type} (l : List α) (x : α) (n : Nat) :
    (l ++ [x]).take n = if (l.take n).length < n then l.take n ++ [x] else l.take n := by
  rw [List.take_append, List.length_take]
  split
  · rename_i hshort
    rw [List.take_of_length_le (l := [x]) (by simp; omega)]
  · rename_i hfull
    have hnone : n - l.length = 0 := by omega
    rw [hnone, List.take_zero, List.append_nil]

/-- The numbers of a profile that is in use. -/
structure Sound (p : Profile) : Prop where
  total : Unsigned p.totalMs
  largest : Unsigned p.maxMs
  finite : p.maxMs.isFinite = true

theorem Sound.add (hp : Sound p) (c : Call) : Sound (p.add c) := by
  have htime := c.unsigned_time
  refine ⟨hp.total.add htime, ?_, ?_⟩
  all_goals
    simp only [Profile.add]
    rcases hp.largest.maximum_cases htime hp.finite c.finite_time with ⟨hmax, -⟩ | ⟨hmax, -⟩ <;>
      rw [hmax]
  exacts [hp.largest, htime, hp.finite, c.finite_time]

/-- One more call, whose time is either within the largest so far or the new largest. -/
theorem Tallies.add (h : Tallies cs p) (hp : Sound p) (c : Call) :
    Tallies (cs ++ [c]) (p.add c) := by
  have htime := c.unsigned_time
  have hmax := hp.largest.maximum_cases htime hp.finite c.finite_time
  have hgrows : p.totalMs.le (p.totalMs + c.time) = true := by
    exact hp.total.le_add_addend (htime.addend c.finite_time)
  constructor
  case calls => simp [Profile.add, h.calls]
  case cacheHits =>
    simp only [Profile.add, h.cacheHits, List.countP_append, List.countP_singleton]
    split <;> rfl
  case errors =>
    simp only [Profile.add, h.errors, List.countP_append, List.countP_singleton]
    split <;> rfl
  case cacheHits_le =>
    have hle := h.cacheHits_le
    simp only [Profile.add]
    split <;> omega
  case errors_le =>
    have hle := h.errors_le
    simp only [Profile.add]
    split <;> omega
  case total => simp [Profile.add, h.total]
  case largest => simp [Profile.add, h.largest]
  case bound =>
    intro d hd
    simp only [Profile.add]
    rcases hmax with ⟨hmax, hle⟩ | ⟨hmax, hle⟩ <;> rw [hmax]
    all_goals rcases List.mem_append.mp hd with hd | hd
    · exact h.bound d hd
    · exact List.mem_singleton.mp hd ▸ hle
    · exact Number.le_trans (h.bound d hd) hle
    · obtain rfl := List.mem_singleton.mp hd
      exact Number.le_refl htime.number
  case attained =>
    right
    simp only [Profile.add]
    rcases hmax with ⟨hmax, hle⟩ | ⟨hmax, hle⟩ <;> rw [hmax]
    · rcases h.attained with ⟨-, hzero⟩ | ⟨d, hd, hdmax⟩
      · refine ⟨c, by simp, ?_⟩
        rw [hzero] at hle ⊢
        exact htime.eq_zero_of_le c.finite_time hle
      · exact ⟨d, List.mem_append_left _ hd, hdmax⟩
    · exact ⟨c, by simp, rfl⟩
  case within =>
    simp only [Profile.add]
    rcases hmax with ⟨hmax, hle⟩ | ⟨hmax, hle⟩ <;> rw [hmax]
    · exact Number.le_trans h.within hgrows
    · exact hp.total.le_add_left htime c.finite_time
  case slow =>
    have hlimit : (p.add c).slowQueryMs = p.slowQueryMs := rfl
    rw [hlimit, List.filter_append]
    cases hc : p.slowQueryMs.le c.time with
    | false => simp [Profile.add, hc, h.slow]
    | true =>
      rw [List.filter_singleton, hc, cond_true, take_concat]
      simp only [Profile.add, hc, h.slow, Bool.true_and, List.length_map, decide_eq_true_eq,
        maxSlowCalls]
      split
      · rw [List.map_append]
        rfl
      · rfl

/-- A profile that is used from its beginning tallies the calls it took. -/
theorem tallies_foldl (hopening : p.opening = p) (cs : List Call) :
    Tallies cs (cs.foldl Profile.add p) ∧ Sound (cs.foldl Profile.add p) := by
  induction cs using List.reverseRecOn with
  | nil =>
    have hzero : Unsigned (0 : Number) := unsigned_zero
    have hfin : (0 : Number).isFinite = true := Number.isFinite_ofNat (Nat.zero_le _)
    rw [List.foldl_nil, ← hopening]
    refine ⟨?_, hzero, hzero, hfin⟩
    exact ⟨rfl, rfl, rfl, le_rfl, le_rfl, rfl, rfl, by simp, .inl ⟨rfl, rfl⟩,
      Number.le_refl hzero.number, rfl⟩
  | append_singleton before c ih =>
    rw [List.foldl_concat]
    exact ⟨ih.1.add ih.2 c, ih.2.add c⟩

end Calls

end Telemetry.Request
