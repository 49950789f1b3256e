import TurboMac.Linux.Loop

/-! # What the control loop sees

Whatever reads fail, raise or make no sense, the governor and the fan floor see what has
been read in the spans they look at, and nothing older: a window has kept all of it, and
a sample that has not been taken leaves no trace of the one before.
-/

namespace TurboMac.Linux

open Window (TimedValue expire Recent)

/-! ## One window -/

namespace SampleWindow

variable {w : SampleWindow} {all : List (TimedValue ℚ ℚ)} {clock now : ℚ}

/-- A window is up to date at `clock` with all that it has been given. -/
structure UpToDate (w : SampleWindow) (clock : ℚ) (all : List (TimedValue ℚ ℚ)) : Prop where
  keepS : w.keepS = 12
  recent : Recent 12 clock all w.d

/-- What a push adds to what has been given. -/
def given (now : ℚ) (v : Reading) : List (TimedValue ℚ ℚ) := (v.num?.map fun v => ⟨now, v⟩).toList

theorem UpToDate.wait (h : UpToDate w clock all) (hclock : clock ≤ now) : UpToDate w now all :=
  ⟨h.keepS, h.recent.wait hclock⟩

theorem UpToDate.push (h : UpToDate w clock all) (hclock : clock ≤ now) (v : Reading) :
    UpToDate (w.push now v) now (all ++ given now v) := by
  cases hv : v.num? with
  | none =>
      have hpush : w.push now v = w := by simp only [SampleWindow.push, hv]
      rw [hpush, given, hv]
      simpa using h.wait hclock
  | some value =>
      have hpush : w.push now v = ⟨w.keepS, expire w.keepS now (w.d ++ [⟨now, value⟩])⟩ := by
        simp only [SampleWindow.push, hv]
      rw [hpush, given, hv]
      refine ⟨h.keepS, ?_⟩
      rw [h.keepS]
      exact (h.recent.push ⟨now, value⟩).expire hclock

/-- A span of up to 12 s is all kept. -/
theorem UpToDate.values {span : ℚ} (h : UpToDate w now all) (hspan : span ≤ 12) :
    w.values now span = (all.filter (inSpan now span)).map TimedValue.value := by
  have hold : ∀ s : TimedValue ℚ ℚ, inSpan now span s = true → now - s.time ≤ 12 := by
    intro s hs
    have hlt := of_decide_eq_true hs
    linarith
  rw [SampleWindow.values, h.recent.filter (le_refl now) hold]

end SampleWindow

theorem num?_ofOption (v : Option ℚ) : (Reading.ofOption v).num? = v := by
  cases v with
  | none => rfl
  | some v => rfl

namespace Loop

variable {σ : Type} (setup : LoopSetup σ) (l : Loop σ) (x : LoopInput σ) (slow : Bool)

/-- Actions leave the samples. -/
theorem foldl_apply_sampler (outcome : ApplyOutcome σ) (actions : List Action) :
    (actions.foldl (apply setup outcome) l).sampler = l.sampler := by
  induction actions generalizing l with
  | nil => rfl
  | cons action actions ih =>
      rw [List.foldl_cons, ih]
      unfold apply
      rcases action with ⟨pl1W, pl2W, reason⟩ | e
      · cases outcome <;> rfl
      · rfl

theorem loopOnce_sampler : (l.loopOnce setup x slow).1.sampler = l.sampled x slow := by
  show (l.tick setup x slow).1.sampler = _
  unfold tick
  dsimp only
  split
  · rfl
  · exact foldl_apply_sampler _ _ _ _

/-- What a fast sample gives the windows. -/
theorem sampled_w (channel : Channel) :
    (l.sampled x slow).w channel =
      (l.sampler.w channel).push x.now (x.fast.elim .none fun reads => reads.value slow channel) := by
  have hslow : (l.sampled x slow).w = (l.sampleFast x slow).w := by
    unfold sampled
    dsimp only
    split
    · rfl
    · rfl
  rw [hslow]
  cases hfast : x.fast with
  | none => simp only [sampleFast, hfast, Option.elim_none]; rfl
  | some reads => simp only [sampleFast, hfast, Option.elim_some]; rfl

end Loop

/-! ## Runs -/

namespace LoopRun

variable {σ : Type} (r : LoopRun σ)

/-- The samples of iteration `n`. -/
def sampled (n : ℕ) : Sampler := (r.state n).sampled (r.inputs n) (slow n)

/-- What iteration `i` reads for a channel, if it is a number. -/
def reading (channel : Channel) (i : ℕ) : Option (TimedValue ℚ ℚ) := do
  let reads ← (r.inputs i).fast
  let v ← (reads.value (slow i) channel).num?
  return ⟨r.time i, v⟩

/-- What has been read for a channel up to iteration `n`. -/
def readings (channel : Channel) (n : ℕ) : List (TimedValue ℚ ℚ) :=
  (List.range (n + 1)).filterMap (r.reading channel)

/-- Of that, what lies in the span before iteration `n`. -/
def seen (channel : Channel) (n : ℕ) (span : ℚ) : List ℚ :=
  ((r.readings channel n).filter (SampleWindow.inSpan (r.time n) span)).map TimedValue.value

/-- The temperature of iteration `i`, if it has taken a slow sample. -/
def slowSample (i : ℕ) : Option (TimedValue ℚ (Option ℚ)) :=
  if slow i then (r.inputs i).slow.map fun reads => ⟨r.time i, reads.pkgC⟩ else none

/-- The last slow sample up to iteration `n`. -/
def lastSlow (n : ℕ) : Option (TimedValue ℚ (Option ℚ)) :=
  ((List.range (n + 1)).filterMap r.slowSample).getLast?

theorem state_sampler (n : ℕ) : (r.state (n + 1)).sampler = r.sampled n :=
  Loop.loopOnce_sampler _ _ _ _

theorem reading_eq (channel : Channel) (i : ℕ) :
    (r.reading channel i).toList = SampleWindow.given (r.time i)
      ((r.inputs i).fast.elim .none fun reads => reads.value (slow i) channel) := by
  unfold reading SampleWindow.given
  cases (r.inputs i).fast with
  | none => rfl
  | some reads =>
      rw [Option.elim_some, Option.bind_eq_bind, Option.bind_some]
      cases (reads.value (slow i) channel).num? with
      | none => rfl
      | some v => rfl

theorem readings_succ (channel : Channel) (n : ℕ) :
    r.readings channel (n + 1) = r.readings channel n ++ (r.reading channel (n + 1)).toList := by
  rw [readings, List.range_succ, List.filterMap_append, ← readings]
  cases hreading : r.reading channel (n + 1) with
  | none => simp [hreading]
  | some s => simp [hreading]

/-- Each window is up to date with what has been read for its channel. -/
theorem upToDate (channel : Channel) (n : ℕ) :
    ((r.sampled n).w channel).UpToDate (r.time n) (r.readings channel n) := by
  induction n with
  | zero =>
      have hnew : (Sampler.init.w channel).UpToDate (r.time 0) [] := ⟨rfl, Window.recent_nil⟩
      have hpush := hnew.push (le_refl _)
        ((r.inputs 0).fast.elim .none fun reads => reads.value (slow 0) channel)
      have hreadings : r.readings channel 0 = (r.reading channel 0).toList := by
        cases hreading : r.reading channel 0 with
        | none => simp [readings, hreading]
        | some s => simp [readings, hreading]
      rw [← reading_eq, List.nil_append] at hpush
      rw [hreadings, sampled, Loop.sampled_w]
      exact hpush
  | succ n ih =>
      have hpush := ih.push (r.mono (Nat.le_succ n))
        ((r.inputs (n + 1)).fast.elim .none fun reads => reads.value (slow (n + 1)) channel)
      rw [sampled, Loop.sampled_w, state_sampler, readings_succ, reading_eq]
      exact hpush

theorem values_eq (channel : Channel) (n : ℕ) {span : ℚ} (hspan : span ≤ 12) :
    ((r.sampled n).w channel).values (r.time n) span = r.seen channel n span :=
  (r.upToDate channel n).values hspan

/-- One iteration leaves the slow data of the last slow sample, if those were there before. -/
theorem slow_step (n : ℕ) {last : Option (TimedValue ℚ (Option ℚ))}
    (hmono : (r.state n).sampler.slowMono = last.map TimedValue.time)
    (htemp : (r.state n).sampler.pkgC = last.bind TimedValue.value) :
    (r.sampled n).slowMono = ((r.slowSample n).or last).map TimedValue.time ∧
      (r.sampled n).pkgC = ((r.slowSample n).or last).bind TimedValue.value := by
  have hfast : ((r.state n).sampleFast (r.inputs n) (slow n)).slowMono = (r.state n).sampler.slowMono ∧
      ((r.state n).sampleFast (r.inputs n) (slow n)).pkgC = (r.state n).sampler.pkgC := by
    unfold Loop.sampleFast
    split
    · exact ⟨rfl, rfl⟩
    · exact ⟨rfl, rfl⟩
  rw [← hfast.1] at hmono
  rw [← hfast.2] at htemp
  unfold sampled Loop.sampled slowSample
  cases hslow : slow n with
  | false =>
      rw [hslow] at hmono htemp
      exact ⟨hmono, htemp⟩
  | true =>
      rw [hslow] at hmono htemp
      cases (r.inputs n).slow with
      | none => exact ⟨hmono, htemp⟩
      | some reads => exact ⟨rfl, rfl⟩

theorem lastSlow_succ (n : ℕ) : r.lastSlow (n + 1) = (r.slowSample (n + 1)).or (r.lastSlow n) := by
  rw [lastSlow, List.range_succ, List.filterMap_append, List.getLast?_append, ← lastSlow]
  cases hsample : r.slowSample (n + 1) with
  | none => simp [hsample]
  | some s => simp [hsample]

/-- The slow data are those of the last slow sample. -/
theorem slow_eq (n : ℕ) :
    (r.sampled n).slowMono = (r.lastSlow n).map TimedValue.time ∧
      (r.sampled n).pkgC = (r.lastSlow n).bind TimedValue.value := by
  induction n with
  | zero =>
      have hfirst : r.lastSlow 0 = (r.slowSample 0).or none := by
        cases hsample : r.slowSample 0 with
        | none => simp [lastSlow, hsample]
        | some s => simp [lastSlow, hsample]
      rw [hfirst]
      exact r.slow_step 0 rfl rfl
  | succ n ih =>
      rw [lastSlow_succ]
      apply r.slow_step
      · rw [state_sampler]
        exact ih.1
      · rw [state_sampler]
        exact ih.2

/-- The power of the fast sample of iteration `n`. -/
def pdtr (n : ℕ) : Option ℚ :=
  (r.inputs n).fast.bind fun reads => validInput (reads.get (slow n) .pdtr)

/-- The fast sample is valid if its power is and there has been an ACPW in 10 s. -/
theorem latest_eq (n : ℕ) :
    (if (r.sampled n).latest.valid then (r.sampled n).latest.pdtrW else none) =
      if r.seen .acpw n 10 = [] then none else r.pdtr n := by
  have hlatest : (r.sampled n).latest = ((r.state n).sampleFast (r.inputs n) (slow n)).latest := by
    unfold sampled Loop.sampled
    dsimp only
    split
    · rfl
    · rfl
  have hacpw : ((r.sampled n).w .acpw).median (r.time n) 10 = Median.median (r.seen .acpw n 10) := by
    rw [SampleWindow.median, values_eq _ _ _ (by norm_num)]
  rw [sampled, Loop.sampled_w] at hacpw
  rw [hlatest, Loop.sampleFast, pdtr]
  cases hfast : (r.inputs n).fast with
  | none => simp [Sampler.invalidate]
  | some reads =>
      rw [hfast, Option.elim_some] at hacpw
      have hvalid : ((r.state n).sampler.fast (r.inputs n).now reads (slow n)).latest.valid =
          ((validInput (reads.get (slow n) .pdtr)).isSome &&
            (Median.median (r.seen .acpw n 10)).isSome) := by
        rw [← hacpw]
        rfl
      rw [Option.bind_some, hvalid]
      by_cases hempty : r.seen .acpw n 10 = []
      · simp [hempty, Median.median_eq_none.2]
      · have hsome : (Median.median (r.seen .acpw n 10)).isSome = true := by
          rw [Option.isSome_iff_ne_none]
          exact fun h => hempty (Median.median_eq_none.1 h)
        rw [hsome, if_neg hempty, Bool.and_true]
        show (if (validInput _).isSome = true then validInput _ else none) = _
        cases validInput (reads.get (slow n) .pdtr) with
        | none => rfl
        | some v => rfl

/-- A reading of ACPW is of 30 to 100 W. -/
theorem acpw_bounds {n : ℕ} {span v : ℚ} (h : v ∈ r.seen .acpw n span) : 30 ≤ v ∧ v ≤ 100 := by
  rcases List.mem_map.1 h with ⟨s, hs, rfl⟩
  rcases List.mem_filterMap.1 (List.mem_filter.1 hs).1 with ⟨i, -, hreading⟩
  rcases Option.bind_eq_some_iff.1 hreading with ⟨reads, -, hreading⟩
  rcases Option.bind_eq_some_iff.1 hreading with ⟨v, hv, hreading⟩
  obtain rfl : (⟨r.time i, v⟩ : TimedValue ℚ ℚ) = s := Option.some.inj hreading
  have hsane : (reads.fresh (slow i)).acpwW = some v := by
    rw [FastReads.value, num?_ofOption] at hv
    exact hv
  unfold FastReads.fresh at hsane
  split at hsane
  · unfold saneAcpw at hsane
    split at hsane
    · split_ifs at hsane with hrange
      obtain rfl := Option.some.inj hsane
      have hlow : (30000 : ℚ) ≤ _ := Int.cast_le.2 hrange.1
      have hhigh : _ ≤ (100000 : ℚ) := Int.cast_le.2 hrange.2
      constructor
      · dsimp only
        linarith
      · dsimp only
        linarith
    · cases hsane
  · cases hsane

/-- A power is of 0 to 250 W. -/
theorem pdtr_bounds {n : ℕ} {v : ℚ} (h : r.pdtr n = some v) : 0 ≤ v ∧ v < 250 := by
  rcases Option.bind_eq_some_iff.1 h with ⟨reads, -, hvalid⟩
  unfold validInput at hvalid
  split at hvalid
  · split_ifs at hvalid with hrange
    obtain rfl := Option.some.inj hvalid
    exact hrange
  · cases hvalid

/-- Whatever reads fail, what the governor sees is this tick's power, if it makes sense and
there has been a sane ACPW within 10 s; the median of all ACPW of those 10 s; the mean of
all powers of the last second; and the temperature of the last slow sample, if that is no
older than 3 s. The fan floor sees the temperature of this tick, or none. -/
theorem governor_sees (n : ℕ) :
    (r.sample n).pdtrW = .ofOption (if r.seen .acpw n 10 = [] then none else r.pdtr n) ∧
      (r.sample n).acpwW = .ofOption (Median.median (r.seen .acpw n 10)) ∧
      (r.sample n).inputMean1s = .ofOption (Median.mean (r.seen .input n 1)) ∧
      (r.sample n).pkgC = .ofOption ((r.lastSlow n).bind fun s =>
        if r.time n - s.time ≤ tempFreshS then s.value else none) ∧
      (∀ pdtr acpw, (r.sample n).valid? = some (pdtr, acpw) →
        0 ≤ pdtr ∧ pdtr < 250 ∧ 30 ≤ acpw ∧ acpw ≤ 100) ∧
      ∀ input ∈ r.fan n, input.tempC = (r.inputs n).slow.bind SlowReads.pkgC ∧
        input.pkgW = Median.median (r.seen .pkg n 1) := by
  have hpdtr : (r.sample n).pdtrW =
      .ofOption (if r.seen .acpw n 10 = [] then none else r.pdtr n) := by
    rw [← latest_eq]
    rfl
  have hacpw : (r.sample n).acpwW = .ofOption (Median.median (r.seen .acpw n 10)) := by
    rw [← values_eq _ _ _ (by norm_num)]
    rfl
  refine ⟨hpdtr, hacpw, ?_, ?_, ?_, ?_⟩
  · rw [← values_eq _ _ _ (by norm_num)]
    rfl
  · have hslow := r.slow_eq n
    show Reading.ofOption (if (r.sampled n).slowMono.any _ then (r.sampled n).pkgC else none) = _
    rw [hslow.1, hslow.2]
    cases r.lastSlow n with
    | none => rfl
    | some s => simp [time]
  · intro pdtr acpw hvalid
    unfold Sample.valid? at hvalid
    rw [hpdtr, hacpw, num?_ofOption, num?_ofOption] at hvalid
    split at hvalid
    · rename_i p a hp ha
      split_ifs at hvalid
      cases hvalid
      have hmedian := Median.median_mem_bounds (fun _ hv => (r.acpw_bounds hv).1)
        (fun _ hv => (r.acpw_bounds hv).2) ha
      split at hp
      · cases hp
      · have hpower := r.pdtr_bounds hp
        exact ⟨hpower.1, hpower.2, hmedian⟩
    · cases hvalid
  · intro input hinput
    unfold fan Loop.tick at hinput
    dsimp only at hinput
    split at hinput
    · cases hinput
    · split at hinput
      · rename_i hslow
        obtain rfl := Option.some.inj hinput
        constructor
        · show (if (r.inputs n).slow.isSome then (r.sampled n).pkgC else none) = _
          unfold sampled Loop.sampled
          rw [hslow]
          cases (r.inputs n).slow with
          | none => rfl
          | some reads => rfl
        · rw [← values_eq _ _ _ (by norm_num)]
          rfl
      · cases hinput

end LoopRun

end TurboMac.Linux
