import TurboMac.Kext.Restore

/-! # The trace of `arm`

What has been seen so far in the trace of one `arm`, and the rule every further
event has to obey: the order in which HWP is enabled, raised, and the guard
cleared. Traces have their newest entry first, like the log.
-/

namespace TurboMac.Kext

open Program

instance (operation : PowerControlOperation) (cpus : List PowerControlCPU) (enabled : Bool) :
    Decidable (GuardReads operation cpus enabled) :=
  inferInstanceAs (Decidable (cpus ≠ [] ∧ ∀ cpu ∈ cpus, _))

/-- What a trace has established. -/
structure Seen where
  /-- the last value written to MSR 0x610 -/
  limit : Option U64
  /-- it has been read back since -/
  limitRead : Bool
  /-- every CPU has reported the guard enabled since, and it has not been written -/
  guardOn : Bool
  /-- the last read of the HWP requests, if none has been written since -/
  requests : Option (List HWPRequestCPU)

def Seen.none : Seen := ⟨Option.none, false, false, Option.none⟩

/-- What an event adds. -/
def Seen.next (s : Seen) : Event → Seen
  | .wrmsr msr value =>
    if msr = msrPackagePowerLimit then
      { s with limit := some value, limitRead := false, guardOn := false }
    else if msr = msrHWPPackageRequest then { s with requests := Option.none }
    else s
  | .rdmsr msr value =>
    if msr = msrPackagePowerLimit then
      { s with limitRead := s.limitRead || s.limit.any (limitsMatch value) }
    else s
  | .powerControl .read cpus =>
    { s with guardOn := s.guardOn || decide (GuardReads .read cpus true) }
  | .powerControl _ _ => { s with guardOn := false }
  | .hwpRequest .read cpus => { s with requests := some cpus }
  | .hwpRequest (.write _ _) _ => { s with requests := Option.none }
  | .hwpEnable _ | .cpuid _ _ | .machAbsoluteTime _ => s

/-- What a whole trace has established. -/
def seen : List Entry → Seen
  | [] => Seen.none
  | e :: trace => (seen trace).next e.event

/-- The last limits written are these, and have been read back. -/
def Seen.InForce (s : Seen) (d : Driver) (pl1MW pl2MW : U32) : Prop :=
  s.limitRead = true ∧ ∃ original, s.limit = some (raplWithPowerLimits original
    (raplMWToRaw pl1MW d.powerExponent) (raplMWToRaw pl2MW d.powerExponent))

/-- Each CPU's request has read back as expected, and each captured CPU's leaves
it the highest performance level. -/
def ReadAtHighest (hwp : HWP) (cpus : List HWPRequestCPU) : Prop :=
  RequestsRead cpus hwp.expectedRequests hwp.capturedPresent ∧
    ∀ index, hwp.capturedPresent index = true →
      hwpEffectiveMaximum (hwp.expectedRequests index) hwp.expectedPackageRequest
        hwp.flexibleRequestFields = hwpHighest hwp.capabilitiesRaw

/-- The rule of an event after what has been seen. -/
structure Rule (r : LimitRequest) (s : Seen) (e : Entry) : Prop where
  /-- HWP is enabled under a limit of at most 5 W or the floor, with the guard on -/
  enable : e.event.IsEnable → s.guardOn = true ∧ ∃ limitMW : U32,
    limitMW.toNat ≤ max hwpBootstrapLimitMW.toNat e.driver.floorMW.toNat ∧
      s.InForce e.driver limitMW limitMW
  /-- HWP is raised under the requested limits -/
  raise : e.Raises → s.InForce e.driver r.pl1MW r.pl2MW
  /-- the guard is cleared once every CPU is at its highest -/
  clear : ∀ cpus, e.event = .powerControl .clearGuard cpus →
    ∃ read, s.requests = some read ∧ ReadAtHighest e.driver.hwp read

/-- Every event of a trace obeys the rule. -/
def Ordered (r : LimitRequest) : List Entry → Prop
  | [] => True
  | e :: trace => Rule r (seen trace) e ∧ Ordered r trace

/-! ## Trails -/

/-- The log of `w` is `base` and a trace that obeys the rule and has established `s`. -/
def Trail (r : LimitRequest) (base : List Entry) (w : World) (s : Seen) : Prop :=
  ∃ trace, w.log = trace ++ base ∧ Ordered r trace ∧ seen trace = s

section

variable {r : LimitRequest} {base : List Entry} {w w' : World} {s s' : Seen}

theorem trail_nil : Trail r w.log w Seen.none := ⟨[], rfl, trivial, rfl⟩

theorem Trail.logged (h : Trail r base w s) (e : Event) (he : Rule r s ⟨e, w.driver⟩) :
    Trail r base (w.logged e) (s.next e) := by
  obtain ⟨trace, hlog, hordered, rfl⟩ := h
  refine ⟨⟨e, w.driver⟩ :: trace, ?_, ⟨he, hordered⟩, rfl⟩
  rw [World.logged, hlog, List.cons_append]

theorem Trail.congr (h : Trail r base w s) (hlog : w'.log = w.log) : Trail r base w' s := by
  obtain ⟨trace, htrace, hordered, hs⟩ := h
  exact ⟨trace, hlog.trans htrace, hordered, hs⟩

/-- What HWP accesses leave of what has been seen. -/
structure Seen.Le (s s' : Seen) : Prop where
  limit : s'.limit = s.limit
  limitRead : s.limitRead = true → s'.limitRead = true
  guardOn : s.guardOn = true → s'.guardOn = true

theorem Seen.Le.refl (s : Seen) : s.Le s := ⟨rfl, id, id⟩

theorem Seen.Le.trans {s'' : Seen} (h : s.Le s') (h' : s'.Le s'') : s.Le s'' :=
  ⟨h'.limit.trans h.limit, fun hs => h'.limitRead (h.limitRead hs),
    fun hs => h'.guardOn (h.guardOn hs)⟩

theorem Seen.InForce.mono (hle : s.Le s') {d d' : Driver} {pl1MW pl2MW : U32}
    (h : s.InForce d pl1MW pl2MW) (hd : d'.powerExponent = d.powerExponent) :
    s'.InForce d' pl1MW pl2MW := by
  obtain ⟨hread, original, hlimit⟩ := h
  refine ⟨hle.limitRead hread, original, ?_⟩
  rw [hle.limit, hlimit, hd]

/-- An HWP access changes neither the limit nor the guard. -/
theorem Seen.le_next (s : Seen) {e : Event} (he : e.IsHWP) : s.Le (s.next e) := by
  cases e with
  | wrmsr msr value =>
      have hmsr : msr ≠ msrPackagePowerLimit := he
      simp only [Seen.next, hmsr, if_false]
      split
      · exact ⟨rfl, id, id⟩
      · exact .refl s
  | rdmsr msr value =>
      simp only [Seen.next]
      split
      · exact ⟨rfl, fun hread => by simp [hread], id⟩
      · exact .refl s
  | powerControl operation cpus =>
      have hread : operation = .read := he
      subst hread
      exact ⟨rfl, id, fun hguard => by simp [Seen.next, hguard]⟩
  | hwpRequest operation cpus =>
      cases operation with
      | read => exact ⟨rfl, id, id⟩
      | write targets targetPresent => exact ⟨rfl, id, id⟩
  | hwpEnable | cpuid | machAbsoluteTime => exact .refl s

/-- A stretch of HWP accesses, each of which obeys the rule after whatever HWP
accesses come before it. -/
theorem Trail.extend (h : Trail r base w s) {D : Driver → Driver → Prop} {K : Entry → Prop}
    (hframe : Frame D K w w') (hhwp : ∀ e, K e → e.event.IsHWP)
    (hrule : ∀ s' e, s.Le s' → D w.driver e.driver → K e → Rule r s' e) :
    ∃ s', s.Le s' ∧ Trail r base w' s' := by
  have hlog : ∀ log, Extends (fun _ e => D w.driver e.driver ∧ K e) w.log log →
      ∃ s', s.Le s' ∧ Trail r base ⟨w'.driver, log⟩ s' := by
    intro log hlog
    induction hlog with
    | refl => exact ⟨s, .refl s, h.congr rfl⟩
    | @cons log e _ he ih =>
        obtain ⟨s', hle, trace, htrace, hordered, rfl⟩ := ih
        refine ⟨(seen trace).next e.event, hle.trans (Seen.le_next _ (hhwp e he.2)), e :: trace, ?_,
          ⟨hrule _ e hle he.1 he.2, hordered⟩, rfl⟩
        exact congrArg (e :: ·) htrace
  exact hlog w'.log hframe.log

/-! ## Events the rule does not bind -/

/-- Reads, limit writes and sets of the guard are free. -/
theorem rule_of_free {e : Entry} (henable : ¬ e.event.IsEnable) (hraise : ¬ e.Raises)
    (hclear : ∀ cpus, e.event ≠ .powerControl .clearGuard cpus) : Rule r s e :=
  ⟨fun h => absurd h henable, fun h => absurd h hraise, fun cpus h => absurd h (hclear cpus)⟩

theorem rule_of_restrained {e : Entry} (h : e.Restrained) : Rule r s e := by
  refine rule_of_free h.2.1 h.2.2 ?_
  intro cpus he
  have hhwp := h.1
  rw [he] at hhwp
  exact absurd hhwp (by simp [Event.IsHWP])

theorem rule_of_read {e : Entry} (h : Reads e) : Rule r s e :=
  rule_of_restrained (Event.IsRead.restrained h)

theorem rule_of_limit (value : U64) (d : Driver) :
    Rule r s ⟨.wrmsr msrPackagePowerLimit value, d⟩ := by
  refine rule_of_free ?_ ?_ (by simp)
  · show msrPackagePowerLimit ≠ msrHWPEnable
    decide
  · rintro ⟨hmsr, -⟩
    exact absurd hmsr (by decide)

/-- An HWP access that does not enable HWP may raise it once the requested limits
are in force. -/
theorem rule_of_inForce {e : Entry} (hhwp : e.event.IsHWP) (henable : ¬ e.event.IsEnable)
    (hforce : s.InForce e.driver r.pl1MW r.pl2MW) : Rule r s e := by
  refine ⟨fun h => absurd h henable, fun _ => hforce, ?_⟩
  intro cpus he
  rw [he] at hhwp
  exact absurd hhwp (by simp [Event.IsHWP])

/-- Enabling HWP raises nothing and clears nothing. -/
theorem rule_of_enable {e : Entry} (henable : e.event.IsEnable) (hguard : s.guardOn = true)
    {limitMW : U32}
    (hle : limitMW.toNat ≤ max hwpBootstrapLimitMW.toNat e.driver.floorMW.toNat)
    (hforce : s.InForce e.driver limitMW limitMW) : Rule r s e := by
  obtain ⟨event, d⟩ := e
  cases event with
  | wrmsr msr value =>
      obtain rfl : msr = msrHWPEnable := henable
      refine ⟨fun _ => ⟨hguard, limitMW, hle, hforce⟩, ?_, by simp⟩
      rintro ⟨hmsr, -⟩
      exact absurd hmsr (by decide)
  | rdmsr | powerControl | hwpEnable | hwpRequest | cpuid | machAbsoluteTime =>
      exact False.elim henable

/-- A stretch of reads. -/
theorem Trail.reads (h : Trail r base w s) {D : Driver → Driver → Prop}
    (hframe : Frame D Reads w w') : ∃ s', s.Le s' ∧ Trail r base w' s' :=
  h.extend hframe (fun _ he => Event.IsRead.isHWP he) fun _ _ _ _ he => rule_of_read he

end

end TurboMac.Kext
