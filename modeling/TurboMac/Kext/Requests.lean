import TurboMac.Kext.Calls

/-! # When an HWP access succeeds

The driver's checks of what it reads and writes are exact: an access succeeds if
and only if every CPU it is about, and no other, answers as it should.
-/

namespace TurboMac.Kext

open Program

/-- What happened, in order. -/
def World.events (w : World) : List Event := (w.log.map (·.event)).reverse

@[simp] theorem World.events_logged (w : World) (e : Event) :
    (w.logged e).events = w.events ++ [e] := by
  simp [World.events, World.logged]

theorem World.events_congr {w w' : World} (h : w'.log = w.log) : w'.events = w.events := by
  rw [World.events, World.events, h]

/-- HWP requests can be accessed. -/
def HWP.Ready (hwp : HWP) : Prop := hwp.supported = true ∧ hwp.enabled = true

theorem HWP.not_ready {hwp : HWP} : (!hwp.supported || !hwp.enabled) = true ↔ ¬ hwp.Ready := by
  cases h : hwp.supported <;> cases h' : hwp.enabled <;> simp [HWP.Ready, h, h']

section

variable (P : Platform) {w w' : World} {ok : Bool}

/-! ## The logical requests -/

/-- A read succeeds if every CPU ran the callback, with HWP enabled. -/
theorem readHWPRequestsLocked_cases {out current : HWPRequests}
    (h : exec (readHWPRequestsLocked P out) w = ((ok, current), w')) :
    ¬ w.driver.hwp.Ready ∧ ok = false ∧ w' = w ∨
    w.driver.hwp.Ready ∧ ∃ cpus, cpus = P.hwpRequest w.log .read ∧
      w' = w.logged (.hwpRequest .read cpus) ∧
      (ok = true ↔ cpus ≠ [] ∧ AllRun .read cpus) ∧
      (ok = true → Answered .read current.present current.values cpus ∧
        current.count = cpus.length) := by
  set cpus := P.hwpRequest w.log .read with hcpus
  set b := cpus.foldl hwpRequestOnCPU ⟨0, 0, .read, fun _ => 0, fun _ => false⟩ with hb
  have hstart : exec (rendezvousHWPRequest P .read) w =
      (b, w.logged (.hwpRequest .read cpus)) := rfl
  unfold readHWPRequestsLocked at h
  rw [exec_bind, exec_getHWP] at h
  rcases exec_ite_cases h with ⟨hready, h⟩ | ⟨hready, h⟩
  · rcases Prod.mk.inj h with ⟨hresult, rfl⟩
    rcases Prod.mk.inj hresult with ⟨rfl, -⟩
    exact .inl ⟨HWP.not_ready.1 hready, rfl, rfl⟩
  right
  refine ⟨not_not.1 fun hnot => hready (HWP.not_ready.2 hnot), cpus, rfl, ?_⟩
  rw [exec_bind, hstart] at h
  rcases exec_ite_cases h with ⟨hincomplete, h⟩ | ⟨hcomplete, h⟩
  · rcases Prod.mk.inj h with ⟨hresult, rfl⟩
    rcases Prod.mk.inj hresult with ⟨rfl, -⟩
    refine ⟨rfl, ⟨by simp, ?_⟩, by simp⟩
    rintro ⟨hne, hall⟩
    have hoverflow := (overflow_eq_zero_iff hb).2 hall
    rcases answered_of_overflow hb hoverflow with ⟨hanswered, hcount, -⟩
    have hpos : 0 < cpus.length := List.length_pos_iff.2 hne
    have hroom := hanswered.length.2
    dsimp only at hincomplete
    omega
  dsimp only at hcomplete
  simp only [not_or, not_not] at hcomplete
  rcases answered_of_overflow hb hcomplete.1 with ⟨hanswered, hcount, hlength⟩
  rcases exec_ite_cases h with ⟨hmissing, h⟩ | ⟨-, h⟩
  · exact absurd (hlength.trans hcount.symm) hmissing
  · rcases Prod.mk.inj h with ⟨hresult, rfl⟩
    rcases Prod.mk.inj hresult with ⟨rfl, rfl⟩
    refine ⟨rfl, ⟨fun _ => ⟨?_, hanswered.allRun⟩, fun _ => rfl⟩, fun _ => ⟨hanswered, hlength⟩⟩
    rintro hnil
    rw [hnil, List.length_nil] at hcount
    exact hcomplete.2.1 hcount

/-- A read of the HWP requests that succeeds is one rendezvous. -/
theorem readHWPRequestsLocked_spec {out current : HWPRequests}
    (h : exec (readHWPRequestsLocked P out) w = ((true, current), w')) :
    ∃ cpus, w' = w.logged (.hwpRequest .read cpus) ∧
      RequestsRead cpus current.values current.present := by
  rcases readHWPRequestsLocked_cases P h with ⟨-, hfalse, -⟩ | ⟨-, cpus, -, hw', -, hread⟩
  · cases hfalse
  · exact ⟨cpus, hw', (hread rfl).1.requestsRead⟩

/-- A write succeeds if the CPUs to write, and no others, ran the callback and
read back what they wrote. -/
theorem writeHWPRequestsLocked_cases {values : CPU → U64} {present : CPU → Bool}
    (h : exec (writeHWPRequestsLocked P values present) w = (ok, w')) :
    ¬ w.driver.hwp.Ready ∧ ok = false ∧ w' = w ∨
    w.driver.hwp.Ready ∧ ∃ cpus, cpus = P.hwpRequest w.log (.write values present) ∧
      w' = w.logged (.hwpRequest (.write values present) cpus) ∧
      (ok = true ↔ cpus ≠ [] ∧ Answered (.write values present) present values cpus) := by
  set cpus := P.hwpRequest w.log (.write values present) with hcpus
  set b := cpus.foldl hwpRequestOnCPU
    ⟨0, 0, .write values present, fun _ => 0, fun _ => false⟩ with hb
  have hstart : exec (rendezvousHWPRequest P (.write values present)) w =
      (b, w.logged (.hwpRequest (.write values present) cpus)) := rfl
  unfold writeHWPRequestsLocked at h
  rw [exec_bind, exec_getHWP] at h
  rcases exec_ite_cases h with ⟨hready, h⟩ | ⟨hready, h⟩
  · rcases Prod.mk.inj h with ⟨rfl, rfl⟩
    exact .inl ⟨HWP.not_ready.1 hready, rfl, rfl⟩
  right
  refine ⟨not_not.1 fun hnot => hready (HWP.not_ready.2 hnot), cpus, rfl, ?_⟩
  dsimp only at h
  rw [exec_bind, hstart] at h
  rcases exec_ite_cases h with ⟨hincomplete, h⟩ | ⟨hcomplete, h⟩
  · -- the counts do not agree, so some CPU has not answered as it should
    rcases Prod.mk.inj h with ⟨rfl, rfl⟩
    refine ⟨rfl, by simp, ?_⟩
    rintro ⟨hne, hanswered⟩
    rcases hanswered.broadcast hb with ⟨hoverflow, -, -⟩
    have hcount := (answered_of_overflow hb hoverflow).2.1
    have hpos : 0 < cpus.length := List.length_pos_iff.2 hne
    have hlength := hanswered.length.1
    dsimp only at hincomplete
    omega
  dsimp only at hcomplete
  simp only [not_or, not_not] at hcomplete
  rcases answered_of_overflow hb hcomplete.1 with ⟨hanswered, hcount, -⟩
  rcases Prod.mk.inj h with ⟨rfl, rfl⟩
  refine ⟨rfl, ?_⟩
  dsimp only
  rw [decide_eq_true_eq]
  -- with the counts in order, the comparison of the arrays decides
  constructor
  · intro hall
    refine ⟨?_, hanswered.allRun, ?_, ?_⟩
    · intro hnil
      rw [hnil, List.length_nil] at hcount
      exact hcomplete.2.1 hcount
    · intro index
      rw [(hall index).1]
      exact hanswered.present index
    · intro cpu hmem index hnumber
      have hpresent := (hanswered.present index).2 ⟨cpu, hmem, hnumber⟩
      rw [hanswered.values cpu hmem index hnumber]
      exact (hall index).2 ((hall index).1.trans hpresent)
  · rintro ⟨-, hexact⟩ index
    rcases hexact.broadcast hb with ⟨-, hpresent, hvalues⟩
    exact ⟨(congrFun hpresent index).symm, hvalues index⟩

/-! ## The package request -/

/-- The package request was written and read back. -/
def PackageWritten (value : U64) (trace : List Event) : Prop :=
  ∃ enable before enable', trace =
    [.rdmsr msrHWPEnable enable, .rdmsr msrHWPPackageRequest before,
      .wrmsr msrHWPPackageRequest value,
      .rdmsr msrHWPEnable enable', .rdmsr msrHWPPackageRequest value]

/-- A read asks `IA32_PM_ENABLE` first. -/
theorem readHWPPackageRequestLocked_cases {result : Option U64}
    (h : exec (readHWPPackageRequestLocked P) w = (result, w')) :
    result = none ∧ (w' = w ∨ ∃ enable, w' = w.logged (.rdmsr msrHWPEnable enable)) ∨
    ∃ enable value, result = some value ∧
      w' = (w.logged (.rdmsr msrHWPEnable enable)).logged (.rdmsr msrHWPPackageRequest value) := by
  unfold readHWPPackageRequestLocked hwpEnabledOnCurrentCPULocked at h
  rw [exec_bind, exec_getHWP] at h
  rcases exec_ite_cases h with ⟨-, h⟩ | ⟨-, h⟩
  · rcases Prod.mk.inj h with ⟨rfl, rfl⟩
    exact .inl ⟨rfl, .inl rfl⟩
  rw [exec_bind, exec_bind, exec_getHWP] at h
  dsimp only at h
  cases hsupported : w.driver.hwp.supported with
  | false =>
      simp only [hsupported, Bool.not_false, if_true, exec_pure] at h
      rcases Prod.mk.inj h with ⟨rfl, rfl⟩
      exact .inl ⟨rfl, .inl rfl⟩
  | true =>
      simp only [hsupported, Bool.not_true, Bool.false_eq_true, if_false] at h
      have henable : exec (do
          let value ← rdmsr64 P msrHWPEnable
          return value &&& hwpEnableBit != 0 : DriverM Bool) w =
        (P.rdmsr w.log msrHWPEnable &&& hwpEnableBit != 0,
          w.logged (.rdmsr msrHWPEnable (P.rdmsr w.log msrHWPEnable))) := rfl
      rw [henable] at h
      rcases exec_ite_cases h with ⟨-, h⟩ | ⟨-, h⟩
      · rcases Prod.mk.inj h with ⟨rfl, rfl⟩
        exact .inl ⟨rfl, .inr ⟨_, rfl⟩⟩
      · rcases Prod.mk.inj h with ⟨rfl, rfl⟩
        exact .inr ⟨_, _, rfl, rfl⟩

/-- A write succeeds if the register reads back as written. -/
theorem writeHWPPackageRequestLocked_cases {value : U64}
    (h : exec (writeHWPPackageRequestLocked P value) w = (ok, w')) :
    ∃ trace, w'.events = w.events ++ trace ∧ w'.driver = w.driver ∧
      (∀ e ∈ trace, ∃ msr v, e = .rdmsr msr v ∨ e = .wrmsr msrHWPPackageRequest v) ∧
      (ok = true ↔ PackageWritten value trace) := by
  unfold writeHWPPackageRequestLocked at h
  rw [exec_bind] at h
  generalize hread : exec (readHWPPackageRequestLocked P) w = r at h
  rcases r with ⟨before, w₁⟩
  dsimp only at h
  rcases exec_ite_cases h with ⟨hnone, hrun⟩ | ⟨hsome, hrun⟩
  · rcases Prod.mk.inj hrun with ⟨rfl, rfl⟩
    rcases readHWPPackageRequestLocked_cases P hread with ⟨-, rfl | ⟨enable, rfl⟩⟩ | ⟨_, _, rfl, -⟩
    · exact ⟨[], by simp, rfl, by simp, by simp [PackageWritten]⟩
    · exact ⟨[.rdmsr msrHWPEnable enable], by simp, rfl, by simp, by simp [PackageWritten]⟩
    · simp at hnone
  rcases readHWPPackageRequestLocked_cases P hread with ⟨rfl, -⟩ | ⟨enable, found, rfl, rfl⟩
  · simp at hsome
  rw [exec_bind] at hrun
  change exec _ (((w.logged (.rdmsr msrHWPEnable enable)).logged
    (.rdmsr msrHWPPackageRequest found)).logged (.wrmsr msrHWPPackageRequest value)) = _ at hrun
  rw [exec_bind] at hrun
  generalize hback : exec (readHWPPackageRequestLocked P) (((w.logged
    (.rdmsr msrHWPEnable enable)).logged (.rdmsr msrHWPPackageRequest found)).logged
      (.wrmsr msrHWPPackageRequest value)) = r at hrun
  rcases r with ⟨after, w₂⟩
  rcases Prod.mk.inj hrun with ⟨rfl, rfl⟩
  rcases readHWPPackageRequestLocked_cases P hback with
    ⟨rfl, rfl | ⟨enable', rfl⟩⟩ | ⟨enable', readback, rfl, rfl⟩
  · refine ⟨[.rdmsr msrHWPEnable enable, .rdmsr msrHWPPackageRequest found,
      .wrmsr msrHWPPackageRequest value], by simp, rfl, by simp, by simp [PackageWritten]⟩
  · refine ⟨[.rdmsr msrHWPEnable enable, .rdmsr msrHWPPackageRequest found,
      .wrmsr msrHWPPackageRequest value, .rdmsr msrHWPEnable enable'], by simp, rfl, by simp,
      by simp [PackageWritten]⟩
  · refine ⟨[.rdmsr msrHWPEnable enable, .rdmsr msrHWPPackageRequest found,
      .wrmsr msrHWPPackageRequest value, .rdmsr msrHWPEnable enable',
      .rdmsr msrHWPPackageRequest readback], by simp, rfl, by simp, ?_⟩
    simp [PackageWritten]

end

end TurboMac.Kext
