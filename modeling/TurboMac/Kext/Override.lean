import TurboMac.Kext.Requests

/-! # The HWP override

On hardware that stores the requests it is sent, `applyHWPMaximumLocked` over a
capture takes every CPU to its highest performance level and changes nothing
else; and where TurboMac wrote its fail-safe request, a later `arm` finds a
maximum it may raise.
-/

namespace TurboMac.Kext

open Program

/-! ## Hardware that stores requests -/

/-- The package request last written, or the one there was at first. -/
def packageRequest (initial : U64) (log : List Entry) : U64 :=
  (log.findSome? fun e =>
    match e.event with
    | .wrmsr msr value => if msr = msrHWPPackageRequest then some value else none
    | _ => none).getD initial

/-- The request last written to the CPU, or the one it had at first. -/
def logicalRequest (initial : CPU → U64) (log : List Entry) (index : CPU) : U64 :=
  (log.findSome? fun e =>
    match e.event with
    | .hwpRequest (.write targets targetPresent) _ =>
      if targetPresent index then some (targets index) else none
    | _ => none).getD (initial index)

@[simp] theorem packageRequest_write (initial value : U64) (d : Driver) (log : List Entry) :
    packageRequest initial (⟨.wrmsr msrHWPPackageRequest value, d⟩ :: log) = value := by
  simp [packageRequest]

theorem packageRequest_cons (initial : U64) {e : Entry}
    (h : ∀ value, e.event ≠ .wrmsr msrHWPPackageRequest value) (log : List Entry) :
    packageRequest initial (e :: log) = packageRequest initial log := by
  unfold packageRequest
  rw [List.findSome?_cons]
  cases he : e.event with
  | wrmsr msr value =>
      have hmsr : msr ≠ msrHWPPackageRequest := by
        rintro rfl
        exact h value he
      simp [hmsr]
  | rdmsr | powerControl | hwpEnable | hwpRequest | cpuid | machAbsoluteTime => rfl

theorem logicalRequest_write (initial : CPU → U64) {targets : CPU → U64}
    {targetPresent : CPU → Bool} (cpus : List HWPRequestCPU) (d : Driver) (log : List Entry)
    {index : CPU} (h : targetPresent index = true) :
    logicalRequest initial (⟨.hwpRequest (.write targets targetPresent) cpus, d⟩ :: log) index =
      targets index := by
  simp [logicalRequest, h]

theorem logicalRequest_cons (initial : CPU → U64) {e : Entry}
    (h : ∀ targets targetPresent cpus, e.event ≠ .hwpRequest (.write targets targetPresent) cpus)
    (log : List Entry) (index : CPU) :
    logicalRequest initial (e :: log) index = logicalRequest initial log index := by
  unfold logicalRequest
  rw [List.findSome?_cons]
  cases he : e.event with
  | hwpRequest operation cpus =>
      cases operation with
      | read => rfl
      | write targets targetPresent => exact absurd he (h targets targetPresent cpus)
  | rdmsr | wrmsr | powerControl | hwpEnable | cpuid | machAbsoluteTime => rfl

/-- A rendezvous runs on the CPUs present, each under its own number and with HWP
enabled; a read returns what the CPU has, and a write takes effect. -/
structure Rendezvous (present : CPU → Bool) (requests : CPU → U64) (cpus : List HWPRequestCPU) :
    Prop where
  present : ∀ index, present index = true ↔ ∃ cpu ∈ cpus, cpu.number = index.val
  numbered : ∀ cpu ∈ cpus, ∃ index : CPU, cpu.number = index.val
  distinct : cpus.Pairwise fun cpu cpu' => cpu.number ≠ cpu'.number
  enabled : ∀ cpu ∈ cpus, cpu.enable &&& hwpEnableBit ≠ 0
  request : ∀ cpu ∈ cpus, ∀ index : CPU, cpu.number = index.val → cpu.request = requests index
  readback : ∀ cpu ∈ cpus, ∀ value, cpu.readback value = value

/-- HWP is on, and every request register has the last value written to it. -/
structure StoresRequests (P : Platform) (present : CPU → Bool) (package : U64)
    (requests : CPU → U64) : Prop where
  enabled : ∀ log, P.rdmsr log msrHWPEnable &&& hwpEnableBit ≠ 0
  package : ∀ log, P.rdmsr log msrHWPPackageRequest = packageRequest package log
  rendezvous : ∀ log operation,
    Rendezvous present (logicalRequest requests log) (P.hwpRequest log operation)

/-- What a CPU that stores requests leaves in the broadcast. -/
def HWPRequestOperation.result (requests : CPU → U64) : HWPRequestOperation → CPU → U64
  | .read, index => requests index
  | .write targets _, index => targets index

/-- A rendezvous with a target for each CPU present answers what the driver asks. -/
theorem Rendezvous.answered {present : CPU → Bool} {requests : CPU → U64}
    {cpus : List HWPRequestCPU} (h : Rendezvous present requests cpus)
    (operation : HWPRequestOperation)
    (htargets : ∀ index, present index = true → operation.Targets index) :
    Answered operation present (operation.result requests) cpus := by
  refine ⟨⟨?_, h.distinct⟩, h.present, ?_⟩
  · intro cpu hmem
    rcases h.numbered cpu hmem with ⟨index, hnumber⟩
    exact ⟨index, hnumber, h.enabled cpu hmem,
      htargets index ((h.present index).2 ⟨cpu, hmem, hnumber⟩)⟩
  · intro cpu hmem index hnumber
    cases operation with
    | read => exact h.request cpu hmem index hnumber
    | write targets targetPresent => exact h.readback cpu hmem (targets index)

/-- Nothing is written to a request register. -/
structure SameRequests (package : U64) (requests : CPU → U64) (w w' : World) : Prop where
  driver : w'.driver = w.driver
  package : packageRequest package w'.log = packageRequest package w.log
  requests : ∀ index, logicalRequest requests w'.log index = logicalRequest requests w.log index

theorem sameRequests_read (package : U64) (requests : CPU → U64) (w : World) {e : Event}
    (h : e.IsRead) : SameRequests package requests w (w.logged e) := by
  refine ⟨rfl, packageRequest_cons _ ?_ _, fun index => logicalRequest_cons _ ?_ _ _⟩
  · rintro value rfl
    exact h
  · rintro targets targetPresent cpus rfl
    exact h

theorem SameRequests.trans {package : U64} {requests : CPU → U64} {w w' w'' : World}
    (h : SameRequests package requests w w') (h' : SameRequests package requests w' w'') :
    SameRequests package requests w w'' := by
  refine ⟨h'.driver.trans h.driver, h'.package.trans h.package, ?_⟩
  intro index
  rw [h'.requests, h.requests]

section

variable {P : Platform} {present : CPU → Bool} {package : U64} {requests : CPU → U64}
  (hP : StoresRequests P present package requests) {w : World}

include hP

/-! ## Accesses that succeed -/

theorem StoresRequests.readPackage (hsupported : w.driver.hwp.supported = true)
    (hpackage : w.driver.hwp.packageRequestSupported = true) :
    ∃ w', exec (readHWPPackageRequestLocked P) w = (some (packageRequest package w.log), w') ∧
      SameRequests package requests w w' := by
  set w₁ := w.logged (.rdmsr msrHWPEnable (P.rdmsr w.log msrHWPEnable)) with hw₁
  have h₁ : SameRequests package requests w w₁ := sameRequests_read _ _ w trivial
  have henabled : exec (hwpEnabledOnCurrentCPULocked P) w = (true, w₁) := by
    unfold hwpEnabledOnCurrentCPULocked
    rw [exec_bind, exec_getHWP, exec_ite, if_neg (by simp [hsupported])]
    refine Prod.ext ?_ rfl
    show (P.rdmsr w.log msrHWPEnable &&& hwpEnableBit != 0) = true
    simpa using hP.enabled w.log
  refine ⟨w₁.logged (.rdmsr msrHWPPackageRequest (P.rdmsr w₁.log msrHWPPackageRequest)), ?_,
    h₁.trans (sameRequests_read _ _ w₁ trivial)⟩
  unfold readHWPPackageRequestLocked
  rw [exec_bind, exec_getHWP, exec_ite, if_neg (by simp [hpackage]), exec_bind, henabled,
    exec_ite, if_neg (by simp)]
  refine Prod.ext ?_ rfl
  show some (P.rdmsr w₁.log msrHWPPackageRequest) = some (packageRequest package w.log)
  rw [hP.package, h₁.package]

theorem StoresRequests.readPackage_eq {w' : World} {found : Option U64}
    (h : exec (readHWPPackageRequestLocked P) w = (found, w'))
    (hsupported : w.driver.hwp.supported = true)
    (hpackage : w.driver.hwp.packageRequestSupported = true) :
    found = some (packageRequest package w.log) ∧ SameRequests package requests w w' := by
  rcases hP.readPackage hsupported hpackage with ⟨w₁, hread, hsame⟩
  rw [h] at hread
  rcases Prod.mk.inj hread with ⟨rfl, rfl⟩
  exact ⟨rfl, hsame⟩

/-- A write of the package request reads back. -/
theorem StoresRequests.writePackage (hsupported : w.driver.hwp.supported = true)
    (hpackage : w.driver.hwp.packageRequestSupported = true) (value : U64) :
    ∃ w', exec (writeHWPPackageRequestLocked P value) w = (true, w') ∧ w'.driver = w.driver ∧
      packageRequest package w'.log = value ∧
      ∀ index, logicalRequest requests w'.log index = logicalRequest requests w.log index := by
  rcases hP.readPackage hsupported hpackage with ⟨w₁, hread, h₁⟩
  set w₂ := w₁.logged (.wrmsr msrHWPPackageRequest value) with hw₂
  have hdriver : w₂.driver = w.driver := h₁.driver
  have hwritten : packageRequest package w₂.log = value := packageRequest_write ..
  have hkept : ∀ index, logicalRequest requests w₂.log index =
      logicalRequest requests w₁.log index := fun index => logicalRequest_cons _ (by simp) _ _
  rcases hP.readPackage (hdriver ▸ hsupported) (hdriver ▸ hpackage) with ⟨w₃, hback, h₃⟩
  refine ⟨w₃, ?_, h₃.driver.trans hdriver, h₃.package.trans hwritten, ?_⟩
  · unfold writeHWPPackageRequestLocked
    rw [exec_bind, hread, exec_ite, if_neg (by simp), exec_bind]
    change exec _ w₂ = _
    rw [exec_bind, hback, hwritten]
    simp
  · intro index
    rw [h₃.requests, hkept, h₁.requests]

variable (hpresent : ∃ index, present index = true)

include hpresent

theorem StoresRequests.ran (log : List Entry) (operation : HWPRequestOperation) :
    P.hwpRequest log operation ≠ [] := by
  rcases hpresent with ⟨index, hindex⟩
  rcases ((hP.rendezvous log operation).present index).1 hindex with ⟨cpu, hmem, -⟩
  exact List.ne_nil_of_mem hmem

theorem StoresRequests.readRequests (hready : w.driver.hwp.Ready) (out : HWPRequests) :
    ∃ current w', exec (readHWPRequestsLocked P out) w = ((true, current), w') ∧
      SameRequests package requests w w' ∧ current.present = present ∧
      (∀ index, present index = true → current.values index = logicalRequest requests w.log index) ∧
      current.count = (cpusPresent present).length := by
  generalize hread : exec (readHWPRequestsLocked P out) w = r
  rcases r with ⟨⟨ok, current⟩, w'⟩
  rcases readHWPRequestsLocked_cases P hread with ⟨hnot, -, -⟩ | ⟨-, cpus, hcpus, rfl, hok, hall⟩
  · exact absurd hready hnot
  have hrendezvous := hcpus ▸ hP.rendezvous w.log .read
  have hexact : Answered .read present (logicalRequest requests w.log) cpus :=
    hrendezvous.answered .read fun _ _ => trivial
  have htrue : ok = true := hok.2 ⟨hcpus ▸ hP.ran hpresent w.log .read, hexact.allRun⟩
  rcases hall htrue with ⟨hanswered, hcount⟩
  have hcurrent : current.present = present := by
    funext index
    rw [Bool.eq_iff_iff, hanswered.present, hexact.present]
  refine ⟨current, w.logged (.hwpRequest .read cpus), by rw [htrue],
    sameRequests_read _ _ w trivial, hcurrent, ?_, ?_⟩
  · intro index hindex
    rcases (hexact.present index).1 hindex with ⟨cpu, hmem, hnumber⟩
    rw [← hanswered.values cpu hmem index hnumber, hexact.values cpu hmem index hnumber]
  · rw [hcount, hexact.length.1]

/-- A write to the CPUs present reads back. -/
theorem StoresRequests.writeRequests (hready : w.driver.hwp.Ready) (values : CPU → U64) :
    ∃ w', exec (writeHWPRequestsLocked P values present) w = (true, w') ∧
      w'.driver = w.driver ∧ packageRequest package w'.log = packageRequest package w.log ∧
      ∀ index, present index = true → logicalRequest requests w'.log index = values index := by
  generalize hwrite : exec (writeHWPRequestsLocked P values present) w = r
  rcases r with ⟨ok, w'⟩
  rcases writeHWPRequestsLocked_cases P hwrite with ⟨hnot, -, -⟩ | ⟨-, cpus, hcpus, rfl, hok⟩
  · exact absurd hready hnot
  have hrendezvous := hcpus ▸ hP.rendezvous w.log (.write values present)
  have hexact : Answered (.write values present) present values cpus :=
    hrendezvous.answered (.write values present) fun _ hindex => hindex
  have htrue : ok = true := hok.2 ⟨hcpus ▸ hP.ran hpresent w.log (.write values present), hexact⟩
  refine ⟨w.logged (.hwpRequest (.write values present) cpus), by rw [htrue], rfl, ?_, ?_⟩
  · apply packageRequest_cons
    simp
  intro index hindex
  exact logicalRequest_write requests cpus w.driver w.log hindex

/-! ## The override -/

/-- The package request of the override. -/
def hwpMaximumPackageRequest (hwp : HWP) : U64 :=
  if packageMaximumNeeded hwp then
    hwpWithMaximum hwp.capturedPackageRequest (hwpHighest hwp.capabilitiesRaw)
  else hwp.capturedPackageRequest

omit hP hpresent in
theorem maximumOnly_packageRequest (hwp : HWP) :
    MaximumOnly hwp.capturedPackageRequest (hwpMaximumPackageRequest hwp) := by
  unfold hwpMaximumPackageRequest
  split_ifs
  · exact maximumOnly_withMaximum _ _
  · exact maximumOnly_refl _

omit hP hpresent in
/-- A CPU that is not left to the package goes to the highest level by itself. -/
theorem override_local {hwp : HWP} (hnot : hwp.enabledByTurboMac = false) {index : CPU}
    (hindex : hwp.capturedPresent index = true)
    (hlocal : (hwpPackageControl (hwp.capturedRequests index) && !hwp.flexibleRequestFields) = false)
    (packageRequest : U64) :
    hwpEffectiveMaximum (hwpMaximumRequest hwp index) packageRequest hwp.flexibleRequestFields =
        hwpHighest hwp.capabilitiesRaw ∧
      MaximumOnly (hwp.capturedRequests index) (hwpMaximumRequest hwp index) := by
  have hrequest : hwpMaximumRequest hwp index = hwpWithLocalMaximumOverride
      (hwp.capturedRequests index) (hwpHighest hwp.capabilitiesRaw)
        hwp.flexibleRequestFields := by
    simp [hwpMaximumRequest, hindex, hnot, hlocal]
  rw [hrequest]
  exact ⟨hwpEffectiveMaximum_override _ _ (hwpField_lt _ _) hlocal,
    maximumOnly_withLocalMaximumOverride _ _ _⟩

omit hP hpresent in
/-- Under the package request of the override every CPU does. -/
theorem override_request {hwp : HWP} (hnot : hwp.enabledByTurboMac = false) {index : CPU}
    (hindex : hwp.capturedPresent index = true) :
    hwpEffectiveMaximum (hwpMaximumRequest hwp index) (hwpMaximumPackageRequest hwp)
        hwp.flexibleRequestFields = hwpHighest hwp.capabilitiesRaw ∧
      MaximumOnly (hwp.capturedRequests index) (hwpMaximumRequest hwp index) := by
  cases hpackage : hwpPackageControl (hwp.capturedRequests index) && !hwp.flexibleRequestFields with
  | false => exact override_local hnot hindex hpackage _
  | true =>
      have hrequest : hwpMaximumRequest hwp index = hwp.capturedRequests index := by
        simp [hwpMaximumRequest, hindex, hnot, hpackage]
      have hneeded : packageMaximumNeeded hwp = true := by
        rw [packageMaximumNeeded, List.any_eq_true]
        refine ⟨index, ?_, ?_⟩
        · simpa [cpusPresent] using hindex
        · simpa [hnot] using hpackage
      rw [hrequest, hwpMaximumPackageRequest, if_pos hneeded]
      rw [Bool.and_eq_true, Bool.not_eq_true'] at hpackage
      refine ⟨?_, maximumOnly_refl _⟩
      simp [hwpEffectiveMaximum, hpackage.1, hpackage.2,
        hwpMaximum_withMaximum _ (hwpField_lt hwp.capabilitiesRaw 0), hwpHighest]

/-- A capture of the CPUs present, with every request it expects in effect where
the package has one. -/
structure Prepared (present : CPU → Bool) (package : U64) (w : World) : Prop where
  captured : w.driver.hwp.captured = true
  ready : w.driver.hwp.Ready
  capturedPresent : w.driver.hwp.capturedPresent = present
  count : w.driver.logicalCPUCount = BitVec.ofNat 32 (cpusPresent present).length
  register : w.driver.hwp.packageRequestSupported = true →
    packageRequest package w.log = w.driver.hwp.expectedPackageRequest
  effective : ∀ index, present index = true →
    hwpEffectiveMaximum (w.driver.hwp.expectedRequests index) w.driver.hwp.expectedPackageRequest
      w.driver.hwp.flexibleRequestFields = hwpHighest w.driver.hwp.capabilitiesRaw

omit hP hpresent in
theorem Prepared.same {w' : World} (h : Prepared present package w)
    (hdriver : w'.driver = w.driver)
    (hpackage : packageRequest package w'.log = packageRequest package w.log) :
    Prepared present package w' := by
  rcases h with ⟨hcaptured, hready, hpresent, hcount, hregister, heffective⟩
  constructor <;> rw [hdriver] <;> try assumption
  intro hsupported
  rw [hpackage]
  exact hregister hsupported

theorem StoresRequests.verifyRequests (hw : Prepared present package w)
    (hwritten : ∀ index, present index = true →
      logicalRequest requests w.log index = w.driver.hwp.expectedRequests index) :
    ∃ w', exec (verifyHWPRequestsLocked P) w = (true, w') ∧ SameRequests package requests w w' := by
  rcases hP.readRequests hpresent hw.ready .zero with
    ⟨current, w', hread, hsame, hcurrent, hvalues, hcount⟩
  refine ⟨w', ?_, hsame⟩
  unfold verifyHWPRequestsLocked
  rw [exec_bind, exec_getDriver, exec_bind, hread, exec_ite, if_neg]
  · refine Prod.ext ?_ rfl
    show decide _ = true
    rw [decide_eq_true_eq]
    intro index
    rw [hcurrent, hw.capturedPresent]
    refine ⟨rfl, ?_⟩
    intro hindex
    have hvalue := (hvalues index hindex).trans (hwritten index hindex)
    exact ⟨hvalue, hvalue ▸ hw.effective index hindex⟩
  · simp [hcount, hw.count]

theorem StoresRequests.verifyOverride (hw : Prepared present package w)
    (hwritten : ∀ index, present index = true →
      logicalRequest requests w.log index = w.driver.hwp.expectedRequests index)
    (hactive : w.driver.hwp.overrideActive = true)
    (hmode : w.driver.hwp.mode = hwpReleaseMaximum ∨
      w.driver.hwp.mode = hwpBootstrapAndReleaseMaximum) :
    ∃ w', exec (verifyHWPOverrideLocked P) w = (true, w') ∧ SameRequests package requests w w' := by
  have hguard : (!w.driver.hwp.captured || !w.driver.hwp.overrideActive ||
      (w.driver.hwp.mode != hwpReleaseMaximum &&
        w.driver.hwp.mode != hwpBootstrapAndReleaseMaximum)) = false := by
    rcases hmode with hmode | hmode <;> simp [hw.captured, hactive, hmode]
  unfold verifyHWPOverrideLocked
  rw [exec_bind, exec_getHWP, exec_ite, if_neg (by simp [hguard]), exec_ite]
  split_ifs with hpackage
  · rcases hP.readPackage hw.ready.1 hpackage with ⟨w₁, hread, h₁⟩
    have hw₁ := hw.same h₁.driver h₁.package
    have hwritten₁ : ∀ index, present index = true →
        logicalRequest requests w₁.log index = w₁.driver.hwp.expectedRequests index := by
      intro index hindex
      rw [h₁.requests, h₁.driver]
      exact hwritten index hindex
    rcases hP.verifyRequests hpresent hw₁ hwritten₁ with ⟨w₂, hverify, h₂⟩
    refine ⟨w₂, ?_, h₁.trans h₂⟩
    rw [exec_bind, hread, exec_ite, if_neg (by simp [hw.register hpackage])]
    exact hverify
  · exact hP.verifyRequests hpresent hw hwritten

theorem StoresRequests.applyRequests (hw : Prepared present package w) {mode : U32}
    (hmode : mode = hwpReleaseMaximum ∨ mode = hwpBootstrapAndReleaseMaximum) :
    ∃ w', exec (applyHWPRequestsLocked P mode) w = (true, w') ∧
      packageRequest package w'.log = packageRequest package w.log ∧
      ∀ index, present index = true →
        logicalRequest requests w'.log index = w.driver.hwp.expectedRequests index := by
  rcases hP.writeRequests hpresent hw.ready w.driver.hwp.expectedRequests with
    ⟨w₁, hwrite, hdriver, hregister, hwritten⟩
  set w₂ : World := { w₁ with driver := { w₁.driver with hwp := { w₁.driver.hwp with
    mode := mode, overrideActive := true, failSafeActive := false } } } with hw₂
  have hw₁ := hw.same hdriver hregister
  have hprepared : Prepared present package w₂ :=
    ⟨hw₁.captured, hw₁.ready, hw₁.capturedPresent, hw₁.count, hw₁.register, hw₁.effective⟩
  have hwritten₂ : ∀ index, present index = true →
      logicalRequest requests w₂.log index = w₂.driver.hwp.expectedRequests index := by
    intro index hindex
    rw [hwritten index hindex]
    simp [hw₂, hdriver]
  rcases hP.verifyOverride hpresent hprepared hwritten₂ rfl hmode with ⟨w₃, hverify, h₃⟩
  refine ⟨w₃, ?_, h₃.package.trans hregister, ?_⟩
  · unfold applyHWPRequestsLocked
    rw [exec_bind, exec_getHWP, hw.capturedPresent, exec_bind, hwrite, exec_ite, if_neg (by simp), exec_bind]
    exact hverify
  · intro index hindex
    rw [h₃.requests]
    exact hwritten index hindex

omit hpresent in
omit hP in
/-- A package maximum is needed only where package requests are supported. -/
theorem packageMaximumNeeded_supported {hwp : HWP} (hneeded : packageMaximumNeeded hwp = true)
    (hdelegated : ∀ index, hwp.capturedPresent index = true →
      hwpPackageControl (hwp.capturedRequests index) = true → hwp.packageRequestSupported = true) :
    hwp.packageRequestSupported = true := by
  rw [packageMaximumNeeded, List.any_eq_true] at hneeded
  rcases hneeded with ⟨index, hmem, hneeded⟩
  simp only [Bool.and_eq_true] at hneeded
  exact hdelegated index (by simpa [cpusPresent] using hmem) hneeded.1.2

end

/-- A capture of the CPUs present by a TurboMac that has not enabled HWP; where a
request delegates to the package, package requests are supported. -/
structure Overridable (present : CPU → Bool) (package : U64) (w : World) : Prop where
  captured : w.driver.hwp.captured = true
  mode : w.driver.hwp.mode = hwpModeInvalid
  ready : w.driver.hwp.Ready
  enabledByTurboMac : w.driver.hwp.enabledByTurboMac = false
  capturedPresent : w.driver.hwp.capturedPresent = present
  nonempty : ∃ index, present index = true
  count : w.driver.logicalCPUCount = BitVec.ofNat 32 (cpusPresent present).length
  register : w.driver.hwp.packageRequestSupported = true →
    packageRequest package w.log = w.driver.hwp.capturedPackageRequest
  delegated : ∀ index, present index = true →
    hwpPackageControl (w.driver.hwp.capturedRequests index) = true →
      w.driver.hwp.packageRequestSupported = true

/-- From `w` to `w'` every CPU has gone to its highest performance level, and no
request has changed otherwise. -/
structure Overridden (present : CPU → Bool) (package : U64) (requests : CPU → U64) (w w' : World) :
    Prop where
  effective : ∀ index, present index = true →
    hwpEffectiveMaximum (logicalRequest requests w'.log index) (packageRequest package w'.log)
      w.driver.hwp.flexibleRequestFields = hwpHighest w.driver.hwp.capabilitiesRaw
  logical : ∀ index, present index = true →
    MaximumOnly (w.driver.hwp.capturedRequests index) (logicalRequest requests w'.log index)
  packaged : w.driver.hwp.packageRequestSupported = true →
    MaximumOnly w.driver.hwp.capturedPackageRequest (packageRequest package w'.log)
  unsupported : w.driver.hwp.packageRequestSupported = false →
    packageRequest package w'.log = packageRequest package w.log

/-- A world that expects the requests of the override. -/
def expectingMaximum (w : World) : World :=
  { w with driver := { w.driver with hwp := { w.driver.hwp with
    expectedRequests := hwpMaximumRequest w.driver.hwp
    expectedPackageRequest := hwpMaximumPackageRequest w.driver.hwp } } }

section

variable {P : Platform} {present : CPU → Bool} {package : U64} {requests : CPU → U64}
  (hP : StoresRequests P present package requests) {w : World} (hw : Overridable present package w)
  {mode : U32}

include hw

theorem Overridable.effective {index : CPU} (hindex : present index = true) :
    hwpEffectiveMaximum (hwpMaximumRequest w.driver.hwp index)
        (hwpMaximumPackageRequest w.driver.hwp) w.driver.hwp.flexibleRequestFields =
      hwpHighest w.driver.hwp.capabilitiesRaw ∧
      MaximumOnly (w.driver.hwp.capturedRequests index) (hwpMaximumRequest w.driver.hwp index) :=
  override_request hw.enabledByTurboMac (hw.capturedPresent ▸ hindex)

/-- Without package requests no CPU is left to the package. -/
theorem Overridable.effective_local (hnot : w.driver.hwp.packageRequestSupported = false)
    {index : CPU} (hindex : present index = true) (packageRequest : U64) :
    hwpEffectiveMaximum (hwpMaximumRequest w.driver.hwp index) packageRequest
        w.driver.hwp.flexibleRequestFields =
      hwpHighest w.driver.hwp.capabilitiesRaw := by
  have hlocal : hwpPackageControl (w.driver.hwp.capturedRequests index) = false := by
    by_contra hcontrol
    have hcontradiction := hw.delegated index hindex (by simpa using hcontrol)
    rw [hnot] at hcontradiction
    cases hcontradiction
  exact (override_local hw.enabledByTurboMac (hw.capturedPresent ▸ hindex)
    (by rw [hlocal, Bool.false_and]) packageRequest).1

/-- The checks of `applyHWPMaximumLocked` hold, and it goes on with the package request. -/
theorem Overridable.applyMaximum_start (P : Platform)
    (hmode : mode = hwpReleaseMaximum ∨ mode = hwpBootstrapAndReleaseMaximum) :
    exec (applyHWPMaximumLocked P mode) w =
      exec (if packageMaximumNeeded w.driver.hwp then do
        if !(← writeHWPPackageRequestLocked P (hwpMaximumPackageRequest w.driver.hwp)) then
          return false
        applyHWPRequestsLocked P mode
      else applyHWPRequestsLocked P mode) (expectingMaximum w) := by
  have hguard : (!w.driver.hwp.captured || w.driver.hwp.mode != hwpModeInvalid ||
      (mode != hwpReleaseMaximum && mode != hwpBootstrapAndReleaseMaximum)) = false := by
    rcases hmode with hmode | hmode <;> simp [hw.captured, hw.mode, hmode]
  unfold applyHWPMaximumLocked
  rw [exec_bind, exec_getHWP, exec_ite, if_neg (by simp [hguard])]
  rfl

include hP

/-- The package request is written first, where one is needed; then come the CPUs'. -/
theorem StoresRequests.applyPackage
    (hmode : mode = hwpReleaseMaximum ∨ mode = hwpBootstrapAndReleaseMaximum) :
    ∃ w₂, exec (applyHWPMaximumLocked P mode) w = exec (applyHWPRequestsLocked P mode) w₂ ∧
      w₂.driver = (expectingMaximum w).driver ∧
      (w.driver.hwp.packageRequestSupported = true →
        packageRequest package w₂.log = hwpMaximumPackageRequest w.driver.hwp) ∧
      (w.driver.hwp.packageRequestSupported = false →
        packageRequest package w₂.log = packageRequest package w.log) := by
  have hstart := hw.applyMaximum_start P hmode
  cases hneeded : packageMaximumNeeded w.driver.hwp with
  | true =>
      have hsupported : w.driver.hwp.packageRequestSupported = true := by
        apply packageMaximumNeeded_supported hneeded
        intro index hindex
        exact hw.delegated index (hw.capturedPresent ▸ hindex)
      rcases @StoresRequests.writePackage P present package requests hP (expectingMaximum w)
        hw.ready.1 hsupported (hwpMaximumPackageRequest w.driver.hwp) with
        ⟨w₂, hwrite, hdriver, hregister, -⟩
      refine ⟨w₂, ?_, hdriver, fun _ => hregister, ?_⟩
      · rw [hstart, hneeded, exec_ite, if_pos rfl, exec_bind, hwrite, exec_ite, if_neg (by simp)]
      · intro hnot
        rw [hsupported] at hnot
        cases hnot
  | false =>
      refine ⟨expectingMaximum w, ?_, rfl, ?_, fun _ => rfl⟩
      · rw [hstart, hneeded]
        rfl
      · intro hsupported
        rw [hwpMaximumPackageRequest, hneeded]
        exact hw.register hsupported

theorem StoresRequests.applyMaximum
    (hmode : mode = hwpReleaseMaximum ∨ mode = hwpBootstrapAndReleaseMaximum) :
    ∃ w', exec (applyHWPMaximumLocked P mode) w = (true, w') ∧
      Overridden present package requests w w' := by
  rcases hP.applyPackage hw hmode with ⟨w₂, hexec, hdriver, hregister, hkept⟩
  have hprepared : Prepared present package w₂ := by
    constructor <;> rw [hdriver]
    · exact hw.captured
    · exact hw.ready
    · exact hw.capturedPresent
    · exact hw.count
    · exact hregister
    · intro index hindex
      exact (hw.effective hindex).1
  rcases hP.applyRequests hw.nonempty hprepared hmode with ⟨w', happly, hregister', hwritten⟩
  have hwritten' : ∀ index, present index = true →
      logicalRequest requests w'.log index = hwpMaximumRequest w.driver.hwp index := by
    intro index hindex
    rw [hwritten index hindex, hdriver]
    rfl
  refine ⟨w', hexec.trans happly, ?_, ?_, ?_, ?_⟩
  · intro index hindex
    rw [hwritten' index hindex, hregister']
    cases hsupported : w.driver.hwp.packageRequestSupported with
    | true =>
        rw [hregister hsupported]
        exact (hw.effective hindex).1
    | false => exact hw.effective_local hsupported hindex _
  · intro index hindex
    rw [hwritten' index hindex]
    exact (hw.effective hindex).2
  · intro hsupported
    rw [hregister', hregister hsupported]
    exact maximumOnly_packageRequest _
  · intro hsupported
    rw [hregister', hkept hsupported]

end

/-! ## The fail-safe request -/

/-- CPUs with the fail-safe request leave their maximum to be raised. -/
theorem hwpMaximumRestricted_failsafe {hwp : HWP} (hready : hwp.Ready)
    (hlow : hwpLowest hwp.capabilitiesRaw < hwpHighest hwp.capabilitiesRaw)
    (hpresent : ∃ index, hwp.capturedPresent index = true)
    (hrequests : ∀ index, hwp.capturedPresent index = true →
      hwp.capturedRequests index = hwpFailsafeRequest hwp.capabilitiesRaw hwp.eppSupported) :
    hwpMaximumRestricted hwp = true := by
  have heach : (cpusPresent hwp.capturedPresent).all (fun index =>
      let effective := hwpEffectiveMaximum (hwp.capturedRequests index)
        hwp.capturedPackageRequest hwp.flexibleRequestFields
      decide (hwpLowest hwp.capabilitiesRaw ≤ effective ∧
        effective < hwpHighest hwp.capabilitiesRaw)) = true := by
    rw [List.all_eq_true]
    intro index hmem
    have hindex : hwp.capturedPresent index = true := by simpa [cpusPresent] using hmem
    dsimp only
    rw [hrequests index hindex, hwpEffectiveMaximum_failsafe, decide_eq_true_eq]
    exact ⟨hwpLowest_le_failsafe _ _, hwpMaximum_failsafe hlow _⟩
  have hsome : cpusPresent hwp.capturedPresent ≠ [] := by
    rcases hpresent with ⟨index, hindex⟩
    have hmem : index ∈ cpusPresent hwp.capturedPresent := by simpa [cpusPresent] using hindex
    exact List.ne_nil_of_mem hmem
  rw [hwpMaximumRestricted, heach, hready.1, hready.2, decide_eq_true hsome]
  rfl

/-! ## Captures -/

section

variable {P : Platform} {present : CPU → Bool} {package : U64} {requests : CPU → U64}
  (hP : StoresRequests P present package requests) {w w' : World}

theorem readHWPEnableStateLocked_supported {allEnabled : Bool}
    (h : exec (readHWPEnableStateLocked P) w = ((true, allEnabled), w')) :
    w'.driver.hwp.supported = true := by
  unfold readHWPEnableStateLocked at h
  rw [exec_bind, exec_getHWP] at h
  rcases exec_ite_cases h with ⟨-, h⟩ | ⟨hsupported, h⟩
  · exact absurd (Prod.mk.inj h).1 (by simp)
  rw [Bool.not_eq_true', Bool.not_eq_false] at hsupported
  have hstart : (exec (rendezvousHWPEnable P) w).2.driver = w.driver := rfl
  rw [exec_bind] at h
  generalize exec (rendezvousHWPEnable P) w = r at h hstart
  rcases r with ⟨broadcast, w₁⟩
  dsimp only at h hstart
  rcases exec_ite_cases h with ⟨-, h⟩ | ⟨-, h⟩
  · exact absurd (Prod.mk.inj h).1 (by simp)
  rw [exec_bind, exec_assignHWP] at h
  rcases exec_ite_cases h with ⟨-, h⟩ | ⟨-, h⟩
  · exact absurd (Prod.mk.inj h).1 (by simp)
  rw [exec_bind, exec_assign] at h
  rcases Prod.mk.inj h with ⟨-, rfl⟩
  dsimp only
  rw [hstart]
  exact hsupported

/-- The copy of a capture stops at a CPU that needs an unsupported package request. -/
theorem copyCapturedRequests_cases (hwp : HWP) :
    (copyCapturedRequests hwp).1 = true →
      copyCapturedRequests hwp = (true, { hwp with expectedRequests := hwp.capturedRequests }) ∧
      ∀ index, hwp.capturedPresent index = true →
        hwpPackageControl (hwp.capturedRequests index) = true →
          hwp.packageRequestSupported = true := by
  intro hcopied
  unfold copyCapturedRequests at hcopied ⊢
  dsimp only at hcopied ⊢
  generalize hfind : ((cpusPresent hwp.capturedPresent).find? fun index =>
    hwpPackageControl (hwp.capturedRequests index) && !hwp.packageRequestSupported) = found
      at hcopied ⊢
  cases found with
  | some last => cases hcopied
  | none =>
      refine ⟨rfl, ?_⟩
      intro index hindex hcontrol
      have hnone := List.find?_eq_none.1 hfind index (by simpa [cpusPresent] using hindex)
      simpa [hcontrol] using hnone

/-- The end of a capture. -/
theorem captureHWPStateLocked_finish {count : ℕ}
    (h : exec (captureHWPStateLocked.finish count) w = (true, w'))
    (hready : w.driver.hwp.Ready) (hpresent : w.driver.hwp.capturedPresent = present)
    (hcount : count = (cpusPresent present).length)
    (hregister : w.driver.hwp.packageRequestSupported = true →
      packageRequest package w.log = w.driver.hwp.capturedPackageRequest)
    (hnonempty : ∃ index, present index = true)
    (hnot : w'.driver.hwp.enabledByTurboMac = false) : Overridable present package w' := by
  unfold captureHWPStateLocked.finish at h
  rw [exec_bind, exec_getHWP] at h
  dsimp only at h
  rw [exec_bind, exec_assignHWP] at h
  rcases exec_ite_cases h with ⟨-, h⟩ | ⟨hcopied, h⟩
  · exact absurd (Prod.mk.inj h).1 (by simp)
  rw [Bool.not_eq_true', Bool.not_eq_false] at hcopied
  rcases copyCapturedRequests_cases _ hcopied with ⟨hcopy, hdelegated⟩
  rw [hcopy] at h
  rcases Prod.mk.inj h with ⟨-, rfl⟩
  refine ⟨rfl, rfl, hready, hnot, hpresent, hnonempty, ?_, hregister, ?_⟩
  · show BitVec.ofNat 32 count = _
    rw [hcount]
  · intro index hindex
    exact hdelegated index (hpresent ▸ hindex)

include hP

/-- What `captureHWPStateLocked` leaves on such hardware can be overridden. -/
theorem captureHWPStateLocked_overridable
    (h : exec (captureHWPStateLocked P) w = (true, w'))
    (hnot : w'.driver.hwp.enabledByTurboMac = false) : Overridable present package w' := by
  unfold captureHWPStateLocked at h
  rw [exec_bind] at h
  generalize henable : exec (readHWPEnableStateLocked P) w = r at h
  rcases r with ⟨⟨ok, allEnabled⟩, w₁⟩
  dsimp only at h
  rcases exec_ite_cases h with ⟨-, h⟩ | ⟨hok, h⟩
  · rw [exec_bind] at h
    exact absurd (Prod.mk.inj h).1 (by simp)
  have htrue : ok = true := by
    cases ok
    · simp at hok
    · rfl
  rw [htrue] at henable
  have hsupported := readHWPEnableStateLocked_supported henable
  -- the capabilities
  rw [exec_bind, exec_assignHWP, exec_bind] at h
  generalize hcapabilities : exec (rdmsr64 P msrHWPCapabilities) _ = r at h
  rcases r with ⟨capabilities, w₂⟩
  have hdriver₂ : w₂.driver = { w₁.driver with hwp := { w₁.driver.hwp with enabled := true } } := by
    rw [← (Prod.mk.inj hcapabilities).2]
    rfl
  dsimp only at h
  rw [exec_bind, exec_assignHWP] at h
  rcases exec_ite_cases h with ⟨-, h⟩ | ⟨-, h⟩
  · exact absurd (Prod.mk.inj h).1 (by simp)
  -- the requests of all CPUs; a capture that succeeds has an answer of each
  rw [exec_bind, exec_getHWP, exec_bind] at h
  dsimp only at h
  generalize hread : exec (readHWPRequestsLocked P _) _ = r at h
  rcases r with ⟨⟨allRead, current⟩, w₃⟩
  rcases readHWPRequestsLocked_cases P hread with ⟨-, rfl, -⟩ | ⟨hready, cpus, hcpus, rfl, hran, hall⟩
  · rw [exec_bind, exec_assignHWP] at h
    exact absurd (Prod.mk.inj h).1 (by simp)
  dsimp only at h
  rw [exec_bind, exec_assignHWP] at h
  rcases exec_ite_cases h with ⟨-, hrun⟩ | ⟨hallRead, hrun⟩
  · exact absurd (Prod.mk.inj hrun).1 (by simp)
  rw [Bool.not_eq_true', Bool.not_eq_false] at hallRead
  have hrendezvous := hcpus ▸ hP.rendezvous _ .read
  rcases hall hallRead with ⟨hanswered, hcount⟩
  have hcurrent : current.present = present := by
    funext index
    rw [Bool.eq_iff_iff, hanswered.present, hrendezvous.present]
  have hnonempty : ∃ index, present index = true := by
    rcases List.exists_mem_of_ne_nil _ (hran.1 hallRead).1 with ⟨cpu, hmem⟩
    rcases hrendezvous.numbered cpu hmem with ⟨index, hnumber⟩
    exact ⟨index, (hrendezvous.present index).2 ⟨cpu, hmem, hnumber⟩⟩
  have hlength : current.count = (cpusPresent present).length := by
    rw [hcount, ← hanswered.length.1, hcurrent]
  -- the package request, where there is one
  rw [exec_bind, exec_assignHWP] at hrun
  rcases exec_ite_cases hrun with ⟨hpackage, hrest⟩ | ⟨hpackage, hrest⟩
  · rw [exec_bind] at hrest
    generalize hpackageRead : exec (readHWPPackageRequestLocked P) _ = r at hrest
    rcases r with ⟨found, w₅⟩
    rcases hP.readPackage_eq hpackageRead hready.1 hpackage with ⟨rfl, hsame⟩
    dsimp only at hrest
    rw [exec_bind, exec_assignHWP] at hrest
    have hdriver := hsame.driver
    refine captureHWPStateLocked_finish hrest ?_ ?_ hlength ?_ hnonempty hnot
    · dsimp only
      rw [hdriver]
      exact hready
    · dsimp only
      rw [hdriver]
      exact hcurrent
    · intro _
      exact hsame.package
  · refine captureHWPStateLocked_finish hrest hready hcurrent hlength ?_ hnonempty hnot
    intro hsupported
    exact absurd hsupported hpackage

end

/-- Over any capture on such hardware the override succeeds, takes every CPU to its
highest level and changes nothing but maxima; and after a fail-safe write, whatever
the package request, there is a maximum to raise again. -/
theorem hwp_override :
    (∀ (P : Platform) (present : CPU → Bool) (package : U64) (requests : CPU → U64) (w : World)
        (mode : U32), StoresRequests P present package requests → Overridable present package w →
      mode = hwpReleaseMaximum ∨ mode = hwpBootstrapAndReleaseMaximum →
      ∃ w', exec (applyHWPMaximumLocked P mode) w = (true, w') ∧
        Overridden present package requests w w') ∧
    ∀ hwp : HWP, hwp.Ready → hwpLowest hwp.capabilitiesRaw < hwpHighest hwp.capabilitiesRaw →
      (∃ index, hwp.capturedPresent index = true) →
      (∀ index, hwp.capturedPresent index = true →
        hwp.capturedRequests index = hwpFailsafeRequest hwp.capabilitiesRaw hwp.eppSupported) →
      hwpMaximumRestricted hwp = true := by
  constructor
  · intro P present package requests w mode hP hw hmode
    exact hP.applyMaximum hw hmode
  · intro hwp hready hlow hpresent hrequests
    exact hwpMaximumRestricted_failsafe hready hlow hpresent hrequests

/-! ## Such hardware -/

/-- CPUs with levels 8 to 48 that store what they are sent. -/
def storing (present : CPU → Bool) (package : U64) (requests : CPU → U64) : Platform where
  rdmsr log msr :=
    if msr = msrHWPPackageRequest then packageRequest package log
    else if msr = msrHWPEnable then 1
    else if msr = msrHWPCapabilities then 0x08102430
    else 0
  powerControl _ _ := (cpusPresent present).map fun _ => ⟨1, id⟩
  hwpEnable _ := (cpusPresent present).map fun index => ⟨index.val, 1⟩
  hwpRequest log _ := (cpusPresent present).map fun index =>
    ⟨index.val, 1, logicalRequest requests log index, id⟩
  cpuid _ leaf := if leaf = 0 then 22 else 0x27f7
  machAbsoluteTime _ := 0
  absolutetimeToNanoseconds ticks := ticks

theorem storesRequests_storing (present : CPU → Bool) (package : U64) (requests : CPU → U64) :
    StoresRequests (storing present package requests) present package requests := by
  refine ⟨fun _ => ?_, fun _ => rfl, ?_⟩
  · show (1 : U64) &&& hwpEnableBit ≠ 0
    decide
  intro log operation
  -- each CPU present answers once, with what was written last
  have hmem : ∀ cpu ∈ (storing present package requests).hwpRequest log operation,
      ∃ index, present index = true ∧
        cpu = ⟨index.val, 1, logicalRequest requests log index, id⟩ := by
    intro cpu hcpu
    rcases List.mem_map.1 hcpu with ⟨index, hindex, rfl⟩
    exact ⟨index, by simpa [cpusPresent] using hindex, rfl⟩
  constructor
  · intro index
    constructor
    · intro hindex
      exact ⟨_, List.mem_map.2 ⟨index, by simpa [cpusPresent] using hindex, rfl⟩, rfl⟩
    · rintro ⟨cpu, hcpu, hnumber⟩
      rcases hmem cpu hcpu with ⟨other, hother, rfl⟩
      rw [← Fin.ext (Int.ofNat.inj hnumber)]
      exact hother
  · intro cpu hcpu
    rcases hmem cpu hcpu with ⟨index, -, rfl⟩
    exact ⟨index, rfl⟩
  · refine List.pairwise_map.2 ?_
    refine ((List.nodup_finRange maximumLogicalCPUs).filter _).imp ?_
    intro index other hne heq
    exact hne (Fin.ext (Int.ofNat.inj heq))
  · intro cpu hcpu
    rcases hmem cpu hcpu with ⟨index, -, rfl⟩
    show (1 : U64) &&& hwpEnableBit ≠ 0
    decide
  · intro cpu hcpu index hnumber
    rcases hmem cpu hcpu with ⟨other, -, rfl⟩
    rw [← Fin.ext (Int.ofNat.inj hnumber)]
  · intro cpu hcpu value
    rcases hmem cpu hcpu with ⟨index, -, rfl⟩
    rfl

/-- Two CPUs, the second of which leaves its maximum to the package. -/
def mixedRequests (index : CPU) : U64 := if index = 1 then 0x40080001808 else 0x80001808

/-- HWP with package requests and without flexible fields. -/
def mixedHWP : HWP := { initialHWP with supported := true, packageRequestSupported := true }

/-- The capture of both, its override, and their fail-safe requests. -/
theorem hwp_override_mixed :
    let present : CPU → Bool := fun index => index.val < 2
    let P := storing present 0x1408 mixedRequests
    let w := (exec (captureHWPStateLocked P) ⟨{ initialDriver with hwp := mixedHWP }, []⟩).2
    (∃ w', exec (applyHWPMaximumLocked P hwpReleaseMaximum) w = (true, w') ∧
      Overridden present 0x1408 mixedRequests w w') ∧
    hwpMaximumRestricted { mixedHWP with
      enabled := true
      capabilitiesRaw := 0x08102430
      capturedPresent := present
      capturedRequests := fun _ => hwpFailsafeRequest 0x08102430 false } = true := by
  intro present P w
  have htrue : (exec (captureHWPStateLocked P) ⟨{ initialDriver with hwp := mixedHWP }, []⟩).1 =
      true := by
    decide +kernel
  have hcaptured : exec (captureHWPStateLocked P) ⟨{ initialDriver with hwp := mixedHWP }, []⟩ =
      (true, w) := by
    rw [← htrue]
  have hP := storesRequests_storing present 0x1408 mixedRequests
  constructor
  · exact hwp_override.1 P present 0x1408 mixedRequests w hwpReleaseMaximum hP
      (captureHWPStateLocked_overridable hP hcaptured (by decide +kernel)) (.inl rfl)
  · refine hwp_override.2 _ ⟨rfl, rfl⟩ ?_ ⟨0, rfl⟩ fun _ _ => rfl
    decide

end TurboMac.Kext
