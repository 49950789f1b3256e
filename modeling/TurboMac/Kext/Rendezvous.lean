import TurboMac.Kext.Driver

/-! # What a rendezvous says about the CPUs

A broadcast that passes the driver's checks has an entry for every CPU that ran
the callback, so what the driver reads off its arrays holds of every CPU.
-/

namespace TurboMac.Kext

/-! ## The guard -/

/-- Some CPU ran the operation, and on each that did the guard bit of the answer
is `enabled`. -/
def GuardReads (operation : PowerControlOperation) (cpus : List PowerControlCPU)
    (enabled : Bool) : Prop :=
  cpus ≠ [] ∧ ∀ cpu ∈ cpus, (cpu.answer operation &&& enableBidirProchot != 0) = enabled

/-- What one callback does: it counts, and leaves its answer where there is room. -/
theorem powerControlOnCPU_spec (b : PowerControlBroadcast) (cpu : PowerControlCPU) :
    (powerControlOnCPU b cpu).count = b.count + 1 ∧
    (powerControlOnCPU b cpu).operation = b.operation ∧
    ∀ index : CPU, (powerControlOnCPU b cpu).values index =
      if index.val = b.count then cpu.answer b.operation else b.values index := by
  by_cases hroom : b.count < maximumLogicalCPUs
  · refine ⟨by simp [powerControlOnCPU, hroom], by simp [powerControlOnCPU, hroom], ?_⟩
    intro index
    simp only [powerControlOnCPU, hroom, dif_pos, Function.update_apply, Fin.ext_iff]
  · refine ⟨by simp [powerControlOnCPU, hroom], by simp [powerControlOnCPU, hroom], ?_⟩
    intro index
    have hne : index.val ≠ b.count := by
      have hindex := index.isLt
      omega
    simp [powerControlOnCPU, hroom, hne]

/-- After the callbacks the answers stand in the array, in their order. -/
theorem foldl_powerControlOnCPU (cpus : List PowerControlCPU) :
    ∀ b : PowerControlBroadcast, ∀ b', b' = cpus.foldl powerControlOnCPU b →
      b'.count = b.count + cpus.length ∧
      (∀ index : CPU, index.val < b.count → b'.values index = b.values index) ∧
      ∀ (k : ℕ) (hk : k < cpus.length) (index : CPU), index.val = b.count + k →
        b'.values index = (cpus[k]).answer b.operation := by
  induction cpus with
  | nil =>
      rintro b b' rfl
      refine ⟨rfl, fun _ _ => rfl, ?_⟩
      intro k hk
      simp at hk
  | cons cpu cpus ih =>
      intro b b' hb'
      obtain ⟨hcount, hkept, hanswers⟩ := ih (powerControlOnCPU b cpu) b' hb'
      obtain ⟨hnext, hoperation, hvalues⟩ := powerControlOnCPU_spec b cpu
      refine ⟨by rw [hcount, hnext, List.length_cons]; omega, ?_, ?_⟩
      · intro index hindex
        rw [hkept index (by omega), hvalues, if_neg (by omega)]
      · intro k hk index hindex
        cases k with
        | zero =>
            rw [hkept index (by omega), hvalues, if_pos (by omega)]
            rfl
        | succ k =>
            rw [hanswers k (by simpa using hk) index (by omega), hoperation]
            rfl

/-- Nothing overflows as long as there is room. -/
theorem foldl_powerControlOnCPU_overflow (cpus : List PowerControlCPU) :
    ∀ b : PowerControlBroadcast, ∀ b', b' = cpus.foldl powerControlOnCPU b →
      b.count + cpus.length ≤ maximumLogicalCPUs → b'.overflow = b.overflow := by
  induction cpus with
  | nil =>
      rintro b b' rfl _
      rfl
  | cons cpu cpus ih =>
      intro b b' hb' hlength
      rw [List.length_cons] at hlength
      have hroom : b.count < maximumLogicalCPUs := by omega
      rw [ih (powerControlOnCPU b cpu) b' hb']
      · simp [powerControlOnCPU, hroom]
      · rw [(powerControlOnCPU_spec b cpu).1]
        omega

/-- What the driver's checks of a power-control broadcast mean. -/
theorem guardReads_of_all {operation : PowerControlOperation} {cpus : List PowerControlCPU}
    {b : PowerControlBroadcast}
    (hb : b = cpus.foldl powerControlOnCPU ⟨0, 0, operation, fun _ => 0⟩)
    (hcomplete : b.complete = true) {enabled : Bool} (hall : b.all enabled = true) :
    GuardReads operation cpus enabled ∧ cpus.length ≤ maximumLogicalCPUs := by
  obtain ⟨hcount, -, hanswers⟩ := foldl_powerControlOnCPU cpus _ b hb
  simp only [Nat.zero_add] at hcount hanswers
  simp only [PowerControlBroadcast.complete, decide_eq_true_eq] at hcomplete
  simp only [PowerControlBroadcast.all, decide_eq_true_eq] at hall
  refine ⟨⟨?_, ?_⟩, by omega⟩
  · rintro rfl
    simp only [List.length_nil] at hcount
    omega
  · intro cpu hcpu
    obtain ⟨k, hk, rfl⟩ := List.getElem_of_mem hcpu
    have hlt : k < maximumLogicalCPUs := by omega
    have hanswer := hanswers k hk ⟨k, hlt⟩ rfl
    rw [← hanswer]
    exact hall ⟨k, hlt⟩ (by simp only; omega)

/-- They are exact, as long as the array has a place for each CPU. -/
theorem all_of_guardReads {operation : PowerControlOperation} {cpus : List PowerControlCPU}
    {b : PowerControlBroadcast}
    (hb : b = cpus.foldl powerControlOnCPU ⟨0, 0, operation, fun _ => 0⟩) {enabled : Bool}
    (h : GuardReads operation cpus enabled) (hlength : cpus.length ≤ maximumLogicalCPUs) :
    b.complete = true ∧ b.all enabled = true := by
  rcases foldl_powerControlOnCPU cpus _ b hb with ⟨hcount, -, hanswers⟩
  simp only [Nat.zero_add] at hcount hanswers
  have hoverflow := foldl_powerControlOnCPU_overflow cpus _ b hb
  have hpos : 0 < cpus.length := List.length_pos_iff.2 h.1
  constructor
  · rw [PowerControlBroadcast.complete, decide_eq_true_eq]
    simp only [Nat.zero_add] at hoverflow
    exact ⟨hoverflow hlength, by omega, by omega⟩
  · rw [PowerControlBroadcast.all, decide_eq_true_eq]
    intro index hindex
    have hk : index.val < cpus.length := by omega
    rw [hanswers index.val hk index rfl]
    exact h.2 _ (List.getElem_mem hk)

/-! ## HWP requests -/

/-- The CPUs that ran have different numbers, and each read the request that
`requests` has for its number; no other number is `present`. -/
structure RequestsRead (cpus : List HWPRequestCPU) (requests : CPU → U64) (present : CPU → Bool) :
    Prop where
  each : ∀ cpu ∈ cpus, ∃ index : CPU, cpu.number = index.val ∧ present index = true ∧
    cpu.request = requests index
  present : ∀ index : CPU, present index = true → ∃ cpu ∈ cpus, cpu.number = index.val

theorem freeIndex_eq_some {present : CPU → Bool} {number : ℤ} {index : CPU}
    (h : freeIndex present number = some index) :
    number = index.val ∧ present index = false := by
  by_cases hnumber : 0 ≤ number ∧ number < maximumLogicalCPUs
  · simp only [freeIndex, hnumber, and_self, dite_true] at h
    split at h
    · exact absurd h (by simp)
    · rename_i hpresent
      obtain rfl := Option.some.inj h
      refine ⟨?_, by simpa using hpresent⟩
      show number = (number.toNat : ℤ)
      omega
  · rw [freeIndex, dif_neg hnumber] at h
    exact absurd h (by simp)

/-- A number in range whose place is free has that place. -/
theorem freeIndex_of_free {present : CPU → Bool} {index : CPU} (h : present index = false) :
    freeIndex present index.val = some index := by
  have hrange : (0 : ℤ) ≤ index.val ∧ (index.val : ℤ) < maximumLogicalCPUs := by
    have hlt := index.isLt
    omega
  simp [freeIndex, hrange, h]

/-- A write has a target for the CPU. -/
def HWPRequestOperation.Targets : HWPRequestOperation → CPU → Prop
  | .read, _ => True
  | .write _ targetPresent, index => targetPresent index = true

/-- The value the CPU leaves in the broadcast. -/
def HWPRequestCPU.answer (cpu : HWPRequestCPU) : HWPRequestOperation → CPU → U64
  | .read, _ => cpu.request
  | .write targets _, index => cpu.readback (targets index)

/-- The CPU has that number, HWP enabled, and a target if it is to write. -/
structure HWPRequestCPU.Runs (cpu : HWPRequestCPU) (operation : HWPRequestOperation)
    (index : CPU) : Prop where
  number : cpu.number = index.val
  enable : cpu.enable &&& hwpEnableBit ≠ 0
  target : operation.Targets index

/-- The broadcast after a callback that ran. -/
def HWPRequestBroadcast.add (b : HWPRequestBroadcast) (cpu : HWPRequestCPU) (index : CPU) :
    HWPRequestBroadcast :=
  { b with
    count := b.count + 1
    values := Function.update b.values index (cpu.answer b.operation index)
    present := Function.update b.present index true }

/-- A callback runs on a CPU that has not run yet, or overflows. -/
theorem hwpRequestOnCPU_cases (b : HWPRequestBroadcast) (cpu : HWPRequestCPU) :
    (∃ index, cpu.Runs b.operation index ∧ b.present index = false ∧
      hwpRequestOnCPU b cpu = b.add cpu index) ∨
    ((∀ index, cpu.Runs b.operation index → b.present index = true) ∧
      hwpRequestOnCPU b cpu = { b with count := b.count + 1, overflow := b.overflow + 1 }) := by
  unfold hwpRequestOnCPU
  dsimp only
  cases hfree : freeIndex b.present cpu.number with
  | none =>
      right
      refine ⟨?_, rfl⟩
      intro index hruns
      by_contra hpresent
      rw [hruns.number, freeIndex_of_free (by simpa using hpresent)] at hfree
      cases hfree
  | some index =>
      rcases freeIndex_eq_some hfree with ⟨hnumber, hpresent⟩
      -- the only number it can run under
      have honly : ∀ other, cpu.Runs b.operation other → other = index := by
        intro other hruns
        apply Fin.ext
        have heq := hruns.number.symm.trans hnumber
        omega
      cases hoperation : b.operation with
      | read =>
          dsimp only
          split_ifs with henable
          · right
            refine ⟨?_, rfl⟩
            intro other hruns
            exact absurd henable hruns.enable
          · left
            refine ⟨index, ⟨hnumber, henable, trivial⟩, hpresent, ?_⟩
            simp [HWPRequestBroadcast.add, hoperation, HWPRequestCPU.answer]
      | write targets targetPresent =>
          dsimp only
          split_ifs with htarget henable
          · right
            refine ⟨?_, rfl⟩
            intro other hruns
            rw [hoperation] at honly
            have ht := hruns.target
            rw [honly other hruns] at ht
            simp [HWPRequestOperation.Targets, htarget] at ht
          · right
            refine ⟨?_, rfl⟩
            intro other hruns
            exact absurd henable hruns.enable
          · left
            refine ⟨index, ⟨hnumber, henable, by simpa [HWPRequestOperation.Targets] using htarget⟩,
              hpresent, ?_⟩
            simp [HWPRequestBroadcast.add, hoperation, HWPRequestCPU.answer]

/-- The callbacks all ran, one after the other. -/
inductive Ran : HWPRequestBroadcast → List HWPRequestCPU → HWPRequestBroadcast → Prop
  | nil (b : HWPRequestBroadcast) : Ran b [] b
  | cons {b b' : HWPRequestBroadcast} {cpu : HWPRequestCPU} {cpus : List HWPRequestCPU}
      {index : CPU} (runs : cpu.Runs b.operation index) (free : b.present index = false)
      (rest : Ran (b.add cpu index) cpus b') : Ran b (cpu :: cpus) b'

theorem foldl_overflow_le (cpus : List HWPRequestCPU) :
    ∀ b : HWPRequestBroadcast, b.overflow ≤ (cpus.foldl hwpRequestOnCPU b).overflow := by
  induction cpus with
  | nil =>
      intro b
      exact le_refl _
  | cons cpu cpus ih =>
      intro b
      refine le_trans ?_ (ih (hwpRequestOnCPU b cpu))
      rcases hwpRequestOnCPU_cases b cpu with ⟨index, -, -, h⟩ | ⟨-, h⟩
      · rw [h]
        exact le_refl _
      · rw [h]
        exact Nat.le_succ _

/-- Without overflow they all ran. -/
theorem ran_of_overflow (cpus : List HWPRequestCPU) :
    ∀ b : HWPRequestBroadcast, (cpus.foldl hwpRequestOnCPU b).overflow = b.overflow →
      Ran b cpus (cpus.foldl hwpRequestOnCPU b) := by
  induction cpus with
  | nil =>
      intro b _
      exact .nil b
  | cons cpu cpus ih =>
      intro b hoverflow
      rw [List.foldl_cons] at hoverflow ⊢
      rcases hwpRequestOnCPU_cases b cpu with ⟨index, hruns, hfree, h⟩ | ⟨-, h⟩
      · rw [h] at hoverflow ⊢
        exact .cons hruns hfree (ih _ hoverflow)
      · have hle := foldl_overflow_le cpus (hwpRequestOnCPU b cpu)
        rw [hoverflow, h] at hle
        exact absurd hle (Nat.not_succ_le_self _)

/-- CPUs with numbers of their own, each of which runs. -/
structure AllRun (operation : HWPRequestOperation) (cpus : List HWPRequestCPU) : Prop where
  each : ∀ cpu ∈ cpus, ∃ index, cpu.Runs operation index
  distinct : cpus.Pairwise fun cpu cpu' => cpu.number ≠ cpu'.number

/-- They do so without overflow. -/
theorem overflow_of_allRun {operation : HWPRequestOperation} (cpus : List HWPRequestCPU) :
    ∀ b : HWPRequestBroadcast, b.operation = operation → AllRun operation cpus →
      (∀ index, b.present index = true → ∀ cpu ∈ cpus, cpu.number ≠ index.val) →
      (cpus.foldl hwpRequestOnCPU b).overflow = b.overflow := by
  induction cpus with
  | nil =>
      intro b _ _ _
      rfl
  | cons cpu cpus ih =>
      intro b hb hall hfree
      rcases hall.each cpu List.mem_cons_self with ⟨index, hruns⟩
      rcases List.pairwise_cons.1 hall.distinct with ⟨hother, hdistinct⟩
      rcases hwpRequestOnCPU_cases b cpu with ⟨index', hruns', -, h⟩ | ⟨hnone, -⟩
      · rw [List.foldl_cons, h]
        refine ih (b.add cpu index') hb ⟨?_, hdistinct⟩ ?_
        · intro cpu' hmem
          exact hall.each cpu' (List.mem_cons_of_mem _ hmem)
        · intro other hpresent cpu' hmem
          by_cases heq : other = index'
          · rw [heq, ← hruns'.number]
            exact (hother cpu' hmem).symm
          · simp only [HWPRequestBroadcast.add, Function.update_of_ne heq] at hpresent
            exact hfree other hpresent cpu' (List.mem_cons_of_mem _ hmem)
      · have hpresent := hnone index (hb.symm ▸ hruns)
        exact absurd hruns.number (hfree index hpresent cpu List.mem_cons_self)

/-- One more CPU is present. -/
theorem length_cpusPresent_update {present : CPU → Bool} {index : CPU}
    (h : present index = false) :
    (cpusPresent (Function.update present index true)).length =
      (cpusPresent present).length + 1 := by
  have hcard : ∀ p : CPU → Bool, (cpusPresent p).length = (Finset.univ.filter (p · = true)).card := by
    intro p
    rw [cpusPresent, ← List.toFinset_card_of_nodup ((List.nodup_finRange _).filter _)]
    congr 1
    ext i
    simp
  have hinsert : Finset.univ.filter (Function.update present index true · = true) =
      insert index (Finset.univ.filter (present · = true)) := by
    ext i
    by_cases hi : i = index
    · simp [hi]
    · simp [hi]
  rw [hcard, hcard, hinsert, Finset.card_insert_of_notMem (by simp [h])]

/-- What the arrays say after callbacks that all ran. -/
structure Broadcasted (b : HWPRequestBroadcast) (cpus : List HWPRequestCPU)
    (b' : HWPRequestBroadcast) : Prop where
  allRun : AllRun b.operation cpus
  fresh : ∀ cpu ∈ cpus, ∀ index : CPU, cpu.number = index.val → b.present index = false
  count : b'.count = b.count + cpus.length
  length : (cpusPresent b'.present).length = (cpusPresent b.present).length + cpus.length
  present : ∀ index, b'.present index = true ↔
    b.present index = true ∨ ∃ cpu ∈ cpus, cpu.number = index.val
  kept : ∀ index, b.present index = true → b'.values index = b.values index
  values : ∀ cpu ∈ cpus, ∀ index : CPU, cpu.number = index.val →
    b'.values index = cpu.answer b.operation index

theorem Ran.broadcasted {b b' : HWPRequestBroadcast} {cpus : List HWPRequestCPU}
    (h : Ran b cpus b') : Broadcasted b cpus b' := by
  induction h with
  | nil b => constructor <;> simp [AllRun.mk]
  | @cons b b' cpu cpus index runs free rest ih =>
      -- the numbers of the others are not this one's
      have hother : ∀ cpu' ∈ cpus, cpu'.number ≠ index.val := by
        intro cpu' hmem heq
        have hfresh := ih.fresh cpu' hmem index heq
        simp [HWPRequestBroadcast.add] at hfresh
      have hindex : ∀ other : CPU, cpu.number = other.val → other = index := by
        intro other hnumber
        apply Fin.ext
        have heq := runs.number.symm.trans hnumber
        omega
      have hadded : ∀ other, (b.add cpu index).present other = true ↔
          b.present other = true ∨ cpu.number = other.val := by
        intro other
        by_cases heq : other = index
        · simp [HWPRequestBroadcast.add, heq, runs.number]
        · have hne : cpu.number ≠ other.val := fun h => heq (hindex other h)
          simp [HWPRequestBroadcast.add, heq, hne]
      constructor
      · refine ⟨?_, ?_⟩
        · intro cpu' hmem
          rcases List.mem_cons.1 hmem with rfl | hmem
          · exact ⟨index, runs⟩
          · exact ih.allRun.each cpu' hmem
        · refine List.pairwise_cons.2 ⟨?_, ih.allRun.distinct⟩
          intro cpu' hmem
          rw [runs.number]
          exact (hother cpu' hmem).symm
      · intro cpu' hmem other hnumber
        rcases List.mem_cons.1 hmem with rfl | hmem
        · rw [hindex other hnumber]
          exact free
        · by_contra hpresent
          have hfresh := ih.fresh cpu' hmem other hnumber
          have hstill := (hadded other).2 (Or.inl (by simpa using hpresent))
          rw [hfresh] at hstill
          cases hstill
      · rw [ih.count, List.length_cons]
        simp only [HWPRequestBroadcast.add]
        omega
      · rw [ih.length, List.length_cons]
        simp only [HWPRequestBroadcast.add, length_cpusPresent_update free]
        omega
      · intro other
        rw [ih.present, hadded, or_assoc]
        simp
      · intro other hpresent
        have hne : other ≠ index := by
          rintro rfl
          rw [free] at hpresent
          cases hpresent
        rw [ih.kept other ((hadded other).2 (Or.inl hpresent))]
        exact Function.update_of_ne hne _ _
      · intro cpu' hmem other hnumber
        rcases List.mem_cons.1 hmem with rfl | hmem
        · rw [ih.kept other ((hadded other).2 (Or.inr hnumber)), hindex other hnumber]
          exact Function.update_self _ _ _
        · exact ih.values cpu' hmem other hnumber

/-! ### What the arrays are compared with -/

/-- The CPUs present ran the callback, and no others; each left its value. -/
structure Answered (operation : HWPRequestOperation) (present : CPU → Bool) (values : CPU → U64)
    (cpus : List HWPRequestCPU) : Prop where
  allRun : AllRun operation cpus
  present : ∀ index, present index = true ↔ ∃ cpu ∈ cpus, cpu.number = index.val
  values : ∀ cpu ∈ cpus, ∀ index : CPU, cpu.number = index.val →
    cpu.answer operation index = values index

theorem Answered.requestsRead {present : CPU → Bool} {values : CPU → U64}
    {cpus : List HWPRequestCPU} (h : Answered .read present values cpus) :
    RequestsRead cpus values present := by
  constructor
  · intro cpu hmem
    rcases h.allRun.each cpu hmem with ⟨index, hruns⟩
    refine ⟨index, hruns.number, ?_, h.values cpu hmem index hruns.number⟩
    exact (h.present index).2 ⟨cpu, hmem, hruns.number⟩
  · intro index hpresent
    exact (h.present index).1 hpresent

section

variable {operation : HWPRequestOperation} {cpus : List HWPRequestCPU} {b : HWPRequestBroadcast}
  (hb : b = cpus.foldl hwpRequestOnCPU ⟨0, 0, operation, fun _ => 0, fun _ => false⟩)

include hb

/-- There is overflow unless every CPU runs. -/
theorem overflow_eq_zero_iff : b.overflow = 0 ↔ AllRun operation cpus := by
  subst hb
  constructor
  · intro hoverflow
    exact (ran_of_overflow cpus _ hoverflow).broadcasted.allRun
  · intro hall
    refine overflow_of_allRun cpus _ rfl hall ?_
    intro index hpresent
    cases hpresent

/-- What the arrays say if they all run. -/
theorem answered_of_overflow (hoverflow : b.overflow = 0) :
    Answered operation b.present b.values cpus ∧ b.count = cpus.length ∧
      (cpusPresent b.present).length = cpus.length := by
  subst hb
  have h := (ran_of_overflow cpus _ hoverflow).broadcasted
  refine ⟨⟨h.allRun, ?_, ?_⟩, ?_, ?_⟩
  · intro index
    rw [h.present]
    simp
  · intro cpu hmem index hnumber
    exact (h.values cpu hmem index hnumber).symm
  · rw [h.count, Nat.zero_add]
  · rw [h.length]
    simp [cpusPresent]

/-- A rendezvous has one outcome. -/
theorem Answered.broadcast {present : CPU → Bool} {values : CPU → U64}
    (h : Answered operation present values cpus) :
    b.overflow = 0 ∧ b.present = present ∧ ∀ index, present index = true →
      b.values index = values index := by
  have hoverflow := (overflow_eq_zero_iff hb).2 h.allRun
  rcases answered_of_overflow hb hoverflow with ⟨hb', -, -⟩
  refine ⟨hoverflow, ?_, ?_⟩
  · funext index
    rw [Bool.eq_iff_iff, hb'.present, h.present]
  · intro index hpresent
    rcases (h.present index).1 hpresent with ⟨cpu, hmem, hnumber⟩
    rw [← hb'.values cpu hmem index hnumber, h.values cpu hmem index hnumber]

end

/-- There are as many as are present, and each has a place in the arrays. -/
theorem Answered.length {operation : HWPRequestOperation} {present : CPU → Bool}
    {values : CPU → U64} {cpus : List HWPRequestCPU}
    (h : Answered operation present values cpus) :
    (cpusPresent present).length = cpus.length ∧ cpus.length ≤ maximumLogicalCPUs := by
  rcases h.broadcast rfl with ⟨hoverflow, hpresent, -⟩
  have hlength := (answered_of_overflow rfl hoverflow).2.2
  rw [hpresent] at hlength
  refine ⟨hlength, ?_⟩
  rw [← hlength]
  exact (List.length_filter_le _ _).trans (List.length_finRange).le

end TurboMac.Kext
