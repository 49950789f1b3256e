import TurboMac.Lib.Median
import TurboMac.Lib.Window
import TurboMac.Linux.Governor
import TurboMac.Linux.SmcDecode

/-! # `sampler.py`

The fast and the slow sample, the trailing windows, and what they give the governor and
the fan floor. A sample that raises does so in a read, before anything is changed. What is
only shown or logged (the peaks, the extra rails and temperatures, the aggregates) is
left out.
-/

namespace TurboMac.Linux

open Median (mean median)
open Window (TimedValue expire Recent)

def tempFreshS : ℚ := 3

/-- The keys of `FULL_SMC_KEYS`. -/
inductive SmcKey where
  | pdtr
  | vd0r
  | id0r
  | acpw
deriving DecidableEq, Repr

def fullSmcKeys : List SmcKey := [.pdtr, .vd0r, .id0r, .acpw]

def fastSmcKeys : List SmcKey := [.pdtr]

/-- The zones of `Rapl.power`. -/
inductive Zone where
  | package
  | core
  | uncore
  | dram
deriving DecidableEq, Repr

/-- The windows. -/
inductive Channel where
  | input
  | pkg
  | core
  | uncore
  | dram
  | acpw
  | v
  | a
deriving DecidableEq, Repr

/-! ## `Window` -/

/-- Timestamped values, oldest first, and how long they are kept. -/
structure SampleWindow where
  keepS : ℚ
  d : List (TimedValue ℚ ℚ)

namespace SampleWindow

variable (w : SampleWindow)

/-- `push`: what is not a finite number is no value. -/
def push (t : ℚ) (v : Reading) : SampleWindow :=
  match v.num? with
  | some v => { w with d := expire w.keepS t (w.d ++ [⟨t, v⟩]) }
  | none => w

/-- Whether a value is in the trailing span. -/
def inSpan (now span : ℚ) (s : TimedValue ℚ ℚ) : Bool :=
  decide (now - span + 1 / 1000000000 < s.time)

/-- `values`. -/
def values (now span : ℚ) : List ℚ := (w.d.filter (inSpan now span)).map TimedValue.value

/-- `mean`. -/
def mean (now span : ℚ) : Option ℚ := Median.mean (w.values now span)

/-- `median`. -/
def median (now span : ℚ) : Option ℚ := Median.median (w.values now span)

/-- `max`. -/
def max (now span : ℚ) : Option ℚ := (w.values now span).max?

end SampleWindow

/-! ## Reads -/

/-- What a reading that may be missing is to `push`. -/
def Reading.ofOption : Option ℚ → Reading
  | some v => .num v
  | Option.none => .none

/-- What a decoded key is to `push`. -/
def Decoded.reading : Decoded → Reading
  | .float (some v) => .num v
  | .int n => .num n
  | .float none | .bool _ | .str _ => .other

/-- `_valid_input`, together with the number it vouches for. -/
def validInput : Option Decoded → Option ℚ
  | some (.float (some v)) => if 0 ≤ v ∧ v < 250 then some v else none
  | _ => none

/-- The sanity check of ACPW: an integer of 30 to 100 W in milliwatts. -/
def saneAcpw : Option Decoded → Option ℚ
  | some (.int acpw) => if 30000 ≤ acpw ∧ acpw ≤ 100000 then some (acpw / 1000) else none
  | _ => none

/-- What the reads of a fast sample give: the watts of each zone, and each key that is
read. Without RAPL, or an SMC that is `ok`, there are none. -/
structure FastReads where
  power : Zone → Option ℚ
  smc : SmcKey → Option Decoded

/-- `smc.get(key)`: a key is missing if it has not been read. -/
def FastReads.get (reads : FastReads) (full : Bool) (key : SmcKey) : Option Decoded :=
  if key ∈ (if full then fullSmcKeys else fastSmcKeys) then reads.smc key else none

/-- `held`: what the last full sample read. -/
structure Held where
  v : Option Decoded
  a : Option Decoded
  acpwW : Option ℚ

namespace FastReads

variable (reads : FastReads) (full : Bool)

/-- `{}` unless the sample is full: the windows get each 1 Hz value once. -/
def fresh : Held :=
  if full then ⟨reads.get full .vd0r, reads.get full .id0r, saneAcpw (reads.get full .acpw)⟩
  else ⟨none, none, none⟩

/-- What is pushed. -/
def value : Channel → Reading
  | .input => .ofOption (validInput (reads.get full .pdtr))
  | .pkg => .ofOption (reads.power .package)
  | .core => .ofOption (reads.power .core)
  | .uncore => .ofOption (reads.power .uncore)
  | .dram => .ofOption (reads.power .dram)
  | .acpw => .ofOption (reads.fresh full).acpwW
  | .v => (reads.fresh full).v.elim .none Decoded.reading
  | .a => (reads.fresh full).a.elim .none Decoded.reading

end FastReads

/-- What the reads of a slow sample give of the temperature. -/
structure SlowReads where
  pkgC : Option ℚ
deriving DecidableEq, Repr

/-! ## `Sampler` -/

/-- The fields of `latest` that are looked at. -/
structure Latest where
  valid : Bool
  pdtrW : Option ℚ
deriving DecidableEq, Repr

structure Sampler where
  held : Held
  w : Channel → SampleWindow
  latest : Latest
  /-- `slow_data`: the package temperature -/
  pkgC : Option ℚ
  slowMono : Option ℚ

/-- What `derived` gives. -/
structure Derived where
  inputMean1s : Option ℚ
  inputMax1s : Option ℚ
  pkgMedian1s : Option ℚ
  acpwMedian10s : Option ℚ
  noncpuEstW : Option ℚ
  headroomW : Option ℚ
deriving DecidableEq, Repr

namespace Sampler

/-- `__init__`. -/
def init : Sampler where
  held := ⟨none, none, none⟩
  w _ := ⟨12, []⟩
  latest := ⟨false, none⟩
  pkgC := none
  slowMono := none

variable (s : Sampler)

/-- `fast`. -/
def fast (now : ℚ) (reads : FastReads) (full : Bool) : Sampler :=
  let pdtrW := validInput (reads.get full .pdtr)
  let held := if full then reads.fresh full else s.held
  let w channel := (s.w channel).push now (reads.value full channel)
  let valid := pdtrW.isSome && ((w .acpw).median now 10).isSome
  { s with
    held := held
    w := w
    latest := ⟨valid, pdtrW⟩ }

/-- `slow`. -/
def slow (now : ℚ) (reads : SlowReads) : Sampler :=
  { s with
    pkgC := reads.pkgC
    slowMono := some now }

/-- What the daemon makes of a fast sample that raises. -/
def invalidate : Sampler := { s with latest := ⟨false, none⟩ }

/-- `derived`, without the prediction at the ceiling. -/
def derived (now : ℚ) : Derived :=
  let inputMean := (s.w .input).mean now 1
  let pkgMedian := (s.w .pkg).median now 1
  let acpw := (s.w .acpw).median now 10
  { inputMean1s := inputMean
    inputMax1s := (s.w .input).max now 1
    pkgMedian1s := pkgMedian
    acpwMedian10s := acpw
    noncpuEstW := do return (← inputMean) - (← pkgMedian)
    headroomW := do return (← acpw) - (← inputMean) }

/-- `gov_input`, without the readback. -/
def govInput (now : ℚ) : Sample where
  pdtrW := .ofOption (if s.latest.valid then s.latest.pdtrW else none)
  inputMean1s := .ofOption ((s.w .input).mean now 1)
  acpwW := .ofOption ((s.w .acpw).median now 10)
  pkgC := .ofOption (if s.slowMono.any fun mono => decide (now - mono ≤ tempFreshS) then s.pkgC else none)
  readback := none

end Sampler

end TurboMac.Linux
