import TurboMac.Lib.Decimal
import TurboMac.Lib.Interleaving
import TurboMac.Linux.Config

/-! # `rapl.py`: the live limits and the firmware's

The machine has two registers, the file of the firmware's limits and, while it runs,
the daemon with the limits it has loaded. Beside its value a limit has who wrote it
last, which nothing here reads. The MSR, the time windows and the verdict of the
readback decide nothing here and are left out.
-/

namespace TurboMac.Linux

/-- Who wrote a limit last. -/
inductive Source where
  | firmware
  | turbomac
deriving DecidableEq, Repr

/-- A limit in microwatts. -/
structure Limit where
  uw : ℤ
  source : Source
deriving DecidableEq, Repr

/-- `uw / 1e6`. -/
def Limit.watts (l : Limit) : ℚ := l.uw / 1000000

/-- What `load_or_capture_firmware` saves and returns. -/
structure FirmwareLimits where
  pl1 : Limit
  pl2 : Limit
  suspect : Bool
deriving DecidableEq, Repr

/-- `valid_firmware`. -/
def validFirmware (fw : FirmwareLimits) : Bool :=
  !fw.suspect && decide (0 < fw.pl1.uw) && decide (0 < fw.pl2.uw)

/-- `firmware-limits.json`: absent, without limits that can be read, or with limits. -/
inductive LimitsFile where
  | missing
  | damaged
  | limits (fw : FirmwareLimits)
deriving DecidableEq, Repr

/-- `w_to_uw`. -/
def wToUw (w : ℚ) : ℤ := Decimal.roundHalfEven (w * 1000000)

/-- `floor_eighth`. -/
def floorEighth (w : ℚ) : ℚ := ⌊w * 8 + 1 / 1000000000⌋ / 8

/-- `clamp_limits`. -/
def clampLimits (pl1W pl2W hardMaxW : ℚ) (firmware : Option FirmwareLimits) : ℚ × ℚ :=
  let (m1, m2) :=
    match firmware.filter validFirmware with
    | some fw => (min hardMaxW fw.pl1.watts, min hardMaxW fw.pl2.watts)
    | none => (hardMaxW, hardMaxW)
  (floorEighth (min pl1W m1), floorEighth (min pl2W m2))

/-- Which of the two writes of a call take. -/
structure WriteAnswers where
  pl1 : Bool
  pl2 : Bool

/-- Whether the limits file can be opened, the registers read, and the file saved. -/
structure LoadAnswers where
  opened : Bool
  readable : Bool
  saved : Bool

/-- What `load_or_capture_firmware` warns of. -/
inductive WarningCause where
  | unreadable
  | capActive
  | replaced
deriving DecidableEq, Repr

/-- A warning, and whether a stale file has been ignored. -/
structure FirmwareWarning where
  stale : Bool
  cause : WarningCause
deriving DecidableEq, Repr

/-- The limits that are returned, if any, and the warning. -/
abbrev Loaded := Option FirmwareLimits × Option FirmwareWarning

structure Machine where
  pl1 : Limit
  pl2 : Limit
  file : LimitsFile
  /-- of a daemon that runs, its `firmware` -/
  daemon : Option (Option FirmwareLimits)
  /-- all that `load_or_capture_firmware` has returned, newest first -/
  returned : List FirmwareLimits

namespace Machine

/-- A limit after a write that may take. -/
def written (l : Limit) (w : ℚ) (takes : Bool) : Limit := if takes then ⟨wToUw w, .turbomac⟩ else l

/-- `apply_and_verify`. -/
def applyAndVerify (m : Machine) (pl1W pl2W hardMaxW : ℚ) (firmware : Option FirmwareLimits)
    (answers : WriteAnswers) : Machine :=
  let (pl1W, pl2W) := clampLimits pl1W pl2W hardMaxW firmware
  { m with
    pl1 := written m.pl1 pl1W answers.pl1
    pl2 := written m.pl2 pl2W answers.pl2 }

/-- The limits of the file, if they are valid. -/
def savedFirmware (m : Machine) (opened : Bool) : Option FirmwareLimits :=
  match m.file with
  | .limits fw => if opened && validFirmware fw then some fw else none
  | .missing | .damaged => none

/-- What a live capture has. -/
def capture (m : Machine) : FirmwareLimits :=
  ⟨m.pl1, m.pl2, decide (m.pl1.watts < hardMaxW)⟩

/-- `load_or_capture_firmware`, or none if it raises. -/
def loadOrCaptureFirmware (m : Machine) (answers : LoadAnswers) (force : Bool) :
    Option (Loaded × Machine) :=
  match if force then none else m.savedFirmware answers.opened with
  | some fw => some ((some fw, none), m)
  | none =>
    let stale := !force && m.file != .missing
    if !answers.readable then some ((none, some ⟨stale, .unreadable⟩), m)
    else if m.capture.suspect then some ((some m.capture, some ⟨stale, .capActive⟩), m)
    else if !answers.saved then none
    else some ((some m.capture, if stale then some ⟨stale, .replaced⟩ else none),
      { m with file := .limits m.capture })

end Machine

/-- What may happen to the machine. A crash of a call is in its answers: from there on
nothing takes. -/
inductive RaplEvent where
  /-- `turbomac.cap apply`, with the cap of the configuration -/
  | capApply (available : Bool) (staticCapW : ℚ) (load : LoadAnswers) (write : WriteAnswers)
  /-- the plain echo of `turbomac-cap.sh`, with the cap of the configuration if it reads one -/
  | capEcho (staticCapW : Option ℚ) (write : WriteAnswers)
  | daemonStart (load : LoadAnswers)
  | daemonStop
  /-- `set_limits` of the governor -/
  | governorWrite (available : Bool) (pl1W pl2W : ℚ) (write : WriteAnswers)
  /-- the limits file is lost, or left without limits that can be read -/
  | lose (missing : Bool)

/-- `FALLBACK_UW` of `turbomac-cap.sh`. -/
def fallbackUw (staticCapW : Option ℚ) : ℤ :=
  match staticCapW with
  | some v => if 10 ≤ v ∧ v ≤ 45 then wToUw v else 35000000
  | none => 35000000

namespace Machine

/-- The machine after a call of `load_or_capture_firmware`, and what it has returned. -/
def load (m : Machine) (answers : LoadAnswers) : Option (Option FirmwareLimits × Machine) :=
  (m.loadOrCaptureFirmware answers false).map fun (loaded, m) =>
    (loaded.1, { m with returned := loaded.1.toList ++ m.returned })

/-- The machine after an event, if the event can happen. -/
def step (m : Machine) : RaplEvent → Option Machine
  | .capApply available staticCapW load write =>
    if !available then some m
    else
      match m.load load with
      | none => some m
      | some (fw, m) => some (m.applyAndVerify staticCapW staticCapW hardMaxW fw write)
  | .capEcho staticCapW write =>
    some { m with
      pl1 := if write.pl1 then ⟨fallbackUw staticCapW, .turbomac⟩ else m.pl1
      pl2 := if write.pl2 then ⟨fallbackUw staticCapW, .turbomac⟩ else m.pl2 }
  | .daemonStart load =>
    match m.load load with
    | none => some m
    | some (fw, m) => some { m with daemon := some fw }
  | .daemonStop => some { m with daemon := none }
  | .governorWrite available pl1W pl2W write =>
    match m.daemon with
    | none => none
    | some fw => if available then some (m.applyAndVerify pl1W pl2W hardMaxW fw write) else some m
  | .lose missing => some { m with file := if missing then .missing else .damaged }

end Machine

end TurboMac.Linux
