import Steamworks.Grapher.Sampling
import Steamworks.Library.Remainder

/-! The values a packet carries. The thread reads each slot through the pointer
it kept; a monitor that only remembers what was asked for, and looks the device
up when it samples, would send the same. -/
namespace Steamworks.Grapher
open Library.Ownership Library.Run

variable {K : Type*} [Field K]

inductive Getter where
  | getSetpoint
  | getOutputVoltage
  | getOutputCurrent
  | getEncPosition
  | getEncVel
  | getClosedLoopError
  | getIaccum
  | getBusVoltage
  | isFwdLimitSwitchClosed
  | isRevLimitSwitchClosed
  | getForwardLimitOK
  | getReverseLimitOK
  | getAnalogIn
  deriving DecidableEq

/-- `/proc/stat` as it is scanned; its second number is overwritten by the third. -/
structure ProcStat where
  user : UInt64
  system : UInt64
  idle : UInt64

/-- The static totals, as of the last time the load was computed. -/
structure Totals where
  user : UInt64 := 0
  niced : UInt64 := 0
  sysProc : UInt64 := 0
  idle : UInt64 := 0
  deriving DecidableEq

/-- What the program finds when a slot is sampled; `val` and `sysProc` are what
the locals hold that the code has not assigned. -/
structure Environment (K : Type*) where
  packetcounter : ℤ
  millisecondsToWait : K
  talon : ℕ → Getter → K
  pulseWidthPosition : ℕ → ℤ
  digital : ℕ → Bool
  stat : ProcStat
  cos : K → K
  val : K
  sysProc : UInt64

inductive Datum (K : Type*) where
  | nan
  | number (value : K)

namespace Environment

/-- The placeholder of an unknown property. -/
def wave (env : Environment K) : K := env.cos (env.packetcounter / 64) * 10

/-- The differences are unsigned; a quotient of zeros is no number. -/
def cpuLoad [DecidableEq K] (env : Environment K) (totals : Totals) : Datum K × Totals :=
  let busy : K := (env.stat.user - totals.user + (env.stat.system - totals.niced) +
    (env.sysProc - totals.sysProc)).toNat
  let all : K := busy + (env.stat.idle - totals.idle).toNat
  (if all = 0 then .nan else .number (busy / all),
    ⟨env.stat.user, env.stat.system, env.sysProc, env.stat.idle⟩)

def roboRIO [DecidableEq K] (env : Environment K) (totals : Totals) (propertyID : UInt8) :
    Datum K × Totals :=
  match propertyID with
  | 0 => (.number env.packetcounter, totals)
  | 1 => (.number env.millisecondsToWait, totals)
  | 2 => env.cpuLoad totals
  | _ => (.number env.wave, totals)

def talonProperty (env : Environment K) (object : ℕ) (propertyID : UInt8) : K :=
  match propertyID with
  | 0 => env.talon object .getSetpoint
  | 1 => env.talon object .getOutputVoltage
  | 2 => env.talon object .getOutputCurrent
  | 3 => env.talon object .getEncPosition
  | 4 => env.talon object .getEncVel
  | 5 => ((env.pulseWidthPosition object % 4096 : ℤ) : K)
  | 6 => env.talon object .getClosedLoopError
  | 7 => env.talon object .getIaccum
  | 8 => env.talon object .getBusVoltage
  | 9 => env.talon object .isFwdLimitSwitchClosed
  | 10 => env.talon object .isRevLimitSwitchClosed
  | 11 => env.talon object .getForwardLimitOK
  | 12 => env.talon object .getReverseLimitOK
  | 13 => env.talon object .getAnalogIn
  | _ => env.wave

/-- The value of a slot. A null pointer gets past the first test for the RoboRIO
only. -/
def sample [DecidableEq K] (env : Environment K) (totals : Totals) (s : Subscription) :
    Datum K × Totals :=
  match s.bundle with
  | none =>
    if s.propertyID = 255 ∨ s.deviceType ≠ DeviceType.roboRIO then (.nan, totals)
    else env.roboRIO totals s.propertyID
  | some object =>
    if s.propertyID = 255 then (.nan, totals)
    else if s.deviceType = DeviceType.roboRIO then env.roboRIO totals s.propertyID
    else if s.deviceType = DeviceType.talon then
      (.number (env.talonProperty object s.propertyID), totals)
    else if s.deviceType = DeviceType.dio then
      (.number (if env.digital object then 1 else 0), totals)
    else (.number env.val, totals)

end Environment

/-- What was asked for in a slot, by name. -/
structure Request where
  deviceType : UInt8
  deviceID : UInt8
  propertyID : UInt8

/-- The tool and the thread, and the data sent so far, newest first. -/
structure Session (K : Type*) where
  watched : Watched
  totals : Totals := {}
  log : List (Fin maxNumberOfDatapoints × Datum K) := []

def Session.next [DecidableEq K] (s : Session K) (e : Event × Environment K) : Session K :=
  match e.1 with
  | .sample slot =>
    let sampled := e.2.sample s.totals (s.watched.tool.slot slot)
    ⟨s.watched.next e.1, sampled.2, (slot, sampled.1) :: s.log⟩
  | _ => { s with watched := s.watched.next e.1 }

/-- A monitor that holds no pointers. -/
structure Monitor (K : Type*) where
  registry : Registry
  requests : Fin maxNumberOfDatapoints → Option Request := fun _ => none
  totals : Totals := {}
  log : List (Fin maxNumberOfDatapoints × Datum K) := []

namespace Monitor

/-- The device is looked up when it is sampled. -/
def look [DecidableEq K] (m : Monitor K) (env : Environment K) (slot : Fin maxNumberOfDatapoints) :
    Datum K × Totals :=
  match m.requests slot with
  | none => (.nan, m.totals)
  | some request =>
    match registered m.registry.devices request.deviceType request.deviceID with
    | none => (.nan, m.totals)
    | some device => env.sample m.totals
        ⟨request.deviceType, request.deviceID, request.propertyID, device.objectPointer⟩

def next [DecidableEq K] (m : Monitor K) (e : Event × Environment K) : Monitor K :=
  match e.1 with
  | .call c => { m with registry := m.registry.next c }
  | .updateSubscription index deviceType deviceID propertyID =>
    { m with requests := fun slot =>
        if index.toNat = slot then some ⟨deviceType, deviceID, propertyID⟩ else m.requests slot }
  | .sample slot =>
    let sampled := m.look e.2 slot
    { m with totals := sampled.2, log := (slot, sampled.1) :: m.log }

end Monitor

theorem sample_unsubscribed [DecidableEq K] (env : Environment K) (totals : Totals)
    {s : Subscription} (unused : s.propertyID = 255) : env.sample totals s = (.nan, totals) := by
  rw [Environment.sample]
  cases s.bundle with
  | none => exact if_pos (.inl unused)
  | some object => exact if_pos unused

/-- Under the invariant every call of the tool goes through. -/
theorem call_registry {w : Watched} (sound : WatchSound w) (c : Call) :
    (w.next (.call c)).tool = { w.tool with registry := w.tool.registry.next c } := by
  obtain ⟨r, outcome⟩ := call_outcome sound.registry c
  rw [Watched.next, Tool.step, Registry.next, outcome.done]
  rfl

/-- The slots hold what was asked for, with a pointer of their own. -/
structure Mirrors (s : Session K) (m : Monitor K) : Prop where
  registry : s.watched.tool.registry = m.registry
  totals : s.totals = m.totals
  log : s.log = m.log
  unasked : ∀ slot, m.requests slot = none → (s.watched.tool.slot slot).propertyID = 255
  asked : ∀ slot request, m.requests slot = some request →
    s.watched.tool.slot slot = ⟨request.deviceType, request.deviceID, request.propertyID,
      (s.watched.tool.slot slot).bundle⟩

section
variable [DecidableEq K] {s : Session K} {m : Monitor K}

/-- While no slot in use shows a switched input, its pointer is the one a look-up
finds. -/
theorem look_eq (sound : WatchSound s.watched) (mirrors : Mirrors s m) (env : Environment K)
    {slot : Fin maxNumberOfDatapoints} (kept : s.watched.Kept (.sample slot)) :
    m.look env slot = env.sample s.totals (s.watched.tool.slot slot) := by
  rw [Monitor.look, ← mirrors.totals]
  cases asked : m.requests slot with
  | none => exact (sample_unsubscribed env s.totals (mirrors.unasked slot asked)).symm
  | some request =>
    have shown := mirrors.asked slot request asked
    by_cases unused : request.propertyID = 255
    · have quiet : (s.watched.tool.slot slot).propertyID = 255 := by
        rw [shown]
        exact unused
      rw [sample_unsubscribed env s.totals quiet]
      dsimp only
      cases registered m.registry.devices request.deviceType request.deviceID with
      | none => rfl
      | some device =>
        exact sample_unsubscribed env s.totals (s := ⟨request.deviceType, request.deviceID,
          request.propertyID, device.objectPointer⟩) unused
    · have used : (s.watched.tool.slot slot).propertyID ≠ 255 := by
        rw [shown]
        exact unused
      obtain ⟨device, found, pointer⟩ := (sound.slots slot used).current (kept used)
      rw [Tool.registered, mirrors.registry, shown] at found
      simp only [found]
      rw [pointer, ← shown]

/-- One step of the thread is one step of the monitor. -/
theorem mirrors_next (sound : WatchSound s.watched) (mirrors : Mirrors s m)
    {e : Event × Environment K} (named : s.watched.tool.Names e.1) (kept : s.watched.Kept e.1) :
    Mirrors (s.next e) (m.next e) := by
  obtain ⟨e, env⟩ := e
  obtain ⟨registry, totals, log, unasked, asked⟩ := mirrors
  cases e with
  | call c =>
    have same := call_registry sound c
    refine ⟨?_, totals, log, ?_, ?_⟩
    · rw [Session.next, same, registry]
      rfl
    · intro slot none_asked
      rw [Session.next, same]
      exact unasked slot none_asked
    · intro slot request some_asked
      rw [Session.next, same]
      exact asked slot request some_asked
  | updateSubscription index deviceType deviceID propertyID =>
    have inside : index.toNat < maxNumberOfDatapoints := kept
    obtain ⟨device, found⟩ := Option.isSome_iff_exists.mp named
    obtain ⟨u, stepped, unchanged, subscriptions⟩ :=
      step_subscribed s.watched.tool inside propertyID found
    have next : (s.watched.next (.updateSubscription index deviceType deviceID propertyID)).tool =
        u := by
      rw [Watched.next, stepped, Option.getD_some]
    have addressed : ∀ slot : Fin maxNumberOfDatapoints, index.toNat = slot →
        u.slot slot = ⟨deviceType, deviceID, propertyID, device.objectPointer⟩ := by
      intro slot here
      have this_slot : (⟨index.toNat, inside⟩ : Fin maxNumberOfDatapoints) = slot := Fin.ext here
      rw [Tool.slot, subscriptions, this_slot, Function.update_self]
    have other : ∀ slot : Fin maxNumberOfDatapoints, index.toNat ≠ slot →
        u.slot slot = s.watched.tool.slot slot := by
      intro slot elsewhere
      rw [Tool.slot, subscriptions]
      apply Function.update_of_ne
      rintro rfl
      exact elsewhere rfl
    refine ⟨?_, totals, log, ?_, ?_⟩
    · rw [Session.next, next, unchanged, registry]
      rfl
    · intro slot none_asked
      rw [Session.next, next]
      by_cases here : index.toNat = slot
      · simp [Monitor.next, here] at none_asked
      · rw [other slot here]
        simp only [Monitor.next, if_neg here] at none_asked
        exact unasked slot none_asked
    · intro slot request some_asked
      rw [Session.next, next]
      by_cases here : index.toNat = slot
      · simp only [Monitor.next, if_pos here, Option.some.injEq] at some_asked
        rw [addressed slot here, ← some_asked]
      · rw [other slot here]
        simp only [Monitor.next, if_neg here] at some_asked
        exact asked slot request some_asked
  | sample slot =>
    have looked := look_eq sound ⟨registry, totals, log, unasked, asked⟩ env kept
    refine ⟨registry, ?_, ?_, unasked, asked⟩
    · rw [Session.next, Monitor.next]
      exact congrArg Prod.snd looked.symm
    · simp only [Session.next, Monitor.next, looked, log]

theorem watch_next (sound : WatchSound s.watched) {e : Event × Environment K}
    (named : s.watched.tool.Names e.1) (kept : s.watched.Kept e.1) :
    WatchSound (s.next e).watched := by
  obtain ⟨e, env⟩ := e
  cases e with
  | call c => exact (watch_call sound c).2
  | updateSubscription index deviceType deviceID propertyID =>
    exact (watch_update sound kept propertyID named).2
  | sample slot => exact sound

/-- Looking up what a slot asked for as it is sampled, or keeping the pointer
from when it asked, the data sent are the same: in every interleaving of the
tool's calls, of messages that name registered devices and address a slot, and of
samplings, while no slot in use is sampled after its input was switched. -/
theorem data_by_name (before : List Call)
    (subscriptions : Fin maxNumberOfDatapoints → Subscription)
    (packetSpace : Fin maxPacketSize → UInt8) (events : List (Event × Environment K))
    (meets : Along Session.next (fun s e => s.watched.tool.Names e.1 ∧ s.watched.Kept e.1)
      { watched := .start before subscriptions packetSpace } events) :
    (run Session.next { watched := .start before subscriptions packetSpace } events).log =
      (run Monitor.next
        { registry := (Tool.start before subscriptions packetSpace).registry } events).log := by
  have sound := watch_start before subscriptions packetSpace
  have mirrors : Mirrors (K := K) { watched := .start before subscriptions packetSpace }
      { registry := (Tool.start before subscriptions packetSpace).registry } := by
    refine ⟨rfl, rfl, rfl, fun _ _ => rfl, ?_⟩
    rintro slot request ⟨⟩
  have preserves : ∀ (s : Session K) (m : Monitor K) (e : Event × Environment K),
      WatchSound s.watched ∧ Mirrors s m → s.watched.tool.Names e.1 ∧ s.watched.Kept e.1 →
        WatchSound (s.next e).watched ∧ Mirrors (s.next e) (m.next e) := by
    rintro s m e ⟨sound, mirrors⟩ ⟨named, kept⟩
    exact ⟨watch_next sound named kept, mirrors_next sound mirrors named kept⟩
  exact (run_related_along preserves ⟨sound, mirrors⟩ events meets).2.log

end

/-- Readings of a quiet robot. -/
def quietly : Environment ℚ where
  packetcounter := 7
  millisecondsToWait := 50
  talon _ _ := 0
  pulseWidthPosition _ := 0
  digital _ := true
  stat := ⟨0, 0, 0⟩
  cos _ := 1
  val := 0
  sysProc := 0

theorem data_by_name_shown :
    (run Session.next { watched := freshWatch } (shownInput.map fun e => (e, quietly))).log =
      (run Monitor.next { registry := freshWatch.tool.registry }
        (shownInput.map fun e => (e, quietly))).log := by
  have addressed : (0 : UInt8).toNat < maxNumberOfDatapoints := by decide
  exact data_by_name [] _ _ _
    ⟨⟨trivial, trivial⟩, ⟨rfl, addressed⟩, ⟨trivial, fun _ => rfl⟩, trivial⟩

end Steamworks.Grapher
