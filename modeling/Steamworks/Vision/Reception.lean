import Steamworks.Library.Run
import Steamworks.Vision.Protocol

/-! The receive loops on both ends of the vision link, on any results of
`recvfrom`. An error is only logged and then taken for a length, and what the
decoder throws leaves the thread. -/
namespace Steamworks.Vision
open Library.Run

/-- The decoder: `unpack` and `convert` throw on what is not an encoded array of
at most three ints, and are exact on what is. -/
structure Msgpack where
  Encodes : List UInt8 → List ℤ → Prop
  convert : List UInt8 → Option (List ℤ)
  convert_iff : ∀ bytes ints, convert bytes = some ints ↔ ints.length ≤ 3 ∧ Encodes bytes ints

inductive RecvFrom where
  | error
  | datagram (bytes : List UInt8)

/-- A result of `recvfrom`, and what the array it is converted into holds. -/
structure Reception where
  result : RecvFrom
  uninitialized : Fin 3 → ℤ

/-- The thread goes on, was terminated by an exception, or has read outside the
bytes it received, after which nothing is known of it. -/
inductive Thread (S : Type) where
  | running (state : S)
  | terminated
  | outside

def bufferSize : ℕ := 256

/-- A shorter array leaves the rest of the message as it is. -/
def converted (ints : List ℤ) (uninitialized : Fin 3 → ℤ) : Message ℤ where
  kind := ints[0]?.getD (uninitialized 0)
  first := ints[1]?.getD (uninitialized 1)
  second := ints[2]?.getD (uninitialized 2)

/-- The body both loops share, up to what they do with the message. -/
def loopBody (m : Msgpack) (receive : S → Message ℤ → S) : Thread S → Reception → Thread S
  | .running s, r =>
    match r.result with
    | .error => .outside
    | .datagram bytes =>
      match m.convert (bytes.take bufferSize) with
      | some ints => .running (receive s (converted ints r.uninitialized))
      | none => .terminated
  | .terminated, _ => .terminated
  | .outside, _ => .outside

/-- `Deadeye::Run`. -/
def Deadeye.run (m : Msgpack) : Thread (Deadeye ℤ) → Reception → Thread (Deadeye ℤ) :=
  loopBody m Deadeye.receive

/-- `Link::Run`. -/
def Jetson.run (m : Msgpack) : Thread Jetson → Reception → Thread Jetson :=
  loopBody m Jetson.receive

/-- The received bytes encode these ints. -/
def Reception.Carries (m : Msgpack) (r : Reception) (ints : List ℤ) : Prop :=
  ∃ bytes, r.result = .datagram bytes ∧ m.Encodes (bytes.take bufferSize) ints

/-- The thread goes on, and its state changes only on three elements. -/
def Survives (m : Msgpack) (receive : S → Message ℤ → S) (thread : Thread S) (r : Reception) : Prop :=
  ∃ s, loopBody m receive thread r = .running s ∧
    (thread ≠ .running s → ∃ ints, r.Carries m ints ∧ ints.length = 3)

/-- The message says what the subsystem already holds. -/
def Deadeye.Repeats (d : Deadeye ℤ) (message : Message ℤ) : Prop :=
  if message.kind = kBoilerSolutionMesg then
    d.hasTarget = true ∧ d.azimuthError = message.first ∧ d.centerlineError = message.second
  else if message.kind = kGearSolutionMesg then
    d.hasTarget = true ∧ d.azimuthError = message.first ∧ d.targetHeight = message.second
  else message.kind ≠ kErrorMesg → d.hasTarget = false

def Jetson.Repeats (j : Jetson) (message : Message ℤ) : Prop := j.linkMode = message.kind

/-- The thread is running and receives three ints, or fewer that with what the
message held before repeat its state. -/
def Receivable (m : Msgpack) (repeats : S → Message ℤ → Prop) (thread : Thread S) (r : Reception) :
    Prop :=
  ∃ s ints, thread = .running s ∧ r.Carries m ints ∧
    (ints.length = 3 ∨ ints.length < 3 ∧ repeats s (converted ints r.uninitialized))

theorem Deadeye.repeats_iff (d : Deadeye ℤ) (message : Message ℤ) :
    d.Repeats message ↔ d.receive message = d := by
  obtain ⟨hasTarget, azimuthError, centerlineError, targetHeight⟩ := d
  unfold Deadeye.Repeats Deadeye.receive
  by_cases none : message.kind = kNoTargetMesg
  · simp [none, kNoTargetMesg, kBoilerSolutionMesg, kGearSolutionMesg, kErrorMesg, eq_comm]
  · split_ifs with boiler gear error
    · simp [eq_comm]
    · simp [eq_comm]
    · simp [error]
    · simp [error, eq_comm]

theorem Jetson.repeats_iff (j : Jetson) (message : Message ℤ) :
    j.Repeats message ↔ j.receive message = j := by
  obtain ⟨linkMode, currentMode, processing⟩ := j
  simp [Jetson.Repeats, Jetson.receive, eq_comm]

section
variable {m : Msgpack} {receive : S → Message ℤ → S} {s : S} {r : Reception}

theorem loopBody_converted {bytes : List UInt8} {ints : List ℤ} (received : r.result = .datagram bytes)
    (decoded : m.convert (bytes.take bufferSize) = some ints) :
    loopBody m receive (.running s) r = .running (receive s (converted ints r.uninitialized)) := by
  simp only [loopBody, received, decoded]

/-- What a running loop survives, by what `recvfrom` and the decoder give. -/
theorem loopBody_cases (m : Msgpack) (receive : S → Message ℤ → S) (s : S) (r : Reception) :
    (∃ ints, ints.length ≤ 3 ∧ r.Carries m ints ∧ (∀ other, r.Carries m other → other.length ≤ 3 →
        other = ints) ∧
      loopBody m receive (.running s) r = .running (receive s (converted ints r.uninitialized))) ∨
    ((∀ ints, r.Carries m ints → ¬ints.length ≤ 3) ∧
      ∀ t, loopBody m receive (.running s) r ≠ .running t) := by
  cases received : r.result with
  | error =>
    refine .inr ⟨?_, ?_⟩
    · rintro ints ⟨bytes, other, _⟩
      rw [received] at other
      cases other
    · simp [loopBody, received]
  | datagram bytes =>
    have carries : ∀ ints, r.Carries m ints ↔ m.Encodes (bytes.take bufferSize) ints := by
      simp [Reception.Carries, received]
    cases decoded : m.convert (bytes.take bufferSize) with
    | none =>
      refine .inr ⟨?_, by simp [loopBody, received, decoded]⟩
      intro ints carried few
      have found := (m.convert_iff _ ints).mpr ⟨few, (carries ints).mp carried⟩
      rw [decoded] at found
      cases found
    | some ints =>
      obtain ⟨few, encoded⟩ := (m.convert_iff _ ints).mp decoded
      refine .inl ⟨ints, few, (carries ints).mpr encoded, ?_, loopBody_converted received decoded⟩
      intro other carried short
      have found := (m.convert_iff _ other).mpr ⟨short, (carries other).mp carried⟩
      exact (Option.some.inj (decoded.symm.trans found)).symm

theorem survives_iff {repeats : S → Message ℤ → Prop}
    (same : ∀ s message, repeats s message ↔ receive s message = s) (thread : Thread S)
    (r : Reception) : Survives m receive thread r ↔ Receivable m repeats thread r := by
  unfold Survives Receivable
  cases thread with
  | terminated | outside => simp [loopBody]
  | running s =>
    rcases loopBody_cases m receive s r with ⟨ints, few, carried, unique, goes⟩ | ⟨none, stops⟩
    · constructor
      · rintro ⟨t, reached, changes⟩
        refine ⟨s, ints, rfl, carried, ?_⟩
        by_cases stays : receive s (converted ints r.uninitialized) = s
        · rcases few.lt_or_eq with shorter | three
          · exact .inr ⟨shorter, (same _ _).mpr stays⟩
          · exact .inl three
        · rw [goes] at reached
          obtain ⟨other, carriedToo, three⟩ := changes fun unchanged =>
            stays (Thread.running.inj (reached.trans unchanged.symm))
          rw [← unique other carriedToo three.le]
          exact .inl three
      · rintro ⟨_, other, started, carriedToo, short⟩
        cases started
        have short' : other.length ≤ 3 := short.elim le_of_eq fun fewer => fewer.1.le
        obtain rfl := unique other carriedToo short'
        refine ⟨_, goes, fun changed => ?_⟩
        rcases short with three | ⟨_, repeated⟩
        · exact ⟨other, carriedToo, three⟩
        · exact absurd (by rw [(same _ _).mp repeated]) changed
    · constructor
      · rintro ⟨t, reached, _⟩
        exact absurd reached (stops t)
      · rintro ⟨_, ints, _, carried, short⟩
        exact absurd (short.elim le_of_eq fun fewer => fewer.1.le) (none ints carried)

theorem along_survives_iff {repeats : S → Message ℤ → Prop}
    (same : ∀ s message, repeats s message ↔ receive s message = s) (thread : Thread S)
    (receptions : List Reception) :
    Along (loopBody m receive) (Survives m receive) thread receptions ↔
      Along (loopBody m receive) (Receivable m repeats) thread receptions :=
  along_congr (I := fun _ => True) (fun _ _ _ _ => trivial)
    (fun thread r _ => survives_iff same thread r) trivial receptions

end

/-- Both loops survive their traffic, whatever it is, if and only if each of its
elements is receivable when it comes. -/
theorem traffic_survived_iff (m : Msgpack) (d : Deadeye ℤ) (j : Jetson) (receptions : List Reception) :
    (Along (Deadeye.run m) (Survives m Deadeye.receive) (.running d) receptions ↔
        Along (Deadeye.run m) (Receivable m Deadeye.Repeats) (.running d) receptions) ∧
      (Along (Jetson.run m) (Survives m Jetson.receive) (.running j) receptions ↔
        Along (Jetson.run m) (Receivable m Jetson.Repeats) (.running j) receptions) :=
  ⟨along_survives_iff Deadeye.repeats_iff _ receptions,
    along_survives_iff Jetson.repeats_iff _ receptions⟩

/-- The one-byte integers of the encoding. -/
def fixint (byte : UInt8) : Option ℤ :=
  if byte.toNat < 128 then some byte.toNat
  else if 224 ≤ byte.toNat then some (byte.toNat - 256) else none

/-- An array of up to fifteen such integers, at the front of the bytes. -/
def fixarray : List UInt8 → Option (List ℤ)
  | [] => none
  | header :: rest =>
    if 144 ≤ header.toNat ∧ header.toNat < 160 ∧ header.toNat - 144 ≤ rest.length then
      (rest.take (header.toNat - 144)).mapM fixint
    else none

/-- The decoder on bytes that hold no longer encodings. -/
def smallMsgpack : Msgpack where
  Encodes bytes ints := fixarray bytes = some ints
  convert bytes := (fixarray bytes).filter (·.length ≤ 3)
  convert_iff bytes ints := by
    simp [Option.filter_eq_some_iff, and_comm]

/-- An empty datagram ends either thread. -/
theorem empty_datagram_ends :
    ¬Along (Deadeye.run smallMsgpack) (Survives smallMsgpack Deadeye.receive)
        (.running ⟨false, 0, 0, 0⟩) [⟨.datagram [], fun _ => 0⟩] ∧
      ¬Along (Jetson.run smallMsgpack) (Survives smallMsgpack Jetson.receive) (.running {})
        [⟨.datagram [], fun _ => 0⟩] := by
  constructor
  · rintro ⟨⟨s, goes, _⟩, _⟩
    cases goes
  · rintro ⟨⟨s, goes, _⟩, _⟩
    cases goes

end Steamworks.Vision
