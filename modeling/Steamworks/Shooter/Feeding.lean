import Steamworks.Library.Runner
import Steamworks.Shooter.Settling

/-! When the shooting sequence feeds the hopper: with a valid solution, set where it
says, and there, unless a wait was given up. So a sequence that is cancelled, for
want of a solution or by the driver, never comes to its shot. -/
namespace Steamworks.Shooter
open Library.Group Library.Run

/-- The part is set, and there, or still waited for. -/
def Part.Reached (part : Part) (waits : Prop) (r : Shooting)
    (children : List (ShootingCommand × Bool)) : Prop :=
  part.Set r ∧ (part.There r ∨ waits ∧ (part.command, true) ∈ children)

/-- The hopper is as it was, or was just sent the solution's voltage, within 0 to 12. -/
def Shooting.Fed (r base : Shooting) : Prop :=
  r.hopper = base.hopper ∨
    r.hopper.talon.last = some (.set (max 0 (min 12 r.solution.hopperVoltage)))

theorem Leaves.fed {base r t : Shooting} (leaves : Leaves r t) (fed : r.Fed base) : t.Fed base := by
  rw [Shooting.Fed, leaves.hopper, leaves.solution]
  exact fed

/-- How far the sequence has come, and what then holds. Between the waits nothing is
stepped; a cancelled sequence goes no further than its second wait. -/
inductive Under (p : Parameters) (givesUp : Bool) (base : Shooting) (s : ShootingState) : Prop where
  | preparing {n : ℕ} (few : n ≤ 3) (rest : s.rest = startShooting.drop n) (alone : s.children = [])
      (same : s.resource.hopper = base.hopper)
  | beginning (rest : s.rest = startShooting.drop 4) (fresh : s.started = false)
      (alone : s.children = [(.getAngle, false)]) (same : s.resource.hopper = base.hopper)
  | aiming (rest : s.rest = startShooting.drop 5)
      (beside : ∀ child ∈ s.children, child.1 = .getAngle ∨ child.1 = .deadeyeAzimuth)
      (solved : (∃ stepped, (.getAngle, stepped) ∈ s.children) ∨ s.cancelled = true ∨
        s.resource.Solved p)
      (same : s.resource.hopper = base.hopper)
  | turning (rest : s.rest = startShooting.drop 6) (fresh : s.started = false)
      (beside : ∀ child ∈ s.children, child = (.getAngle, true) ∨ child.1 = .deadeyeAzimuth)
      (solved : (.getAngle, true) ∈ s.children ∨ s.cancelled = true ∨ s.resource.Solved p)
      (same : s.resource.hopper = base.hopper)
  | setting (rest : s.rest = startShooting.drop 7) (fresh : s.started = false)
      (beside : ∀ child ∈ s.children, child.1 = .deadeyeAzimuth ∨ child.1 = .setElevation)
      (pending : (.setElevation, false) ∈ s.children)
      (solved : s.cancelled = true ∨ s.resource.Solved p) (same : s.resource.hopper = base.hopper)
  | reaching (rest : s.rest = startShooting.drop 8)
      (beside : ∀ child ∈ s.children, child.1 ∈ settling)
      (halted : s.cancelled = true → s.started = true ∨ s.children ≠ [])
      (solved : s.cancelled = true ∨ s.resource.Solved p)
      (reached : ∀ part : Part, (part.command, false) ∈ s.children ∨
        part.Reached True s.resource s.children)
      (same : s.resource.hopper = base.hopper)
  | feeding {n : ℕ} (rest : s.rest = startShooting.drop (n + 9))
      (beside : ∀ child ∈ s.children, child.1 ∈ settling)
      (patient : givesUp = false → s.children = []) (solved : s.resource.Solved p)
      (reached : ∀ part : Part, part.Reached (givesUp = true) s.resource s.children)
      (fed : s.resource.Fed base)

/-- Between the waits the entries are still gone through. -/
theorem unheld {s : ShootingState} {n : ℕ} (rest : s.rest = startShooting.drop n)
    (fresh : s.started = false) (few : n < startShooting.length) : ¬s.Held := by
  rintro (past | started)
  · rw [rest, List.drop_eq_nil_iff] at past
    omega
  · exact absurd (fresh.symm.trans started) Bool.false_ne_true

section
variable {p : Parameters} {givesUp : Bool} {i : Reads} {base : Shooting} {s t : ShootingState}
  (change : Change (crew p givesUp) i s t)

include change

theorem preparing_change {n : ℕ} (few : n ≤ 3) (rest : s.rest = startShooting.drop n)
    (alone : s.children = []) (same : s.resource.hopper = base.hopper) : Under p givesUp base t := by
  have lone : ∀ {before behind : List (ShootingCommand × Bool)} {child : ShootingCommand × Bool},
      s.children ≠ before ++ child :: behind := by
    intro before behind child among
    rw [alone] at among
    exact absurd among (by simp)
  cases change with
  | dropped _ _ among => exact absurd among lone
  | childGoes _ among => exact absurd among lone
  | childFinishes _ among => exact absurd among lone
  | launched next free =>
    rw [rest] at next
    interval_cases n <;> cases next
    exact .beginning rfl rfl (by rw [alone]; rfl) same
  | passed next =>
    rw [rest] at next
    interval_cases n <;> cases next
  | waits next =>
    rw [rest] at next
    interval_cases n <;> cases next
  | goes next unfinished =>
    rw [rest] at next
    interval_cases n <;> cases next <;> cases unfinished
  | finishes next resumed finished =>
    rw [rest] at next
    have kept : ∀ c ∈ opening, ((c.member p).finish i
        ((c.member p).step i s.started s.resource).1).1.hopper = base.hopper :=
      fun c opens => (opening_finish opens).trans same
    interval_cases n <;> cases next
    · exact .preparing (n := 1) (by omega) rfl alone (kept .enableCamera (by decide))
    · exact .preparing (n := 2) (by omega) rfl alone (kept (.shooterLED true) (by decide))
    · exact .preparing (n := 3) (by omega) rfl alone (kept .setShooter (by decide))

theorem beginning_change (rest : s.rest = startShooting.drop 4) (fresh : s.started = false)
    (alone : s.children = [(.getAngle, false)]) (same : s.resource.hopper = base.hopper) :
    Under p givesUp base t := by
  cases change with
  | @dropped before behind child entry later next meets among =>
    rw [rest] at next
    cases next
    have first : child = (.getAngle, false) := by
      have member := mem_of_among among
      rw [alone] at member
      exact List.mem_singleton.mp member
    rw [first] at meets
    cases meets
  | launched next free =>
    rw [rest] at next
    cases next
    refine .aiming rfl ?_ (.inl ⟨false, ?_⟩) same
    · rw [alone]
      simp
    · rw [alone]
      simp
  | passed next | waits next | goes next | finishes next =>
    rw [rest] at next
    cases next
  | childGoes held | childFinishes held => exact absurd held (unheld rest fresh (by decide))

theorem aiming_change (after : t.resource.isDefined = true) (rest : s.rest = startShooting.drop 5)
    (beside : ∀ child ∈ s.children, child.1 = .getAngle ∨ child.1 = .deadeyeAzimuth)
    (solved : (∃ stepped, (.getAngle, stepped) ∈ s.children) ∨ s.cancelled = true ∨
      s.resource.Solved p)
    (same : s.resource.hopper = base.hopper) : Under p givesUp base t := by
  cases change with
  | dropped next meets =>
    rw [rest] at next
    cases next
    cases meets
  | launched next | goes next | finishes next =>
    rw [rest] at next
    cases next
  | waits next => exact .aiming rest beside solved same
  | passed next resumed due =>
    rw [rest] at next
    cases next
    rcases due with gone | ⟨started, -⟩
    · refine .turning rfl rfl ?_ ?_ same
      · simp [gone]
      · simpa [gone] using solved
    · obtain ⟨-, stepped⟩ := resumed started
      refine .turning rfl rfl (fun child member => ?_) ?_ same
      · exact (beside child member).imp_left fun name => Prod.ext name (stepped child member)
      · refine solved.imp_left fun ⟨b, member⟩ => ?_
        obtain rfl : b = true := stepped _ member
        exact member
  | @childGoes before behind child held among unfinished =>
    obtain ⟨c, stepped⟩ := child
    have named := beside (c, stepped) (mem_of_among among)
    have besideNow := forall_mem_replace (b := (c, true)) among beside named
    rcases named with name | name <;> subst name
    · refine .aiming rest besideNow (.inl ⟨true, by simp⟩) ?_
      cases stepped <;> exact same
    · have leaves := (@azimuth_settles p i stepped s.resource).leaves
      refine .aiming rest besideNow ?_ (leaves.hopper.trans same)
      rcases solved with ⟨b, member⟩ | cancelled | solved
      · exact .inl ⟨b, mem_replace among member (by simp)⟩
      · exact .inr (.inl cancelled)
      · exact .inr (.inr (leaves.solved solved))
  | @childFinishes before behind child held among finished =>
    obtain ⟨c, stepped⟩ := child
    have named := beside (c, stepped) (mem_of_among among)
    have besideNow := forall_mem_remove among beside
    rcases named with name | name <;> subst name
    · obtain ⟨-, hopper, solved⟩ := endGetAngle_solved after
      refine .aiming rest besideNow (.inr (solved.imp_left fun asks => ?_)) (hopper.trans ?_)
      · exact Bool.or_eq_true_iff.mpr (.inr asks)
      · cases stepped <;> exact same
    · have leaves := (@azimuth_settles p i stepped s.resource).leaves
      obtain ⟨-, leavesEnd, -⟩ := settling_finish (p := p) (i := i) (c := .deadeyeAzimuth) (by decide)
        ((ShootingCommand.deadeyeAzimuth.member p).step i stepped s.resource).1
      have leaves := leaves.trans leavesEnd
      refine .aiming rest besideNow ?_ (leaves.hopper.trans same)
      rcases solved with ⟨b, member⟩ | cancelled | solved
      · exact .inl ⟨b, mem_remove among member (by simp)⟩
      · exact .inr (.inl (Bool.or_eq_true_iff.mpr (.inl cancelled)))
      · exact .inr (.inr (leaves.solved solved))

theorem turning_change (after : t.resource.isDefined = true) (rest : s.rest = startShooting.drop 6)
    (fresh : s.started = false)
    (beside : ∀ child ∈ s.children, child = (.getAngle, true) ∨ child.1 = .deadeyeAzimuth)
    (solved : (.getAngle, true) ∈ s.children ∨ s.cancelled = true ∨ s.resource.Solved p)
    (same : s.resource.hopper = base.hopper) : Under p givesUp base t := by
  cases change with
  | @dropped before behind child entry later next meets among =>
    rw [rest] at next
    cases next
    obtain ⟨c, stepped⟩ := child
    rcases beside (c, stepped) (mem_of_among among) with angle | name
    · cases angle
      obtain ⟨-, hopper, solved⟩ := endGetAngle_solved after
      refine .turning rest fresh (forall_mem_remove among beside) (.inr ?_) (hopper.trans same)
      exact solved.imp_left fun asks => Bool.or_eq_true_iff.mpr (.inr asks)
    · subst name
      cases meets
  | launched next free =>
    rw [rest] at next
    cases next
    have gone : (.getAngle, true) ∉ s.children := fun member => by cases free _ member
    refine .setting rfl rfl (fun child member => ?_) (by simp) (solved.resolve_left gone) same
    rcases List.mem_append.mp member with old | new
    · rcases beside child old with angle | azimuth
      · exact absurd (angle ▸ old) gone
      · exact .inl azimuth
    · exact .inr (congrArg Prod.fst (List.mem_singleton.mp new))
  | passed next | waits next | goes next | finishes next =>
    rw [rest] at next
    cases next
  | childGoes held | childFinishes held => exact absurd held (unheld rest fresh (by decide))

theorem setting_change (rest : s.rest = startShooting.drop 7) (fresh : s.started = false)
    (beside : ∀ child ∈ s.children, child.1 = .deadeyeAzimuth ∨ child.1 = .setElevation)
    (pending : (.setElevation, false) ∈ s.children)
    (solved : s.cancelled = true ∨ s.resource.Solved p) (same : s.resource.hopper = base.hopper) :
    Under p givesUp base t := by
  cases change with
  | @dropped before behind child entry later next meets among =>
    rw [rest] at next
    cases next
    obtain ⟨c, stepped⟩ := child
    rcases beside (c, stepped) (mem_of_among among) with name | name <;> subst name <;> cases meets
  | launched next free =>
    rw [rest] at next
    cases next
    refine .reaching rfl (fun child member => ?_) (fun _ => .inr (by simp)) solved
      (fun part => .inl ?_) same
    · rcases List.mem_append.mp member with old | new
      · rcases beside child old with name | name <;> rw [name] <;> decide
      · rw [List.mem_singleton.mp new]
        decide
    · cases part with
      | elevation => exact List.mem_append_left _ pending
      | wheel => exact List.mem_append_right _ (List.mem_singleton.mpr rfl)
  | passed next | waits next | goes next | finishes next =>
    rw [rest] at next
    cases next
  | childGoes held | childFinishes held => exact absurd held (unheld rest fresh (by decide))

end

theorem start_last (h : Hopper) (voltage : ℚ) :
    (h.start voltage).talon.last = some (.set (max 0 (min 12 voltage))) := by
  have limited : (if 12 < if voltage < 0 then 0 else voltage then 12
      else if voltage < 0 then 0 else voltage) = max 0 (min 12 voltage) := by
    split_ifs <;> grind
  rw [← limited]
  rfl

/-- The commands after the second wait. -/
def closing : List ShootingCommand := [.startHopper, .shooterLED false]

/-- What the last commands leave, whichever hopper was before. -/
structure Feeds (r t : Shooting) : Prop where
  solved : ∀ {p : Parameters}, r.Solved p → t.Solved p
  reached : ∀ (part : Part) {waits : Prop} {children : List (ShootingCommand × Bool)},
    part.Reached waits r children → part.Reached waits t children
  fed : ∀ {base : Shooting}, r.Fed base → t.Fed base

theorem closing_finish {p : Parameters} {i : Reads} {stepped : Bool} {r : Shooting}
    {c : ShootingCommand} (closes : c ∈ closing) :
    Feeds r ((c.member p).finish i ((c.member p).step i stepped r).1).1 := by
  have parts : ∀ (hopper : Hopper) (shooterLight : Bool) (part : Part) {waits : Prop}
      {children : List (ShootingCommand × Bool)}, part.Reached waits r children →
        part.Reached waits { r with hopper, shooterLight } children := by
    rintro hopper shooterLight (_ | _) waits children ⟨set, there⟩ <;>
      exact ⟨⟨set.command, set.sent⟩, there⟩
  simp only [closing, List.mem_cons, List.not_mem_nil, or_false] at closes
  rcases closes with rfl | rfl
  · cases stepped with
    | true => exact ⟨id, fun _ => id, id⟩
    | false => exact ⟨id, parts _ _, fun _ => .inr (start_last _ _)⟩
  · cases stepped with
    | true => exact ⟨id, fun _ => id, id⟩
    | false => exact ⟨id, parts _ _, id⟩

section
variable {r t : Shooting} {all before behind : List (ShootingCommand × Bool)} {c : ShootingCommand}
  {stepped finished : Bool} (part : Part) (settles : Settles c r t stepped finished)
  (among : all = before ++ (c, stepped) :: behind)
include settles among

/-- A part under a child that goes on, the part's own or another. -/
theorem reached_goes : ((part.command, false) ∈ all →
      (part.command, false) ∈ before ++ (c, true) :: behind ∨
        part.Reached True t (before ++ (c, true) :: behind)) ∧
    ∀ {waits : Prop}, waits → part.Reached waits r all →
      part.Reached waits t (before ++ (c, true) :: behind) := by
  have own : ∀ {waits : Prop}, waits → c = part.command → (stepped = true → part.Set r) →
      part.Reached waits t (before ++ (c, true) :: behind) := by
    intro waits waiting same set
    refine ⟨(settles.sets part same set).1, .inr ⟨waiting, ?_⟩⟩
    rw [← same]
    exact List.mem_append_cons_self
  refine ⟨fun pending => ?_, fun {waits} waiting reached => ?_⟩
  · by_cases same : (part.command, false) = (c, stepped)
    · cases same
      exact .inr (own trivial rfl fun begun => absurd begun Bool.false_ne_true)
    · exact .inl (mem_replace among pending same)
  · by_cases same : c = part.command
    · exact own waiting same fun _ => reached.1
    · obtain ⟨set, there⟩ := settles.keeps part same
      refine ⟨set reached.1, reached.2.imp there fun ⟨waits, member⟩ => ⟨waits, ?_⟩⟩
      exact mem_replace among member fun equal => same (congrArg Prod.fst equal).symm

/-- A part under a child that finishes. -/
theorem reached_finishes (done : finished = true) : ((part.command, false) ∈ all →
      (part.command, false) ∈ before ++ behind ∨ part.Reached True t (before ++ behind)) ∧
    ∀ {waits : Prop}, part.Reached waits r all → part.Reached waits t (before ++ behind) := by
  refine ⟨fun pending => ?_, fun {waits} reached => ?_⟩
  · by_cases same : (part.command, false) = (c, stepped)
    · cases same
      obtain ⟨set, there⟩ := settles.sets part rfl fun begun => absurd begun Bool.false_ne_true
      exact .inr ⟨set, .inl (there done)⟩
    · exact .inl (mem_remove among pending same)
  · by_cases same : c = part.command
    · obtain ⟨set, there⟩ := settles.sets part same fun _ => reached.1
      exact ⟨set, .inl (there done)⟩
    · obtain ⟨set, there⟩ := settles.keeps part same
      refine ⟨set reached.1, reached.2.imp there fun ⟨waits, member⟩ => ⟨waits, ?_⟩⟩
      exact mem_remove among member fun equal => same (congrArg Prod.fst equal).symm

end

section
variable {p : Parameters} {givesUp : Bool} {i : Reads} {base : Shooting} {s t : ShootingState}
  (change : Change (crew p givesUp) i s t) (after : t.resource.isDefined = true)
include change after

theorem reaching_change (rest : s.rest = startShooting.drop 8)
    (beside : ∀ child ∈ s.children, child.1 ∈ settling)
    (halted : s.cancelled = true → s.started = true ∨ s.children ≠ [])
    (solved : s.cancelled = true ∨ s.resource.Solved p)
    (reached : ∀ part : Part, (part.command, false) ∈ s.children ∨
      part.Reached True s.resource s.children)
    (same : s.resource.hopper = base.hopper) : Under p givesUp base t := by
  cases change with
  | dropped next meets =>
    rw [rest] at next
    cases next
    cases meets
  | launched next | goes next | finishes next =>
    rw [rest] at next
    cases next
  | waits next => exact .reaching rest beside (fun _ => .inl rfl) solved reached same
  | passed next resumed due =>
    rw [rest] at next
    cases next
    have stepped : ∀ child ∈ s.children, child.2 = true := by
      rcases due with gone | ⟨started, -⟩
      · simp [gone]
      · exact (resumed started).2
    have going : s.cancelled ≠ true := by
      intro cancelled
      rcases halted cancelled with started | beside
      · exact absurd ((resumed started).1.symm.trans cancelled) Bool.false_ne_true
      · obtain ⟨started, -⟩ := due.resolve_left beside
        exact absurd ((resumed started).1.symm.trans cancelled) Bool.false_ne_true
    refine .feeding (n := 0) rfl beside (fun patient => ?_) (solved.resolve_left going)
      (fun part => ?_) (.inl same)
    · refine due.resolve_right fun ⟨_, expired⟩ => ?_
      rw [crew, patient] at expired
      cases expired
    · have set := (reached part).resolve_left fun pending => absurd (stepped _ pending) Bool.false_ne_true
      refine ⟨set.1, set.2.imp_right fun ⟨_, member⟩ => ⟨?_, member⟩⟩
      rcases due with gone | ⟨-, expired⟩
      · rw [gone] at member
        cases member
      · exact (Bool.and_eq_true_iff.mp expired).1
  | @childGoes before behind child held among unfinished =>
    obtain ⟨c, stepped⟩ := child
    have settles := beside (c, stepped) (mem_of_among among)
    have step := settling_step settles after
    refine .reaching rest (forall_mem_replace among beside settles) (fun cancelled => ?_)
      (solved.imp_right step.leaves.solved) (fun part => ?_) (step.leaves.hopper.trans same)
    · exact .inr (by simp)
    · obtain ⟨pending, kept⟩ := reached_goes part step among
      exact (reached part).elim pending fun set => .inr (kept trivial set)
  | @childFinishes before behind child held among finished =>
    obtain ⟨c, stepped⟩ := child
    have settles := beside (c, stepped) (mem_of_among among)
    have step := settling_ends settles after
    have started : s.started = true := by
      refine held.resolve_left fun past => ?_
      rw [rest] at past
      cases past
    refine .reaching rest (forall_mem_remove among beside) (fun _ => .inl started) ?_
      (fun part => ?_) (step.leaves.hopper.trans same)
    · exact solved.imp (fun cancelled => Bool.or_eq_true_iff.mpr (.inl cancelled)) step.leaves.solved
    · obtain ⟨pending, kept⟩ := reached_finishes part step among finished
      exact (reached part).elim pending fun set => .inr (kept set)

theorem feeding_change {n : ℕ} (rest : s.rest = startShooting.drop (n + 9))
    (beside : ∀ child ∈ s.children, child.1 ∈ settling)
    (patient : givesUp = false → s.children = []) (solved : s.resource.Solved p)
    (reached : ∀ part : Part, part.Reached (givesUp = true) s.resource s.children)
    (fed : s.resource.Fed base) : Under p givesUp base t := by
  have ends : ∀ n, startShooting.drop (n + 2 + 9) = [] := fun n =>
    List.drop_eq_nil_iff.mpr (by simp [startShooting])
  have waits : ∀ {child : ShootingCommand × Bool} {before behind : List (ShootingCommand × Bool)},
      s.children = before ++ child :: behind → givesUp = true := by
    intro child before behind among
    cases wait : givesUp with
    | true => rfl
    | false => simp [patient wait] at among
  cases change with
  | @dropped before behind child entry later next meets among =>
    have settles := beside child (mem_of_among among)
    rw [rest] at next
    rcases n with _ | _ | n
    · cases next
      exact absurd ((settling_free settles).symm.trans meets) Bool.false_ne_true
    · cases next
      cases meets
    · rw [ends] at next
      cases next
  | launched next | passed next | waits next =>
    rw [rest] at next
    rcases n with _ | _ | n
    · cases next
    · cases next
    · rw [ends] at next
      cases next
  | goes next unfinished =>
    rw [rest] at next
    rcases n with _ | _ | n
    · cases next
      cases unfinished
    · cases next
      cases unfinished
    · rw [ends] at next
      cases next
  | finishes next resumed finished =>
    rw [rest] at next
    have kept : ∀ c ∈ closing, Feeds s.resource
        ((c.member p).finish i ((c.member p).step i s.started s.resource).1).1 :=
      fun c closes => closing_finish closes
    rcases n with _ | _ | n
    · cases next
      obtain ⟨solution, parts, hopper⟩ := kept .startHopper (by decide)
      exact .feeding (n := 1) rfl beside patient (solution solved)
        (fun part => parts part (reached part)) (hopper fed)
    · cases next
      obtain ⟨solution, parts, hopper⟩ := kept (.shooterLED false) (by decide)
      exact .feeding (n := 2) rfl beside patient (solution solved)
        (fun part => parts part (reached part)) (hopper fed)
    · rw [ends] at next
      cases next
  | @childGoes before behind child held among unfinished =>
    obtain ⟨c, stepped⟩ := child
    have settles := beside (c, stepped) (mem_of_among among)
    have step := settling_step settles after
    refine .feeding rest (forall_mem_replace among beside settles) (fun patient => ?_)
      (step.leaves.solved solved) (fun part => ?_) (step.leaves.fed fed)
    · exact absurd (patient.symm.trans (waits among)) Bool.false_ne_true
    · exact (reached_goes part step among).2 (waits among) (reached part)
  | @childFinishes before behind child held among finished =>
    obtain ⟨c, stepped⟩ := child
    have settles := beside (c, stepped) (mem_of_among among)
    have step := settling_ends settles after
    refine .feeding rest (forall_mem_remove among beside) (fun patient => ?_)
      (step.leaves.solved solved) (fun part => ?_) (step.leaves.fed fed)
    · exact absurd (patient.symm.trans (waits among)) Bool.false_ne_true
    · exact (reached_finishes part step among finished).2 (reached part)

theorem under_change (under : Under p givesUp base s) : Under p givesUp base t := by
  cases under with
  | preparing few rest alone same => exact preparing_change change few rest alone same
  | beginning rest fresh alone same => exact beginning_change change rest fresh alone same
  | aiming rest beside solved same => exact aiming_change change after rest beside solved same
  | turning rest fresh beside solved same =>
    exact turning_change change after rest fresh beside solved same
  | setting rest fresh beside pending solved same =>
    exact setting_change change rest fresh beside pending solved same
  | reaching rest beside halted solved reached same =>
    exact reaching_change change after rest beside halted solved reached same
  | feeding rest beside patient solved reached fed =>
    exact feeding_change change after rest beside patient solved reached fed

end

/-- How far the sequence has come, unless something was undefined. -/
def Underway (p : Parameters) (givesUp : Bool) (base : Shooting) (s : ShootingState) : Prop :=
  s.resource.isDefined = true → Under p givesUp base s

theorem startShooting_outline (p : Parameters) (givesUp : Bool) :
    Outline (crew p givesUp) startShooting (Underway p givesUp) where
  starts resource _ := .preparing (n := 0) (by omega) rfl rfl rfl
  changes base input s t change holds after :=
    under_change change after (holds (change_defined change after))
  rebase base s holds defined := by
    cases holds defined with
    | preparing few rest alone => exact .preparing few rest alone rfl
    | beginning rest fresh alone => exact .beginning rest fresh alone rfl
    | aiming rest beside solved => exact .aiming rest beside solved rfl
    | turning rest fresh beside solved => exact .turning rest fresh beside solved rfl
    | setting rest fresh beside pending solved => exact .setting rest fresh beside pending solved rfl
    | reaching rest beside halted solved reached =>
      exact .reaching rest beside halted solved reached rfl
    | feeding rest beside patient solved reached =>
      exact .feeding rest beside patient solved reached (.inl rfl)

/-- What is the case when the hopper has just been sent a voltage: it is that of a
valid solution, and what the solution sets was sent it and is there, unless the
second wait was given up. -/
structure Fired (p : Parameters) (givesUp : Bool) (s : ShootingState) : Prop where
  solved : s.resource.Solved p
  voltage : s.resource.hopper.talon.last =
    some (.set (max 0 (min 12 s.resource.solution.hopperVoltage)))
  elevation : s.resource.ElevationSet
  wheel : s.resource.WheelSet
  elevationThere : s.resource.ElevationThere ∨
    givesUp = true ∧ (.setElevation, true) ∈ s.children
  wheelThere : s.resource.WheelThere ∨ givesUp = true ∧ (.setWheel, true) ∈ s.children

/-- The hopper is left alone, or was fed by a shooter that is ready. -/
def FiresReady (runner : Runner) (p : Parameters) (givesUp : Bool) (s : ShootingState)
    (e : ShootingEvent) : Prop :=
  (∀ resource, e ≠ .outside resource) →
    (shootingStep runner p givesUp s e).resource.isDefined = true →
      (shootingStep runner p givesUp s e).resource.hopper = s.resource.hopper ∨
        Fired p givesUp (shootingStep runner p givesUp s e)

section
variable {runner : Runner} {p : Parameters} {givesUp : Bool} {s : ShootingState}

theorem under_fires {base : Shooting} (under : Under p givesUp base s) :
    s.resource.hopper = base.hopper ∨ Fired p givesUp s := by
  cases under with
  | preparing _ _ _ same | beginning _ _ _ same | aiming _ _ _ same => exact .inl same
  | turning _ _ _ _ same | setting _ _ _ _ _ same | reaching _ _ _ _ _ same => exact .inl same
  | feeding _ _ _ solved reached fed =>
    rcases fed with same | sent
    · exact .inl same
    · obtain ⟨elevation, elevationThere⟩ := reached .elevation
      obtain ⟨wheel, wheelThere⟩ := reached .wheel
      exact .inr ⟨solved, sent, elevation, wheel, elevationThere, wheelThere⟩

theorem interrupted_hopper (c : ShootingCommand) (i : Reads) (r : Shooting) :
    ((c.member p).interrupted i r).1.hopper = r.hopper := by
  cases c with
  | getAngle =>
    change (r.endGetAngle p i.elevationAtEnd.toInt).1.hopper = r.hopper
    unfold Shooting.endGetAngle
    split <;> rfl
  | enableCamera | shooterLED | setShooter | deadeyeAzimuth | setElevation | setWheel
  | startHopper => rfl

theorem shooting_effect (lawful : runner.Lawful) (between : Between (Underway p givesUp) s)
    (e : ShootingEvent) :
    Effect (crew p givesUp) startShooting s e (shootingStep runner p givesUp s e) :=
  lawful.effect (crew p givesUp) startShooting s e fun running going => (between running going).2

theorem fires_ready (lawful : runner.Lawful) (between : Between (Underway p givesUp) s)
    (e : ShootingEvent) : FiresReady runner p givesUp s e := by
  intro inside defined
  have effect := shooting_effect lawful between e
  generalize shootingStep runner p givesUp s e = t at effect defined
  cases effect with
  | stays | starts | cancels => exact .inl rfl
  | ticks running going input ticked =>
    have holds := (startShooting_outline p givesUp).ticked between running going ticked
    rcases under_fires (holds defined) with same | fired
    · exact .inl same
    · exact .inr ⟨fired.solved, fired.voltage, fired.elevation, fired.wheel, fired.elevationThere,
        fired.wheelThere⟩
  | closes running _ input closed =>
    exact .inl (closed.invariant (P := fun r => r.hopper = s.resource.hopper)
      (fun c i r same => (interrupted_hopper c i r).trans same) rfl)
  | outside free resource => exact absurd rfl (inside resource)

end

/-- Whichever library runs the sequence by the rules, the hopper is fed only by a
shooter that is ready. -/
theorem startShooting_fires_ready (runner : Runner) (lawful : runner.Lawful) (p : Parameters)
    (givesUp : Bool) (resource : Shooting) (events : List ShootingEvent) :
    Along (shootingStep runner p givesUp) (FiresReady runner p givesUp) (.idle resource) events :=
  along_of_invariant
    (fun _ e between => (startShooting_outline p givesUp).effect between
      (shooting_effect lawful between e))
    (fun _ e between => fires_ready lawful between e)
    (fun running => by cases running) events

/-- Exact along the axes and at half a right angle. -/
def onAxes : Parameters where
  platform :=
    { libm :=
        { sqrt := fun x => Nat.sqrt x.num.toNat / Nat.sqrt x.den
          atan2Degrees := fun y x =>
            if 0 < y then 90 else if y < 0 then -90 else if x < 0 then 180 else 0
          sqrt_nonneg := fun x => by positivity
          atan2_range := fun y x => by split_ifs <;> norm_num }
      cmath :=
        { cosDegrees := fun angle => if angle = 0 then 1 else if |angle| = 180 then -1 else 0
          sinDegrees := fun angle =>
            if angle = 0 ∨ |angle| = 180 then 0 else if angle < 0 then -1 else 1
          pow := fun base exponent => base ^ exponent.num
          unit := fun angle => by split_ifs <;> simp_all }
      driveAutonSettings := ⟨.velocity, 400, by norm_num⟩
      driveAzimuthSettings := ⟨.velocity, 275, by norm_num⟩ }
  trigonometry := ⟨fun x => 4 * 113 / 355 * x, 355 / 113⟩
  ballistics := ⟨0, 80, 0, 45, 15, 9⟩
  table := ⟨List.replicate 169 ⟨0, 1000, 500, 5, 0⟩, 72⟩

/-- The drive at power-on, its wheels 15 inches from its center. -/
def standing : Swerve.SwerveDrive ℚ :=
  .initial onAxes.platform.libm
    { wheelbaseWidth := 24, wheelbaseLength := 18, shooterRotationPoint := ⟨0, 0⟩
      width_pos := by norm_num, length_pos := by norm_num, off_wheels := by decide +kernel } 0.08 12

def atRest : Shooting where
  toJetson := []
  shooterLight := false
  wheel := {}
  ranging := ⟨{}, ⟨false, 0, 0, 0, 0, 0⟩⟩
  aiming := ⟨.deadeyeAzimuth ⟨false, 0, 0, 0, 0⟩, standing, ⟨0, 0⟩⟩
  solution := ⟨0, 0, 0, 0, 0⟩
  setElevation := ⟨0⟩
  setWheel := ⟨0⟩
  hopper := {}
  measured := none
  elevationRead := none
  speedRead := none
  isDefined := true

/-- The boiler straight ahead, at 90 inches, and the shooter as its row has it. -/
def inSight : Reads where
  centerlineError := 0
  sight := ⟨true, 0, true⟩
  elevationAtEnd := 0
  azimuth := ⟨true, 0, 0, 0, true, 0, ⟨0, 0⟩, ⟨0, 0⟩, false, true, 0, 0⟩
  elevation := 1000
  speed := 500
  timeUp := false

/-- Two sequences: the hopper runs after the first, and the other is cancelled. -/
def twoShots : List ShootingEvent :=
  .start :: List.replicate 5 (.signal (.tick inSight)) ++
    [.start, .signal (.tick inSight), .signal .cancel, .signal (.tick inSight)]

theorem startShooting_fires_ready_twice :
    Along (shootingStep entryByEntry onAxes false) (FiresReady entryByEntry onAxes false)
        (.idle atRest) twoShots ∧
      (run (shootingStep entryByEntry onAxes false) (.idle atRest)
        (twoShots.take 6)).resource.hopper.isRunning = true :=
  ⟨startShooting_fires_ready entryByEntry entryByEntry_lawful onAxes false atRest twoShots,
    by decide +kernel⟩

end Steamworks.Shooter
