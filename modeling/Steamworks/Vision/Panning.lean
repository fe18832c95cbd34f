import Steamworks.Vision.BoilerFrame

/-! Turning the camera. Where every contour of a frame moves by the same number
of pixels, the same contours are selected, and what is reported moves by that:
what the robot turns by is what its error falls by. -/
namespace Steamworks.Vision

variable {C K : Type*} [Field K] [LinearOrder K] {dx dy : ℤ}

def Rect.pan (dx dy : ℤ) (rect : Rect) : Rect := { rect with x := rect.x + dx, y := rect.y + dy }

def Outlines.pan (dx dy : ℤ) (cv : Outlines C K) : Outlines C K :=
  { cv with boundingRect := fun contour => (cv.boundingRect contour).pan dx dy }

def OpenCV.pan (dx dy : ℤ) (cv : OpenCV C K) : OpenCV C K :=
  { cv with boundingRect := fun contour => (cv.boundingRect contour).pan dx dy }

theorem center_pan (rect : Rect) : (rect.pan dx dy).center = rect.center + dx := by
  simp only [Rect.center, Rect.pan]
  ring

section Boiler
variable {f : BoilerFrame C K} {cv : Outlines C K} {t u : Targets}

/-- The loop on the moved contours found the same, within moved limits. -/
structure Panned (dx : ℤ) (t u : Targets) : Prop where
  targetIdx : u.targetIdx = t.targetIdx
  found : u.found = t.found
  counted : t.targetIdx.length = t.found
  few : t.found ≤ 2
  limits : t.found ≠ 0 → u.limLeft = t.limLeft + dx ∧ u.limRight = t.limRight + dx

theorem accept_panned (panned : Panned dx t u) (more : t.found ≠ 2) (i : ℕ) (rect : Rect) :
    Panned dx (BoilerFrame.accept i rect t) (BoilerFrame.accept i (rect.pan dx dy) u) := by
  obtain ⟨targetIdx, found, counted, few, limits⟩ := panned
  rcases Nat.eq_zero_or_pos t.found with none | some
  · rw [accept_upper rect none, accept_upper (rect.pan dx dy) (found.trans none)]
    refine ⟨by rw [targetIdx], rfl, by simp [counted, none], by simp, fun _ => ⟨rfl, ?_⟩⟩
    simp only [Rect.pan]
    ring
  · have one : t.found = 1 := by omega
    obtain ⟨left, right⟩ := limits (by omega)
    have outside : (rect.pan dx dy).center < u.limLeft ∨ u.limRight < (rect.pan dx dy).center ↔
        rect.center < t.limLeft ∨ t.limRight < rect.center := by
      rw [center_pan, left, right]
      omega
    simp only [BoilerFrame.accept, found, one, one_ne_zero, beq_iff_eq, if_false, true_and, outside]
    split_ifs
    · exact ⟨targetIdx, found, counted, few, limits⟩
    · refine ⟨by simp only [targetIdx], rfl, by simp [counted, one], le_refl 2, fun _ => ⟨left, right⟩⟩

theorem scan_panned (f : BoilerFrame C K) (cv : Outlines C K) (dy : ℤ) (panned : Panned dx t u)
    (i : ℕ) (contours : List C) :
    Panned dx (f.scan cv i contours t) (f.scan (cv.pan dx dy) i contours u) := by
  induction contours generalizing i t u with
  | nil => exact panned
  | cons contour rest ih =>
    by_cases two : t.found = 2
    · rw [scan_two two, scan_two (panned.found.trans two)]
      exact panned
    · rw [scan_cons two, scan_cons (panned.found.trans_ne two)]
      have same : f.qualifies (cv.pan dx dy) contour = f.qualifies cv contour := rfl
      rw [same]
      cases f.qualifies cv contour with
      | true => exact ih (accept_panned panned two i _) (i + 1)
      | false => exact ih panned (i + 1)

/-- What `ProcessFrame` leaves: the selected contours, the errors, its result. -/
def BoilerFrame.outcome (result : BoilerFrame C K × (ℤ × ℤ) × Bool) : C × C × (ℤ × ℤ) × Bool :=
  (result.1.upperContour, result.1.lowerContour, result.2)

/-- Errors that were found anew move with the contours. -/
def panErrors (dx dy : ℤ) : (ℤ × ℤ) × Bool → (ℤ × ℤ) × Bool
  | (errors, found) => (if found then (errors.1 - dx, errors.2 + dy) else errors, found)

/-- Rows are counted from the top of the image, so the sum of two is not negative. -/
theorem centerline_pan {lower upper : ℤ} (lowerInside : 0 ≤ lower ∧ 0 ≤ lower + dy)
    (upperInside : 0 ≤ upper ∧ 0 ≤ upper + dy) :
    ((lower + dy) + (upper + dy)).tdiv 2 = (lower + upper).tdiv 2 + dy := by
  rw [Int.tdiv_eq_ediv_of_nonneg (by omega), Int.tdiv_eq_ediv_of_nonneg (by omega)]
  omega

omit [Field K] [LinearOrder K] in
theorem report_pan (f : BoilerFrame C K) (rows cols dx : ℤ) {upper lower : C}
    (upperInside : 0 ≤ (cv.boundingRect upper).y ∧ 0 ≤ (cv.boundingRect upper).y + dy)
    (lowerInside : 0 ≤ (cv.boundingRect lower).y ∧ 0 ≤ (cv.boundingRect lower).y + dy) :
    let still := ((f.setUpper cv upper).setLower cv lower).report rows cols
    let moved := ((f.setUpper (cv.pan dx dy) upper).setLower (cv.pan dx dy) lower).report rows cols
    moved.azimuthError = still.azimuthError - dx ∧
      moved.centerlineError = still.centerlineError + dy := by
  simp only [BoilerFrame.report, BoilerFrame.setUpper, BoilerFrame.setLower, Outlines.pan, Rect.pan]
  constructor
  · ring
  · rw [centerline_pan lowerInside upperInside]
    ring

/-- Over every list of contours that are in the image before and after. -/
theorem boiler_pans (f : BoilerFrame C K) (cv : Outlines C K)
    (rows cols limLeft limRight limLeft' limRight' : ℤ) (contours : List C) (errors : ℤ × ℤ)
    (inside : ∀ contour ∈ contours,
      0 ≤ (cv.boundingRect contour).y ∧ 0 ≤ (cv.boundingRect contour).y + dy) :
    (processBoilerFrame f (cv.pan dx dy) rows cols limLeft' limRight' contours errors).map
        BoilerFrame.outcome =
      (processBoilerFrame f cv rows cols limLeft limRight contours errors).map fun result =>
        (result.1.upperContour, result.1.lowerContour, panErrors dx dy result.2) := by
  have start : Panned dx ⟨[], 0, limLeft, limRight⟩ ⟨[], 0, limLeft', limRight'⟩ :=
    ⟨rfl, rfl, rfl, by simp, fun some => absurd rfl some⟩
  have panned := scan_panned f cv dy start 0 contours
  unfold processBoilerFrame BoilerFrame.findTargets
  rw [panned.targetIdx]
  have few := panned.few
  rw [← panned.counted] at few
  match indices : (f.scan cv 0 contours ⟨[], 0, limLeft, limRight⟩).targetIdx with
  | [] => rfl
  | [j] =>
    dsimp only
    cases contours[j]? <;> rfl
  | [j, k] =>
    dsimp only
    cases first : contours[j]? with
    | none => rfl
    | some upper =>
      cases second : contours[k]? with
      | none => rfl
      | some lower =>
        obtain ⟨azimuth, centerline⟩ := report_pan f rows cols dx
          (inside upper (List.mem_of_getElem? first)) (inside lower (List.mem_of_getElem? second))
        simp only [Option.bind_some, Option.map_some, if_true, BoilerFrame.outcome, panErrors,
          azimuth, centerline]
        rfl
  | _ :: _ :: _ :: _ =>
    rw [indices] at few
    simp at few

/-- Two contours of six by two pixels, the lower one ten rows below. -/
def twoTargets : Outlines Bool ℚ where
  boundingRect lower := ⟨20, if lower then 30 else 20, 6, 2⟩
  arcLength _ := 16

theorem boiler_pans_left :
    let f : BoilerFrame Bool ℚ := ⟨false, false, ⟨0, 0, 0, 0⟩, ⟨0, 0, 0, 0⟩, 0, 0, 10, 1, 5⟩
    (processBoilerFrame f (twoTargets.pan (-3) 4) 48 64 0 0 [false, true] (0, 0)).map
        BoilerFrame.outcome =
      (processBoilerFrame f twoTargets 48 64 0 0 [false, true] (0, 0)).map fun result =>
        (result.1.upperContour, result.1.lowerContour, panErrors (-3) 4 result.2) := by
  intro f
  apply boiler_pans f twoTargets 48 64 0 0 0 0 [false, true] (0, 0)
  intro contour _
  cases contour <;> decide

end Boiler

section Gear
variable {cv : OpenCV C K} {contours : List C}

def Accepted.pan (dx dy : ℤ) (accepted : Accepted) : Accepted :=
  { accepted with targetRects := accepted.targetRects.map (Rect.pan dx dy) }

theorem scan_pan (dx dy : ℤ) (cv : OpenCV C K) (contours : List C) :
    (cv.pan dx dy).scan 0 contours {} = (cv.scan 0 contours {}).pan dx dy := by
  have hits : (cv.pan dx dy).hits 0 contours = cv.hits 0 contours := rfl
  rw [scan_accepted, scan_accepted, hits, Accepted.pan, List.map_map]
  rfl

theorem target_pan (accepted : Accepted) (contours : List C) (j : ℕ) :
    (accepted.pan dx dy).target contours j =
      (accepted.target contours j).map fun target => (target.1, target.2.pan dx dy) := by
  have rects : ∀ i, (accepted.pan dx dy).targetRects[i]? =
      accepted.targetRects[i]?.map (Rect.pan dx dy) := fun i => List.getElem?_map
  have indices : (accepted.pan dx dy).targetIdx = accepted.targetIdx := rfl
  unfold Accepted.target
  rw [indices]
  cases accepted.targetIdx[j]? with
  | none => rfl
  | some i =>
    simp only [Option.bind_some, rects]
    cases contours[i]? with
    | none => rfl
    | some contour => cases accepted.targetRects[i]? <;> rfl

/-- What `FindTargets` leaves: its result, the contours and what is reported. -/
def GearFrame.outcome (result : GearFrame C × Bool) : Bool × C × C × Bool × ℤ × ℤ × ℤ :=
  (result.2, result.1.leftContour, result.1.rightContour, result.1.hasLeftTarget,
    result.1.azimuthError, result.1.targetHeight, result.1.targetWidth)

/-- The same, with an azimuth error found anew moved by so much. -/
def GearFrame.outcomePanned (dx : ℤ) (result : GearFrame C × Bool) :
    Bool × C × C × Bool × ℤ × ℤ × ℤ :=
  (result.2, result.1.leftContour, result.1.rightContour, result.1.hasLeftTarget,
    if result.2 then result.1.azimuthError - dx else result.1.azimuthError,
    result.1.targetHeight, result.1.targetWidth)

omit [Field K] [LinearOrder K] in
theorem report_outcome {g h : GearFrame C} (left : h.leftContour = g.leftContour)
    (right : h.rightContour = g.rightContour) (both : h.hasLeftTarget = g.hasLeftTarget)
    (offset : h.azimuthOffset = g.azimuthOffset) (rect : h.rightRect = g.rightRect.pan dx dy) :
    GearFrame.outcome (h.report, true) = GearFrame.outcomePanned dx (g.report, true) := by
  have azimuth : ∀ offset x half : ℤ, offset - (x + dx) - half = offset - x - half - dx := by
    intro offset x half
    ring
  simp only [GearFrame.outcome, GearFrame.outcomePanned, GearFrame.report, offset, azimuth, left,
    right, both, rect, Rect.pan, if_true]

/-- Over every list of contours, also where the rectangle of one of them is read
from a position that does not exist: then it is in both. -/
theorem gear_pans (dx dy : ℤ) (cv : OpenCV C K) (f : GearFrame C) (contours : List C) :
    (f.findTargets (cv.pan dx dy) contours).map GearFrame.outcome =
      (f.findTargets cv contours).map (GearFrame.outcomePanned dx) := by
  have counted : (cv.scan 0 contours {}).targetIdx.length =
      (cv.scan 0 contours {}).targetRects.length := by
    rw [scan_accepted, List.length_map, List.length_map]
  have few : (cv.scan 0 contours {}).targetIdx.length ≤ 2 := by
    rw [scan_accepted, List.length_map, List.length_take]
    exact min_le_left _ _
  match number : (cv.scan 0 contours {}).targetIdx.length with
  | 0 =>
    have moved : ((cv.pan dx dy).scan 0 contours {}).targetIdx.length = 0 := by
      rw [scan_pan]
      exact number
    simp only [GearFrame.findTargets, number, moved, if_true, Option.map_some]
    rfl
  | 1 =>
    have moved : ((cv.pan dx dy).scan 0 contours {}).targetIdx.length = 1 := by
      rw [scan_pan]
      exact number
    rw [findTargets_one f number, findTargets_one f moved, scan_pan, target_pan]
    cases (cv.scan 0 contours {}).target contours 0 with
    | none => rfl
    | some right =>
      simp only [Option.map_some, Option.some.injEq]
      exact report_outcome rfl rfl rfl rfl rfl
  | 2 =>
    obtain ⟨left, right, rects⟩ := List.length_eq_two.mp (counted.symm.trans number)
    have moved : ((cv.pan dx dy).scan 0 contours {}).targetIdx.length = 2 := by
      rw [scan_pan]
      exact number
    have movedRects : ((cv.pan dx dy).scan 0 contours {}).targetRects =
        [left.pan dx dy, right.pan dx dy] := by
      rw [scan_pan, Accepted.pan, rects]
      rfl
    have order : (right.pan dx dy).x < (left.pan dx dy).x ↔ right.x < left.x := by
      simp only [Rect.pan]
      omega
    rw [findTargets_two f number rects, findTargets_two f moved movedRects, scan_pan, target_pan,
      target_pan]
    cases (cv.scan 0 contours {}).target contours 0 with
    | none => rfl
    | some larger =>
      cases (cv.scan 0 contours {}).target contours 1 with
      | none => rfl
      | some smaller =>
        simp only [Option.map_some, Option.bind_some, order, Option.some.injEq]
        split_ifs
        · exact report_outcome rfl rfl rfl rfl rfl
        · exact report_outcome rfl rfl rfl rfl rfl
  | n + 3 => omega

end Gear

end Steamworks.Vision
