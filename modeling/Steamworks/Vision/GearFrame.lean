import Steamworks.Library.Remainder

/-! The gear camera's target selection, on the contours of a frame in the order
they were sorted in. It keeps the accepted rectangles in a list of their own but
looks them up by the contours' positions. -/
namespace Steamworks.Vision

structure Rect where
  x : ℤ
  y : ℤ
  width : ℤ
  height : ℤ
  deriving DecidableEq

/-- What is asked of a contour; a cleared one is empty. -/
structure OpenCV (C K : Type*) where
  boundingRect : C → Rect
  contourArea : C → K
  empty : C

variable {C K : Type*} [Field K] [LinearOrder K]

structure GearFrame (C : Type*) where
  leftContour : C
  rightContour : C
  leftRect : Rect
  rightRect : Rect
  hasLeftTarget : Bool
  azimuthError : ℤ
  targetHeight : ℤ
  targetWidth : ℤ
  azimuthOffset : ℤ

structure Accepted where
  targetIdx : List ℕ := []
  targetRects : List Rect := []
  found : ℕ := 0

def OpenCV.qualifies (cv : OpenCV C K) (contour : C) : Bool := decide (300 < cv.contourArea contour)

/-- The loop over the contours from position `i`, left once two are found. -/
def OpenCV.scan (cv : OpenCV C K) : ℕ → List C → Accepted → Accepted
  | _, [], accepted => accepted
  | i, contour :: rest, accepted =>
    if accepted.found == 2 then accepted
    else if cv.qualifies contour then
      cv.scan (i + 1) rest
        { targetIdx := accepted.targetIdx ++ [i]
          targetRects := accepted.targetRects ++ [cv.boundingRect contour]
          found := accepted.found + 1 }
    else cv.scan (i + 1) rest accepted

/-- `contours[target_idx[j]]` and `target_rects[target_idx[j]]`; nothing where one
of these positions does not exist. -/
def Accepted.target (accepted : Accepted) (contours : List C) (j : ℕ) : Option (C × Rect) :=
  accepted.targetIdx[j]?.bind fun i =>
    contours[i]?.bind fun contour => accepted.targetRects[i]?.map fun rect => (contour, rect)

namespace GearFrame

def setLeft (f : GearFrame C) (target : C × Rect) : GearFrame C :=
  { f with leftContour := target.1, leftRect := target.2 }

def setRight (f : GearFrame C) (target : C × Rect) : GearFrame C :=
  { f with rightContour := target.1, rightRect := target.2 }

def report (f : GearFrame C) : GearFrame C :=
  { f with
    azimuthError := f.azimuthOffset - f.rightRect.x - f.rightRect.width.tdiv 2
    targetHeight := f.rightRect.height
    targetWidth := f.rightRect.width }

/-- The members once the targets are assigned; nothing where that is undefined. -/
def assign (f : GearFrame C) (contours : List C) (accepted : Accepted) : Option (GearFrame C) :=
  match accepted.targetIdx.length with
  | 1 => (accepted.target contours 0).map fun right =>
      { f with hasLeftTarget := false }.setRight right
  | 2 =>
    let f := { f with hasLeftTarget := true }
    accepted.targetRects[0]?.bind fun first =>
      accepted.targetRects[1]?.bind fun second =>
        (accepted.target contours 0).bind fun larger =>
          (accepted.target contours 1).map fun smaller =>
            if second.x < first.x then (f.setRight larger).setLeft smaller
            else (f.setLeft larger).setRight smaller
  | _ => some f

def findTargets (cv : OpenCV C K) (f : GearFrame C) (contours : List C) :
    Option (GearFrame C × Bool) :=
  let f := { f with leftContour := cv.empty, rightContour := cv.empty }
  let accepted := cv.scan 0 contours {}
  if accepted.targetIdx.length = 0 then some (f, false)
  else (f.assign contours accepted).map fun f => (f.report, true)

end GearFrame

/-- The frame's members are those of the right target. -/
structure Reports (cv : OpenCV C K) (f : GearFrame C) (right : C) : Prop where
  contour : f.rightContour = right
  rect : f.rightRect = cv.boundingRect right
  azimuthError : f.azimuthError =
    f.azimuthOffset - (cv.boundingRect right).x - (cv.boundingRect right).width.tdiv 2
  targetHeight : f.targetHeight = (cv.boundingRect right).height
  targetWidth : f.targetWidth = (cv.boundingRect right).width

structure Pairs (cv : OpenCV C K) (f : GearFrame C) (left right : C) : Prop where
  hasLeftTarget : f.hasLeftTarget = true
  contour : f.leftContour = left
  rect : f.leftRect = cv.boundingRect left
  ordered : (cv.boundingRect left).x ≤ (cv.boundingRect right).x
  reports : Reports cv f right

/-- What the qualifying contours, in their order, should come to. While there is no
left target, nothing is asked of the contour and the rectangle kept for one. -/
def Selects (cv : OpenCV C K) (f : GearFrame C) (contours : List C) : Prop :=
  match contours.filter cv.qualifies with
  | [] => ∃ after, f.findTargets cv contours = some (after, false)
  | [only] => ∃ after, f.findTargets cv contours = some (after, true) ∧
      after.hasLeftTarget = false ∧ Reports cv after only
  | first :: second :: _ => ∃ after, f.findTargets cv contours = some (after, true) ∧
      (Pairs cv after first second ∨ Pairs cv after second first)

/-- No rejected contour comes before one that is selected. -/
def Leading (cv : OpenCV C K) (contours : List C) : Prop :=
  ∀ contour ∈ contours.take (min 2 (contours.filter cv.qualifies).length),
    cv.qualifies contour = true

/-- The qualifying contours with their positions. -/
def OpenCV.hits (cv : OpenCV C K) (i : ℕ) (contours : List C) : List (C × ℕ) :=
  (contours.zipIdx i).filter fun hit => cv.qualifies hit.1

theorem hits_cons (cv : OpenCV C K) (i : ℕ) (contour : C) (rest : List C) :
    cv.hits i (contour :: rest) =
      if cv.qualifies contour then (contour, i) :: cv.hits (i + 1) rest else cv.hits (i + 1) rest := by
  rw [OpenCV.hits, List.zipIdx_cons, List.filter_cons]
  rfl

theorem hits_fst (cv : OpenCV C K) (i : ℕ) (contours : List C) :
    (cv.hits i contours).map Prod.fst = contours.filter cv.qualifies := by
  induction contours generalizing i with
  | nil => rfl
  | cons contour rest ih =>
    rw [hits_cons, List.filter_cons]
    split_ifs
    · rw [List.map_cons, ih]
    · exact ih (i + 1)

theorem hits_getElem (cv : OpenCV C K) {contours : List C} {contour : C} {i : ℕ}
    (hit : (contour, i) ∈ cv.hits 0 contours) : contours[i]? = some contour :=
  List.mk_mem_zipIdx_iff_getElem?.mp (List.mem_filter.mp hit).1

theorem hits_rising (cv : OpenCV C K) (contours : List C) :
    (cv.hits 0 contours).Pairwise fun a b => a.2 < b.2 := by
  apply List.Pairwise.filter
  apply List.pairwise_map.mp
  rw [List.zipIdx_map_snd]
  exact List.pairwise_lt_range'

/-- The loop accepts what is left to find of the qualifying contours. -/
theorem scan_eq (cv : OpenCV C K) (contours : List C) (i : ℕ) (accepted : Accepted)
    (few : accepted.found ≤ 2) :
    let hits := (cv.hits i contours).take (2 - accepted.found)
    cv.scan i contours accepted =
      { targetIdx := accepted.targetIdx ++ hits.map Prod.snd
        targetRects := accepted.targetRects ++ hits.map fun hit => cv.boundingRect hit.1
        found := accepted.found + hits.length } := by
  induction contours generalizing i accepted with
  | nil => simp [OpenCV.scan, OpenCV.hits]
  | cons contour rest ih =>
    rw [OpenCV.scan, hits_cons]
    by_cases full : accepted.found = 2
    · simp only [full, beq_self_eq_true, if_true, Nat.sub_self, List.take_zero, List.map_nil,
        List.append_nil, List.length_nil, Nat.add_zero]
      rw [← full]
    · obtain ⟨left, some⟩ : ∃ left, 2 - accepted.found = left + 1 := ⟨1 - accepted.found, by omega⟩
      simp only [beq_iff_eq, full, if_false, some]
      split_ifs with qualifies
      · rw [ih (i + 1) _ (by dsimp only; omega)]
        have less : 2 - (accepted.found + 1) = left := by omega
        simp [less, Nat.add_assoc, Nat.add_comm 1]
      · rw [ih (i + 1) accepted few, some]

theorem mem_hits_le {cv : OpenCV C K} {contours : List C} {i : ℕ} {hit : C × ℕ}
    (member : hit ∈ cv.hits i contours) : i ≤ hit.2 :=
  List.le_snd_of_mem_zipIdx (List.mem_filter.mp member).1

/-- The first contours all qualify when their positions are those of the hits. -/
theorem leading_positions (cv : OpenCV C K) (contours : List C) (i m : ℕ)
    (enough : m ≤ (cv.hits i contours).length) :
    (∀ contour ∈ contours.take m, cv.qualifies contour = true) ↔
      ((cv.hits i contours).map Prod.snd).take m = List.range' i m := by
  induction contours generalizing i m with
  | nil =>
    obtain rfl : m = 0 := by simpa [OpenCV.hits] using enough
    simp
  | cons contour rest ih =>
    cases m with
    | zero => simp
    | succ m =>
      rw [hits_cons] at enough ⊢
      split_ifs at enough ⊢ with qualifies
      · have later := ih (i + 1) m (by simpa using enough)
        simp [List.range'_succ, qualifies, later]
      · refine iff_of_false (fun leading => qualifies (leading contour List.mem_cons_self)) ?_
        -- the first hit is past the rejected contour
        cases hits : cv.hits (i + 1) rest with
        | nil => simp [hits] at enough
        | cons hit more =>
          have after : i + 1 ≤ hit.2 := mem_hits_le (hits ▸ List.mem_cons_self)
          simp only [List.map_cons, List.take_succ_cons, List.range'_succ, List.cons.injEq]
          omega

theorem target_hit (accepted : Accepted) {contours : List C} {contour : C} {i j : ℕ}
    (listed : accepted.targetIdx[j]? = some i) (present : contours[i]? = some contour) :
    accepted.target contours j = accepted.targetRects[i]?.map fun rect => (contour, rect) := by
  rw [Accepted.target, listed, Option.bind_some, present, Option.bind_some]

theorem leading_iff (cv : OpenCV C K) (contours : List C) : Leading cv contours ↔
    ((cv.hits 0 contours).map Prod.snd).take 2 =
      List.range' 0 (min 2 (cv.hits 0 contours).length) := by
  rw [Leading, ← hits_fst cv 0, List.length_map,
    leading_positions cv contours 0 _ (min_le_right _ _)]
  have cut : ((cv.hits 0 contours).map Prod.snd).take (min 2 (cv.hits 0 contours).length) =
      ((cv.hits 0 contours).map Prod.snd).take 2 := by
    rw [List.take_eq_take_iff]
    simp
  rw [cut]

theorem scan_accepted (cv : OpenCV C K) (contours : List C) : cv.scan 0 contours {} =
    { targetIdx := ((cv.hits 0 contours).take 2).map Prod.snd
      targetRects := ((cv.hits 0 contours).take 2).map fun hit => cv.boundingRect hit.1
      found := ((cv.hits 0 contours).take 2).length } := by
  simpa using scan_eq cv contours 0 {} (by decide)

variable {cv : OpenCV C K} {contours : List C} {first second : C} {i j : ℕ}

def GearFrame.cleared (cv : OpenCV C K) (f : GearFrame C) (hasLeftTarget : Bool) : GearFrame C :=
  { f with leftContour := cv.empty, rightContour := cv.empty, hasLeftTarget := hasLeftTarget }

theorem findTargets_one (f : GearFrame C) (one : (cv.scan 0 contours {}).targetIdx.length = 1) :
    f.findTargets cv contours = ((cv.scan 0 contours {}).target contours 0).map fun right =>
      (((f.cleared cv false).setRight right).report, true) := by
  simp only [GearFrame.findTargets, GearFrame.assign, one, Nat.one_ne_zero, if_false, Option.map_map]
  rfl

theorem findTargets_two (f : GearFrame C) {left right : Rect}
    (two : (cv.scan 0 contours {}).targetIdx.length = 2)
    (rects : (cv.scan 0 contours {}).targetRects = [left, right]) :
    f.findTargets cv contours = ((cv.scan 0 contours {}).target contours 0).bind fun larger =>
      ((cv.scan 0 contours {}).target contours 1).map fun smaller =>
        ((if right.x < left.x then ((f.cleared cv true).setRight larger).setLeft smaller
          else ((f.cleared cv true).setLeft larger).setRight smaller).report, true) := by
  simp only [GearFrame.findTargets, GearFrame.assign, two, rects, OfNat.ofNat_ne_zero, if_false,
    List.getElem?_cons_zero, List.getElem?_cons_succ, Option.bind_some]
  cases (cv.scan 0 contours {}).target contours 0 with
  | none => rfl
  | some larger => cases (cv.scan 0 contours {}).target contours 1 <;> rfl

theorem selects_none (f : GearFrame C) (hits : cv.hits 0 contours = []) : Selects cv f contours := by
  have none : contours.filter cv.qualifies = [] := by rw [← hits_fst cv 0, hits, List.map_nil]
  have accepted := scan_accepted cv contours
  rw [hits] at accepted
  rw [Selects, none]
  refine ⟨{ f with leftContour := cv.empty, rightContour := cv.empty }, ?_⟩
  rw [GearFrame.findTargets, accepted]
  rfl

/-- A single target is looked up at its position, but has the only rectangle. -/
theorem selects_one (f : GearFrame C) (hits : cv.hits 0 contours = [(first, i)]) :
    Selects cv f contours ↔ i = 0 := by
  have one : contours.filter cv.qualifies = [first] := by rw [← hits_fst cv 0, hits]; rfl
  have present : contours[i]? = some first := hits_getElem cv (hits ▸ List.mem_singleton.mpr rfl)
  have accepted := scan_accepted cv contours
  rw [hits] at accepted
  have target := target_hit (cv.scan 0 contours {}) (j := 0) (by rw [accepted]; rfl) present
  rw [Selects, one]
  dsimp only
  rw [findTargets_one f (by rw [accepted]; rfl), target, accepted]
  constructor
  · rintro ⟨after, selected, _⟩
    by_contra later
    obtain ⟨k, rfl⟩ := Nat.exists_eq_succ_of_ne_zero later
    cases selected
  · rintro rfl
    exact ⟨_, rfl, rfl, rfl, rfl, rfl, rfl, rfl⟩

/-- Two targets are looked up at their positions, but have the only rectangles. -/
theorem selects_two (f : GearFrame C) {more : List (C × ℕ)}
    (hits : cv.hits 0 contours = (first, i) :: (second, j) :: more) :
    Selects cv f contours ↔ i = 0 ∧ j = 1 := by
  have two : contours.filter cv.qualifies = first :: second :: more.map Prod.fst := by
    rw [← hits_fst cv 0, hits]
    rfl
  have presentFirst : contours[i]? = some first := by
    apply hits_getElem cv
    simp [hits]
  have presentSecond : contours[j]? = some second := by
    apply hits_getElem cv
    simp [hits]
  have rising : i < j := by
    have pairs := hits_rising cv contours
    rw [hits] at pairs
    exact List.rel_of_pairwise_cons pairs List.mem_cons_self
  have accepted := scan_accepted cv contours
  rw [hits] at accepted
  have targetFirst := target_hit (cv.scan 0 contours {}) (j := 0) (by rw [accepted]; rfl)
    presentFirst
  have targetSecond := target_hit (cv.scan 0 contours {}) (j := 1) (by rw [accepted]; rfl)
    presentSecond
  rw [Selects, two]
  dsimp only
  rw [findTargets_two f (by rw [accepted]; rfl) (by rw [accepted]; rfl), targetFirst, targetSecond,
    accepted]
  constructor
  · rintro ⟨after, selected, _⟩
    by_contra later
    have past : [cv.boundingRect first, cv.boundingRect second][j]? = none :=
      List.getElem?_eq_none (by simp only [List.length_cons, List.length_nil]; omega)
    simp [past] at selected
  · rintro ⟨rfl, rfl⟩
    by_cases swapped : (cv.boundingRect second).x < (cv.boundingRect first).x
    · refine ⟨_, by simp [swapped]; rfl, .inr ⟨rfl, rfl, rfl, swapped.le, rfl, rfl, rfl, rfl, rfl⟩⟩
    · refine ⟨_, by simp [swapped]; rfl,
        .inl ⟨rfl, rfl, rfl, not_lt.mp swapped, rfl, rfl, rfl, rfl, rfl⟩⟩

/-- The selection is correct if and only if no rejected contour comes before one
that is selected. -/
theorem selects_iff (cv : OpenCV C K) (f : GearFrame C) (contours : List C) :
    Selects cv f contours ↔ Leading cv contours := by
  rw [leading_iff]
  match hits : cv.hits 0 contours with
  | [] => exact iff_of_true (selects_none f hits) rfl
  | [(first, i)] =>
    rw [selects_one f hits]
    simp
  | (first, i) :: (second, j) :: more =>
    rw [selects_two f hits]
    simp [List.range'_succ]

/-- Contours given by their area and rectangle. -/
def measuredContours : OpenCV (ℚ × Rect) ℚ := ⟨Prod.snd, Prod.fst, (0, ⟨0, 0, 0, 0⟩)⟩

def freshFrame : GearFrame (ℚ × Rect) :=
  ⟨measuredContours.empty, measuredContours.empty, ⟨0, 0, 0, 0⟩, ⟨0, 0, 0, 0⟩, false, 0, 0, 0, 0⟩

/-- A long thin contour is sorted before the only target. -/
theorem thin_contour_first :
    ¬Selects measuredContours freshFrame [(200, ⟨0, 0, 2, 100⟩), (1000, ⟨40, 10, 20, 50⟩)] := by
  have hits : measuredContours.hits 0 [(200, ⟨0, 0, 2, 100⟩), (1000, ⟨40, 10, 20, 50⟩)] =
      [((1000, ⟨40, 10, 20, 50⟩), 1)] := by
    simp [OpenCV.hits, OpenCV.qualifies, measuredContours, List.filter_cons]
    norm_num
  intro selects
  exact absurd ((selects_one freshFrame hits).mp selects) (by decide)

end Steamworks.Vision
