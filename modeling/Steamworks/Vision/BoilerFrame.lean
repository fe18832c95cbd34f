import Steamworks.Vision.GearFrame

/-! The boiler camera's target selection, on the contours of a frame in the order
they were sorted in: the upper target is the first contour of the right size and
shape, the lower one the first later one below or above it. -/
namespace Steamworks.Vision

/-- What is asked of a closed contour. -/
structure Outlines (C K : Type*) where
  boundingRect : C → Rect
  arcLength : C → K

structure BoilerFrame (C K : Type*) where
  upperContour : C
  lowerContour : C
  upperRect : Rect
  lowerRect : Rect
  azimuthError : ℤ
  centerlineError : ℤ
  minArcLength : K
  aspectRatioMin : K
  aspectRatioMax : K

/-- The variables of the loop; the limits hold anything before the first target. -/
structure Targets where
  targetIdx : List ℕ
  found : ℕ
  limLeft : ℤ
  limRight : ℤ

def Rect.center (rect : Rect) : ℤ := rect.x + rect.width.tdiv 2

variable {C K : Type*} [Field K] [LinearOrder K]

namespace BoilerFrame

def aspectRatio (rect : Rect) : K := rect.width / rect.height

def wrongAspect (f : BoilerFrame C K) (rect : Rect) : Prop :=
  (aspectRatio rect : K) < f.aspectRatioMin ∨ f.aspectRatioMax < aspectRatio rect

instance (f : BoilerFrame C K) (rect : Rect) : Decidable (f.wrongAspect rect) :=
  inferInstanceAs (Decidable (_ ∨ _))

/-- One contour against what was found: skipped, or the next target. -/
def accept (i : ℕ) (rect : Rect) (t : Targets) : Targets :=
  let t := if t.found == 0 then { t with limLeft := rect.x, limRight := rect.x + rect.width } else t
  if t.found == 1 ∧ (rect.center < t.limLeft ∨ t.limRight < rect.center) then t
  else { t with targetIdx := t.targetIdx ++ [i], found := t.found + 1 }

/-- The loop over the contours from position `i`, left once two are found. -/
def scan (f : BoilerFrame C K) (cv : Outlines C K) : ℕ → List C → Targets → Targets
  | _, [], t => t
  | i, contour :: rest, t =>
    if t.found == 2 then t
    else if cv.arcLength contour < f.minArcLength then f.scan cv (i + 1) rest t
    else
      let rect := cv.boundingRect contour
      if f.wrongAspect rect then f.scan cv (i + 1) rest t
      else f.scan cv (i + 1) rest (accept i rect t)

def setUpper (f : BoilerFrame C K) (cv : Outlines C K) (contour : C) : BoilerFrame C K :=
  { f with upperContour := contour, upperRect := cv.boundingRect contour }

def setLower (f : BoilerFrame C K) (cv : Outlines C K) (contour : C) : BoilerFrame C K :=
  { f with lowerContour := contour, lowerRect := cv.boundingRect contour }

def report (f : BoilerFrame C K) (rows cols : ℤ) : BoilerFrame C K :=
  { f with
    centerlineError := (f.lowerRect.y + f.upperRect.y).tdiv 2 - rows.tdiv 2
    azimuthError := cols.tdiv 2 - f.upperRect.x - f.upperRect.width.tdiv 2 }

/-- The members after the call and its result; nothing where a position is read
that does not exist. -/
def findTargets (f : BoilerFrame C K) (cv : Outlines C K) (rows cols : ℤ) (limLeft limRight : ℤ)
    (contours : List C) : Option (BoilerFrame C K × Bool) :=
  let target := fun i => contours[i]?
  match (f.scan cv 0 contours ⟨[], 0, limLeft, limRight⟩).targetIdx with
  | [] => some (f, false)
  | [upper] => (target upper).map fun upper => (f.setUpper cv upper, false)
  | [upper, lower] => (target upper).bind fun upper => (target lower).map fun lower =>
      (((f.setUpper cv upper).setLower cv lower).report rows cols, true)
  | _ => some (f.report rows cols, true)

end BoilerFrame

/-- `ProcessFrame` with the frame it retrieved: its two results, where there are
any. -/
def processBoilerFrame (f : BoilerFrame C K) (cv : Outlines C K) (rows cols : ℤ)
    (limLeft limRight : ℤ) (contours : List C) (errors : ℤ × ℤ) :
    Option (BoilerFrame C K × (ℤ × ℤ) × Bool) :=
  (f.findTargets cv rows cols limLeft limRight contours).map fun (f, found) =>
    if found then (f, (f.azimuthError, f.centerlineError), true) else (f, errors, false)

/-- Long enough, and of the right shape. -/
def BoilerFrame.qualifies (f : BoilerFrame C K) (cv : Outlines C K) (contour : C) : Bool :=
  decide (f.minArcLength ≤ cv.arcLength contour ∧
    f.aspectRatioMin ≤ aspectRatio (cv.boundingRect contour) ∧
      aspectRatio (cv.boundingRect contour) ≤ f.aspectRatioMax)

/-- The centre of a contour lies within the width of the upper target. -/
def Outlines.aligned (cv : Outlines C K) (upper contour : C) : Bool :=
  decide ((cv.boundingRect upper).x ≤ (cv.boundingRect contour).center ∧
    (cv.boundingRect contour).center ≤ (cv.boundingRect upper).x + (cv.boundingRect upper).width)

/-- The first qualifying contour and the first later one aligned with it. -/
def BoilerFrame.selection (f : BoilerFrame C K) (cv : Outlines C K) (contours : List C) :
    Option (C × C) :=
  match contours.filter (f.qualifies cv) with
  | [] => none
  | upper :: later => (later.find? (cv.aligned upper)).map fun lower => (upper, lower)

/-- The targets found from one list are found from a longer one, a position on. -/
def Found (contours : List C) (i : ℕ) (contour : C) (position : ℕ) : Prop :=
  ∃ j, contours[j]? = some contour ∧ position = i + j

/-- The positions found for the lower target among these contours, at most one. -/
def LowerFound (f : BoilerFrame C K) (cv : Outlines C K) (upper : C) (contours : List C) (i : ℕ)
    (positions : List ℕ) : Prop :=
  match (contours.filter (f.qualifies cv)).find? (cv.aligned upper) with
  | none => positions = []
  | some lower => ∃ k, Found contours i lower k ∧ positions = [k]

section Scan
variable {f : BoilerFrame C K} {cv : Outlines C K} {contour upper : C} {rest : List C} {i : ℕ}
  {t : Targets}

theorem found_head : Found (contour :: rest) i contour i := ⟨0, rfl, rfl⟩

theorem Found.later {found : C} {position : ℕ} (later : Found rest (i + 1) found position) :
    Found (contour :: rest) i found position := by
  obtain ⟨j, there, rfl⟩ := later
  exact ⟨j + 1, there, by omega⟩

theorem qualifies_iff : f.qualifies cv contour = true ↔
    ¬cv.arcLength contour < f.minArcLength ∧ ¬f.wrongAspect (cv.boundingRect contour) := by
  simp [BoilerFrame.qualifies, BoilerFrame.wrongAspect]

theorem scan_cons (more : t.found ≠ 2) : f.scan cv i (contour :: rest) t =
    if f.qualifies cv contour then
      f.scan cv (i + 1) rest (BoilerFrame.accept i (cv.boundingRect contour) t)
    else f.scan cv (i + 1) rest t := by
  rw [BoilerFrame.scan, if_neg (by simpa using more)]
  by_cases short : cv.arcLength contour < f.minArcLength
  · simp [qualifies_iff, short]
  · by_cases wrong : f.wrongAspect (cv.boundingRect contour)
    · simp [qualifies_iff, short, wrong]
    · simp [qualifies_iff, short, wrong]

theorem scan_two (two : t.found = 2) : f.scan cv i rest t = t := by
  cases rest with
  | nil => rfl
  | cons contour rest => rw [BoilerFrame.scan, if_pos (by simpa using two)]

theorem accept_upper (rect : Rect) (none : t.found = 0) : BoilerFrame.accept i rect t =
    ⟨t.targetIdx ++ [i], 1, rect.x, rect.x + rect.width⟩ := by
  simp [BoilerFrame.accept, none]

omit [Field K] [LinearOrder K] in
theorem accept_lower (one : t.found = 1) (left : t.limLeft = (cv.boundingRect upper).x)
    (right : t.limRight = (cv.boundingRect upper).x + (cv.boundingRect upper).width) :
    BoilerFrame.accept i (cv.boundingRect contour) t =
      if cv.aligned upper contour then { t with targetIdx := t.targetIdx ++ [i], found := 2 }
      else t := by
  by_cases inside : cv.aligned upper contour = true
  · have between := inside
    simp only [Outlines.aligned, decide_eq_true_eq] at between
    simp [BoilerFrame.accept, one, left, right, inside, between]
  · have outside := inside
    simp only [Outlines.aligned, decide_eq_true_eq, not_and_or, not_le] at outside
    simp [BoilerFrame.accept, one, left, right, inside, outside]

theorem LowerFound.later {positions : List ℕ} (later : LowerFound f cv upper rest (i + 1) positions)
    (passed : (f.qualifies cv contour && cv.aligned upper contour) = false) :
    LowerFound f cv upper (contour :: rest) i positions := by
  have same : ((contour :: rest).filter (f.qualifies cv)).find? (cv.aligned upper) =
      (rest.filter (f.qualifies cv)).find? (cv.aligned upper) := by
    cases qualified : f.qualifies cv contour with
    | false => rw [List.filter_cons_of_neg (by simp [qualified])]
    | true =>
      rw [qualified, Bool.true_and] at passed
      rw [List.filter_cons_of_pos qualified, List.find?_cons_of_neg (by simp [passed])]
  unfold LowerFound at later ⊢
  rw [same]
  split at later
  · exact later
  · obtain ⟨k, found, positions⟩ := later
    exact ⟨k, found.later, positions⟩

/-- With the upper target found, the scan goes on to the first aligned contour. -/
theorem scan_one (one : t.found = 1) (left : t.limLeft = (cv.boundingRect upper).x)
    (right : t.limRight = (cv.boundingRect upper).x + (cv.boundingRect upper).width) :
    ∃ positions, (f.scan cv i rest t).targetIdx = t.targetIdx ++ positions ∧
      LowerFound f cv upper rest i positions := by
  induction rest generalizing i with
  | nil => exact ⟨[], (List.append_nil _).symm, rfl⟩
  | cons contour rest ih =>
    have step : f.scan cv i (contour :: rest) t = _ := scan_cons (by omega)
    rw [accept_lower one left right] at step
    obtain ⟨positions, indices, found⟩ := ih (i := i + 1)
    cases qualified : f.qualifies cv contour with
    | false =>
      rw [qualified, if_neg Bool.false_ne_true] at step
      exact ⟨positions, step ▸ indices, found.later (by simp [qualified])⟩
    | true =>
      rw [qualified, if_pos rfl] at step
      cases inside : cv.aligned upper contour with
      | false =>
        rw [inside, if_neg Bool.false_ne_true] at step
        exact ⟨positions, step ▸ indices, found.later (by simp [inside])⟩
      | true =>
        rw [inside, if_pos rfl] at step
        refine ⟨[i], ?_, ?_⟩
        · rw [step, scan_two]
          rfl
        · rw [LowerFound, List.filter_cons_of_pos qualified, List.find?_cons_of_pos inside]
          exact ⟨i, found_head, rfl⟩

/-- From the start, the scan stops at the first qualifying contour and goes on
from there. -/
theorem scan_zero (f : BoilerFrame C K) (cv : Outlines C K) (i : ℕ) (t : Targets)
    (contours : List C) (start : t.found = 0) (nothing : t.targetIdx = []) :
    ((∀ c ∈ contours, f.qualifies cv c = false) ∧ (f.scan cv i contours t).targetIdx = []) ∨
      ∃ skipped upper later, contours = skipped ++ upper :: later ∧
        (∀ c ∈ skipped, f.qualifies cv c = false) ∧ f.qualifies cv upper = true ∧
          ∃ positions, (f.scan cv i contours t).targetIdx = (i + skipped.length) :: positions ∧
            LowerFound f cv upper later (i + skipped.length + 1) positions := by
  induction contours generalizing i with
  | nil => exact .inl ⟨by simp, nothing⟩
  | cons contour rest ih =>
    have step : f.scan cv i (contour :: rest) t = _ := scan_cons (by omega)
    rw [accept_upper _ start, nothing] at step
    cases qualified : f.qualifies cv contour with
    | false =>
      rw [qualified, if_neg Bool.false_ne_true] at step
      rw [step]
      obtain ⟨all, none⟩ | ⟨skipped, upper, later, rfl, others, first, positions, indices, found⟩ :=
        ih (i + 1)
      · exact .inl ⟨List.forall_mem_cons.mpr ⟨qualified, all⟩, none⟩
      · refine .inr ⟨contour :: skipped, upper, later, rfl,
          List.forall_mem_cons.mpr ⟨qualified, others⟩, first, positions, ?_⟩
        have shift : i + 1 + skipped.length = i + (contour :: skipped).length := by
          rw [List.length_cons]
          omega
        rw [← shift]
        exact ⟨indices, found⟩
    | true =>
      rw [qualified, if_pos rfl] at step
      let rect := cv.boundingRect contour
      obtain ⟨positions, indices, found⟩ : ∃ positions,
          (f.scan cv (i + 1) rest ⟨[] ++ [i], 1, rect.x, rect.x + rect.width⟩).targetIdx =
            [] ++ [i] ++ positions ∧ LowerFound f cv contour rest (i + 1) positions :=
        scan_one rfl rfl rfl
      exact .inr ⟨[], contour, rest, rfl, by simp, qualified, positions, step ▸ indices, found⟩

theorem Found.getElem? {skipped later : List C} {lower : C} {k : ℕ}
    (found : Found later (skipped.length + 1) lower k) :
    (skipped ++ upper :: later)[k]? = some lower := by
  obtain ⟨j, there, rfl⟩ := found
  rw [List.getElem?_append_right (by omega)]
  have beyond : skipped.length + 1 + j - skipped.length = j + 1 := by omega
  rw [beyond, List.getElem?_cons_succ, there]

end Scan

/-- The members the selected contours give, and a frame without such a pair leaves
the errors as they were. -/
def Reported (f : BoilerFrame C K) (cv : Outlines C K) (rows cols : ℤ) (contours : List C)
    (after : BoilerFrame C K) : Prop :=
  match f.selection cv contours with
  | none => after.azimuthError = f.azimuthError ∧ after.centerlineError = f.centerlineError
  | some (upper, lower) =>
    after.upperContour = upper ∧ after.upperRect = cv.boundingRect upper ∧
      after.lowerContour = lower ∧ after.lowerRect = cv.boundingRect lower ∧
      after.azimuthError =
        cols.tdiv 2 - (cv.boundingRect upper).x - (cv.boundingRect upper).width.tdiv 2 ∧
      after.centerlineError =
        ((cv.boundingRect lower).y + (cv.boundingRect upper).y).tdiv 2 - rows.tdiv 2

theorem selection_isSome_iff (f : BoilerFrame C K) (cv : Outlines C K) (contours : List C) :
    (f.selection cv contours).isSome ↔ ∃ upper later,
      contours.filter (f.qualifies cv) = upper :: later ∧ ∃ lower ∈ later, cv.aligned upper lower := by
  unfold BoilerFrame.selection
  cases contours.filter (f.qualifies cv) with
  | nil => simp
  | cons upper later => simp [List.find?_isSome]

section Selects
variable (f : BoilerFrame C K) (cv : Outlines C K) (rows cols limLeft limRight : ℤ)
  {contours : List C} {upper lower : C} {j k : ℕ}

theorem boilerTargets_none
    (nothing : (f.scan cv 0 contours ⟨[], 0, limLeft, limRight⟩).targetIdx = []) :
    f.findTargets cv rows cols limLeft limRight contours = some (f, false) := by
  rw [BoilerFrame.findTargets, nothing]

theorem boilerTargets_one
    (one : (f.scan cv 0 contours ⟨[], 0, limLeft, limRight⟩).targetIdx = [j])
    (first : contours[j]? = some upper) :
    f.findTargets cv rows cols limLeft limRight contours = some (f.setUpper cv upper, false) := by
  rw [BoilerFrame.findTargets, one]
  simp [first]

theorem boilerTargets_two
    (two : (f.scan cv 0 contours ⟨[], 0, limLeft, limRight⟩).targetIdx = [j, k])
    (first : contours[j]? = some upper) (second : contours[k]? = some lower) :
    f.findTargets cv rows cols limLeft limRight contours =
      some (((f.setUpper cv upper).setLower cv lower).report rows cols, true) := by
  rw [BoilerFrame.findTargets, two]
  simp [first, second]

/-- The selection succeeds exactly when some later qualifying contour is aligned
with the first, and then its members are those of that pair. -/
theorem findTargets_selects (contours : List C) :
    ∃ after found, f.findTargets cv rows cols limLeft limRight contours = some (after, found) ∧
      (found = true ↔ ∃ upper later, contours.filter (f.qualifies cv) = upper :: later ∧
        ∃ lower ∈ later, cv.aligned upper lower = true) ∧
      Reported f cv rows cols contours after ∧
      ∀ errors, processBoilerFrame f cv rows cols limLeft limRight contours errors =
        some (after, if found then (after.azimuthError, after.centerlineError) else errors,
          found) := by
  rw [← selection_isSome_iff]
  unfold Reported processBoilerFrame
  obtain ⟨others, none⟩ | ⟨skipped, upper, later, rfl, others, first, positions, indices, found⟩ :=
    scan_zero f cv 0 ⟨[], 0, limLeft, limRight⟩ contours rfl rfl
  · have unselected : f.selection cv contours = .none := by
      rw [BoilerFrame.selection, List.filter_eq_nil_iff.mpr (by simpa using others)]
    rw [unselected]
    have call := boilerTargets_none f cv rows cols limLeft limRight none
    exact ⟨f, false, call, by simp, ⟨rfl, rfl⟩, by simp [call]⟩
  · rw [Nat.zero_add] at indices found
    have upperAt : (skipped ++ upper :: later)[skipped.length]? = some upper := by simp
    have selected : f.selection cv (skipped ++ upper :: later) =
        ((later.filter (f.qualifies cv)).find? (cv.aligned upper)).map fun lower =>
          (upper, lower) := by
      rw [BoilerFrame.selection, List.filter_append,
        List.filter_eq_nil_iff.mpr (by simpa using others), List.filter_cons_of_pos first,
        List.nil_append]
    rw [selected]
    unfold LowerFound at found
    cases lowest : (later.filter (f.qualifies cv)).find? (cv.aligned upper) with
    | none =>
      rw [lowest] at found
      subst found
      have call := boilerTargets_one f cv rows cols limLeft limRight indices upperAt
      exact ⟨_, false, call, by simp, ⟨rfl, rfl⟩, by simp [call]⟩
    | some lower =>
      rw [lowest] at found
      obtain ⟨k, lowerFound, rfl⟩ := found
      have call := boilerTargets_two f cv rows cols limLeft limRight indices upperAt
        lowerFound.getElem?
      exact ⟨_, true, call, by simp, ⟨rfl, rfl, rfl, rfl, rfl, rfl⟩, by simp [call]⟩

end Selects
end Steamworks.Vision
