import Mathlib

/-! Velocities of points in the plane. They belong to one rigid motion when no
two points approach or leave each other; points that all turn about one centre
do so only if those out of line with it turn at the same rate. -/
namespace Library.Planar

variable {K : Type*} [Field K] {ι : Type*}

def dot (u v : K × K) : K := u.1 * v.1 + u.2 * v.2

def cross (u v : K × K) : K := u.1 * v.2 - u.2 * v.1

/-- The quarter turn from the first axis to the second. -/
def perp (u : K × K) : K × K := (-u.2, u.1)

/-- To first order the velocities keep every distance. -/
def Rigid (position velocity : ι → K × K) : Prop :=
  ∀ i j, dot (velocity i - velocity j) (position i - position j) = 0

/-- All points are carried along alike, and each turns about the centre at a
rate of its own. -/
def swirl (carried center : K × K) (rate : ι → K) (position : ι → K × K) (i : ι) : K × K :=
  carried + rate i • perp (position i - center)

@[simp] theorem dot_perp_self (u : K × K) : dot (perp u) u = 0 := by
  simp only [dot, perp]
  ring

@[simp] theorem dot_smul (k : K) (u v : K × K) : dot (k • u) v = k * dot u v := by
  simp only [dot, Prod.smul_fst, Prod.smul_snd, smul_eq_mul]
  ring

@[simp] theorem cross_smul_perp (k : K) (u : K × K) : cross u (k • perp u) = k * dot u u := by
  simp only [cross, dot, perp, Prod.smul_fst, Prod.smul_snd, smul_eq_mul]
  ring

theorem dot_swirl_sub (carried center : K × K) (rate : ι → K) (position : ι → K × K) (i j : ι) :
    dot (swirl carried center rate position i - swirl carried center rate position j)
        (position i - position j) =
      (rate i - rate j) * cross (position j - center) (position i - center) := by
  simp only [dot, cross, swirl, perp, Prod.fst_sub, Prod.snd_sub, Prod.fst_add, Prod.snd_add,
    Prod.smul_fst, Prod.smul_snd, smul_eq_mul]
  ring

/-- A swirl is rigid exactly when any two points turn at one rate or are in
line with the centre. -/
theorem rigid_swirl_iff (carried center : K × K) (rate : ι → K) (position : ι → K × K) :
    Rigid position (swirl carried center rate position) ↔
      ∀ i j, rate i = rate j ∨ cross (position j - center) (position i - center) = 0 := by
  have pair : ∀ i j, dot (swirl carried center rate position i -
        swirl carried center rate position j) (position i - position j) = 0 ↔
      rate i = rate j ∨ cross (position j - center) (position i - center) = 0 := by
    intro i j
    rw [dot_swirl_sub, mul_eq_zero, sub_eq_zero]
  exact forall_congr' fun i => forall_congr' fun j => pair i j

end Library.Planar
