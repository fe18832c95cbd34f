import Steamworks.Bdc.Input

/-! When one typed line is one command: exactly when every line, with its
newline, fits the buffer of one read. -/
namespace Steamworks.Bdc
open Library.Reading

section
variable {S T V W : Type} {src : Source S (List Char)} {spec : Source T (List Char)}
  {atof : List Char → V} {func : V → W → W} {again : Bool}
  {length : ℤ} {loop : Bool}

theorem query2_reaches {w : W} {s rest : S}
    (returned : (query2 src atof func again w s).2 = .returned rest) : src.Reaches s rest := by
  induction size : src.size s using Nat.strong_induction_on generalizing w s with
  | _ n ih =>
    cases read : src.next s with
    | none =>
      rw [query2_none read] at returned
      cases returned
    | some next =>
      obtain ⟨buffer, t⟩ := next
      have first : src.Reaches s t := .step read (.refl t)
      rw [query2_some read] at returned
      split_ifs at returned
      · cases returned
        exact first
      · exact first.trans (ih (src.size t) (size ▸ src.smaller read) returned rfl)
      · cases returned
        exact first

theorem menu_reaches {funcs : ℤ → Reader src W} {w : W} {s rest : S}
    (returned : (menu src length funcs loop w s).2 = .returned rest) : src.Reaches s rest := by
  induction size : src.size s using Nat.strong_induction_on generalizing w s with
  | _ n ih =>
    cases read : src.next s with
    | none =>
      rw [menu_none read] at returned
      cases returned
    | some next =>
      obtain ⟨buffer, t⟩ := next
      have first : src.Reaches s t := .step read (.refl t)
      have smaller : src.size t < n := size ▸ src.smaller read
      rw [menu_some read] at returned
      cases chosen : select length buffer.dropLast with
      | back =>
        rw [chosen] at returned
        cases returned
        exact first
      | clear =>
        rw [chosen] at returned
        exact first.trans (ih _ smaller returned rfl)
      | exit =>
        rw [chosen] at returned
        cases returned
      | invalid =>
        rw [chosen] at returned
        exact first.trans (ih _ smaller returned rfl)
      | option index =>
        rw [chosen] at returned
        dsimp only at returned
        cases acted : (funcs (index - 1)).read w t with
        | mk v ended =>
          have second : ∀ u, ended = .returned u → src.Reaches t u := fun u same =>
            (funcs (index - 1)).reaches (by rw [acted]; exact same)
          rw [acted] at returned
          cases ended with
          | returned u =>
            have reached := second u rfl
            rw [menuThen] at returned
            split_ifs at returned
            · exact first.trans (reached.trans
                (ih _ (reached.size_le.trans_lt smaller) returned rfl))
            · cases returned
              exact first.trans reached
          | waiting => cases returned
          | exited => cases returned

/-- The readers an option's function may consist of. -/
def query2Reader (src : Source S (List Char)) (atof : List Char → V) (func : V → W → W)
    (again : Bool) : Reader src W := ⟨query2 src atof func again, query2_reaches⟩

def menuReader (src : Source S (List Char)) (length : ℤ) (funcs : ℤ → Reader src W)
    (loop : Bool) : Reader src W := ⟨menu src length funcs loop, menu_reaches⟩

variable (sim : Simulation src spec)

theorem query2_agrees :
    sim.Agrees (query2Reader src atof func again) (query2Reader spec atof func again) := by
  intro w t fine
  change query2 src atof func again w (sim.view t) = _
  induction size : spec.size t using Nat.strong_induction_on generalizing w t with
  | _ n ih =>
    simp only [query2Reader] at ih ⊢
    cases read : spec.next t with
    | none =>
      rw [query2_none read, query2_none (sim.next_none fine read)]
      rfl
    | some next =>
      obtain ⟨buffer, u⟩ := next
      rw [query2_some read, query2_some (sim.next_some fine read)]
      split_ifs
      · rfl
      · exact ih _ (size ▸ spec.smaller read) _ u (sim.kept fine read) rfl
      · rfl

theorem menu_agrees {funcs : ℤ → Reader src W} {acts : ℤ → Reader spec W}
    (agree : ∀ index, sim.Agrees (funcs index) (acts index)) :
    sim.Agrees (menuReader src length funcs loop) (menuReader spec length acts loop) := by
  intro w t fine
  change menu src length funcs loop w (sim.view t) = _
  induction size : spec.size t using Nat.strong_induction_on generalizing w t with
  | _ n ih =>
    simp only [menuReader] at ih ⊢
    cases read : spec.next t with
    | none =>
      rw [menu_none read, menu_none (sim.next_none fine read)]
      rfl
    | some next =>
      obtain ⟨buffer, u⟩ := next
      have smaller : spec.size u < n := size ▸ spec.smaller read
      have kept := sim.kept fine read
      rw [menu_some read, menu_some (sim.next_some fine read)]
      cases select length buffer.dropLast with
      | back => rfl
      | clear => exact ih _ smaller w u kept rfl
      | exit => rfl
      | invalid => exact ih _ smaller w u kept rfl
      | option index =>
        dsimp only
        rw [agree (index - 1) w u kept]
        cases acted : (acts (index - 1)).read w u with
        | mk v ended =>
          cases ended with
          | returned x =>
            have reached := (acts (index - 1)).reaches (congrArg Prod.snd acted)
            simp only [Ended.map, menuThen]
            split_ifs
            · exact ih _ (reached.size_le.trans_lt smaller) v x (sim.reaches kept reached) rfl
            · rfl
          | waiting => rfl
          | exited => rfl

end

theorem fgets_line {text input : List Char} {room : ℕ} (plain : '\n' ∉ text)
    (short : text.length < room) :
    fgets room (text ++ '\n' :: input) = some (text ++ ['\n'], input) := by
  induction text generalizing room with
  | nil =>
    cases room with
    | zero => exact absurd short (lt_irrefl 0)
    | succ room => simp [fgets]
  | cons c text ih =>
    cases room with
    | zero => exact absurd short (Nat.not_lt_zero _)
    | succ room =>
      rw [List.mem_cons, not_or] at plain
      have tail : text.length < room := Nat.lt_of_succ_lt_succ short
      rw [List.cons_append, fgets, if_neg (Ne.symm plain.1), ih plain.2 tail]
      rfl

theorem typed_cons (line : Line) (rest : List Line) :
    typed (line :: rest) = line.text ++ '\n' :: typed rest := by
  simp [typed, Line.terminated]

theorem read_line {line : Line} (short : line.text.length ≤ 7) (rest : List Line) :
    stdin.next (typed (line :: rest)) = some (line.terminated, typed rest) := by
  rw [typed_cons]
  exact fgets_line line.newline (Nat.lt_succ_of_le short)

theorem buffer_length (input : List Char) : ∀ buffer ∈ stdin.all input, buffer.length ≤ 8 := by
  induction size : stdin.size input using Nat.strong_induction_on generalizing input with
  | _ n ih =>
    intro buffer member
    cases read : stdin.next input with
    | none =>
      rw [all_none read] at member
      cases member
    | some next =>
      obtain ⟨first, rest⟩ := next
      rw [all_some read] at member
      rcases List.mem_cons.mp member with rfl | later
      · exact (fgets_length read).1
      · exact ih _ (size ▸ stdin.smaller read) rest rfl buffer later

theorem all_wholeLines (lines : List Line) :
    wholeLines.all lines = lines.map Line.terminated := by
  induction lines with
  | nil => exact all_none rfl
  | cons line rest ih =>
    have first : wholeLines.next (line :: rest) = some (line.terminated, rest) := rfl
    rw [all_some first, ih, List.map_cons]

/-- Lines that fit are read as whole lines, from the start of any of them. -/
def lineByLine {lines : List Line} (short : ∀ line ∈ lines, line.text.length ≤ 7) :
    Simulation stdin wholeLines where
  view := typed
  fine rest := rest <:+ lines
  next {rest} later := by
    cases rest with
    | nil => rfl
    | cons line rest => exact read_line (short line (later.subset (List.mem_cons_self ..))) rest
  kept {rest} {others} {buffer} later taken := by
    cases rest with
    | nil => cases taken
    | cons line rest =>
      cases taken
      exact (List.suffix_cons line _).trans later

def hasEscape (line : Line) : Bool := line.text.any isEscape

theorem terminated_escape (line : Line) : line.terminated.any isEscape = hasEscape line := by
  simp [Line.terminated, hasEscape, isEscape]

/-- Where reading values leaves the lines: after the first with an escape. -/
def afterEscape (lines : List Line) : Ended (List Line) :=
  match lines.dropWhile fun line => !hasEscape line with
  | [] => .waiting
  | _ :: rest => .returned rest

theorem query2_wholeLines {V W : Type} (atof : List Char → V) (func : V → W → W) (w : W)
    (lines : List Line) :
    query2 wholeLines atof func true w lines =
      (((lines.takeWhile fun line => !hasEscape line).map fun line =>
          atof line.terminated).foldl (fun w value => func value w) w, afterEscape lines) := by
  induction lines generalizing w with
  | nil => exact query2_none rfl
  | cons line rest ih =>
    have first : wholeLines.next (line :: rest) = some (line.terminated, rest) := rfl
    rw [query2_some first, terminated_escape]
    cases escape : hasEscape line with
    | true => simp [afterEscape, escape]
    | false => simp [afterEscape, escape, ih]

/-- Every read takes one of the lines, whole: what a value, a series of values
and a menu make of them, and any nesting of these. -/
structure OneCommandALine (V : Type) (atof : List Char → V) (lines : List Line) : Prop where
  buffers : stdin.all (typed lines) = lines.map Line.terminated
  query : ∀ line rest, line :: rest <:+ lines →
    query stdin atof (typed (line :: rest)) = some (atof line.terminated, typed rest)
  query2 : ∀ (W : Type) (func : V → W → W) (w : W) (rest : List Line), rest <:+ lines →
    query2 stdin atof func true w (typed rest) =
      (((rest.takeWhile fun line => !hasEscape line).map fun line =>
          atof line.terminated).foldl (fun w value => func value w) w,
        (afterEscape rest).map typed)
  menu : ∀ (W : Type) (length : ℤ) (funcs : ℤ → Reader stdin W) (loop : Bool) (w : W) line rest,
    line :: rest <:+ lines →
    menu stdin length funcs loop w (typed (line :: rest)) =
      match select length line.text with
      | .back => (w, .returned (typed rest))
      | .clear => menu stdin length funcs loop w (typed rest)
      | .exit => (w, .exited)
      | .invalid => menu stdin length funcs loop w (typed rest)
      | .option index =>
          menuThen stdin length funcs loop ((funcs (index - 1)).read w (typed rest))

theorem one_command_a_line_iff (V : Type) (atof : List Char → V) (lines : List Line) :
    OneCommandALine V atof lines ↔ ∀ line ∈ lines, line.text.length ≤ 7 := by
  constructor
  · intro commands line member
    have whole : line.terminated ∈ stdin.all (typed lines) := by
      rw [commands.buffers]
      exact List.mem_map_of_mem member
    have fits := buffer_length (typed lines) line.terminated whole
    rw [Line.terminated, List.length_append, List.length_singleton] at fits
    omega
  · intro short
    constructor
    · exact ((lineByLine short).all (List.suffix_refl lines)).trans (all_wholeLines lines)
    · intro line rest later
      rw [query, read_line (short line (later.subset (List.mem_cons_self ..)))]
      rfl
    · intro W func w rest later
      have reader : (lineByLine short).Agrees (query2Reader stdin atof func true)
          (query2Reader wholeLines atof func true) := query2_agrees _
      have agrees := reader w rest later
      simp only [query2Reader, query2_wholeLines] at agrees
      exact agrees
    · intro W length funcs loop w line rest later
      have text : select length line.terminated.dropLast = select length line.text := by
        rw [Line.terminated, List.dropLast_concat]
      have read := read_line (short line (later.subset (List.mem_cons_self ..))) rest
      refine (menu_some read).trans ?_
      cases chosen : select length line.text <;> simp only [text, chosen]

/-- Ten digits: the number ends after eight, and the rest is the next. -/
theorem ten_digits_split :
    ¬∀ lines : List Line, OneCommandALine ℤ atoi lines := by
  intro handled
  let line : Line := ⟨['1', '2', '3', '4', '5', '6', '7', '8', '9', '0'], by decide, by decide⟩
  have whole := (handled [line]).query line [] (List.suffix_refl _)
  have split : query stdin atoi (typed [line]) = some (12345678, ['9', '0', '\n']) := by decide
  rw [split] at whole
  cases whole

/-- Any reader built from these handles the lines one after the other. -/
theorem menu_line_by_line {W : Type} {length : ℤ} {loop : Bool} {lines : List Line}
    (short : ∀ line ∈ lines, line.text.length ≤ 7) {funcs : ℤ → Reader stdin W}
    {acts : ℤ → Reader wholeLines W}
    (agree : ∀ index, (lineByLine short).Agrees (funcs index) (acts index)) (w : W) :
    menu stdin length funcs loop w (typed lines) =
      ((menu wholeLines length acts loop w lines).1,
        (menu wholeLines length acts loop w lines).2.map typed) :=
  menu_agrees (lineByLine short) agree w lines (List.suffix_refl lines)

end Steamworks.Bdc
