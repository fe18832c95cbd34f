import Steamworks.Library.Reading

/-! What is typed at the motor tool, and its three readers. They all take the
input through `fgets` with a buffer of nine, so the readers are written over any
source of buffers; a source that hands out whole lines says what they are for. -/
namespace Steamworks.Bdc
open Library.Reading

/-- `fgets` with this much room: up to a newline, which is kept. It waits when
the input runs out first: a terminal's does not end, so no read fails, and a
character is one byte of it. -/
def fgets : ℕ → List Char → Option (List Char × List Char)
  | 0, input => some ([], input)
  | _ + 1, [] => none
  | room + 1, c :: input =>
      if c = '\n' then some ([c], input)
      else (fgets room input).map fun read => (c :: read.1, read.2)

theorem fgets_length {room : ℕ} {input buffer rest : List Char}
    (read : fgets room input = some (buffer, rest)) :
    buffer.length ≤ room ∧ input = buffer ++ rest ∧ (0 < room → 0 < buffer.length) := by
  induction room generalizing input buffer with
  | zero =>
    cases read
    exact ⟨le_refl 0, rfl, fun room => absurd room (lt_irrefl 0)⟩
  | succ room ih =>
    cases input with
    | nil => cases read
    | cons c input =>
      by_cases newline : c = '\n'
      · rw [fgets, if_pos newline] at read
        cases read
        simp
      · rw [fgets, if_neg newline, Option.map_eq_some_iff] at read
        obtain ⟨⟨first, last⟩, read, same⟩ := read
        cases same
        obtain ⟨short, split, _⟩ := ih read
        refine ⟨by simpa using short, by rw [split]; rfl, by simp⟩

/-- `char rawnumber[9]` and `char selection[9]`: eight characters and the NUL. -/
def kBufferSize : ℕ := 9

def stdin : Source (List Char) (List Char) where
  next := fgets (kBufferSize - 1)
  size := List.length
  smaller read := by
    obtain ⟨_, split, some⟩ := fgets_length read
    rw [split, List.length_append]
    have := some (by decide)
    omega

/-- A line of text as it is typed, without its newline. -/
structure Line where
  text : List Char
  newline : '\n' ∉ text
  nul : '\x00' ∉ text

def Line.terminated (l : Line) : List Char := l.text ++ ['\n']

def typed (lines : List Line) : List Char := lines.flatMap Line.terminated

/-- One typed line after the other. -/
def wholeLines : Source (List Line) (List Char) where
  next
    | [] => none
    | line :: rest => some (line.terminated, rest)
  size := List.length
  smaller {lines} {rest} {buffer} taken := by
    cases lines with
    | nil => cases taken
    | cons line others =>
      cases taken
      exact Nat.lt_succ_self _

def isspace (c : Char) : Bool :=
  c == ' ' || c == '\t' || c == '\n' || c == '\x0b' || c == '\x0c' || c == '\r'

def digits (text : List Char) : ℤ :=
  (text.takeWhile Char.isDigit).foldl (fun value c => 10 * value + (c.toNat - '0'.toNat : ℕ)) 0

def atoi (text : List Char) : ℤ :=
  match text.dropWhile isspace with
  | '-' :: text => -digits text
  | '+' :: text => digits text
  | text => digits text

section
variable {S V W : Type} (src : Source S (List Char)) (atof : List Char → V)

def query (s : S) : Option (V × S) :=
  (src.next s).map fun read => (atof read.1, read.2)

def isEscape (c : Char) : Bool := c == 'b' || c == 'B'

def query2 (func : V → W → W) (again : Bool) (w : W) (s : S) : W × Ended S :=
  match read : src.next s with
  | none => (w, .waiting)
  | some (rawnumber, rest) =>
      have := src.smaller read
      if rawnumber.any isEscape then (w, .returned rest)
      else if again then query2 func again (func (atof rawnumber) w) rest
      else (func (atof rawnumber) w, .returned rest)
termination_by src.size s

inductive Selection where
  | back
  | clear
  | exit
  | option (index : ℤ)
  | invalid

/-- What a menu of this length makes of what was typed, its last character cut
off. -/
def select (length : ℤ) (selection : List Char) : Selection :=
  if selection = ['b'] then .back
  else if selection = ['c'] then .clear
  else if selection = ['e'] ∨ selection = ['q'] then .exit
  else if 1 ≤ atoi selection ∧ atoi selection ≤ length then .option (atoi selection)
  else .invalid

def menu (length : ℤ) (funcs : ℤ → Reader src W) (loop : Bool) (w : W) (s : S) : W × Ended S :=
  match read : src.next s with
  | none => (w, .waiting)
  | some (selection, rest) =>
      have := src.smaller read
      match select length selection.dropLast with
      | .back => (w, .returned rest)
      | .clear => menu length funcs loop w rest
      | .exit => (w, .exited)
      | .invalid => menu length funcs loop w rest
      | .option index =>
        match ended : (funcs (index - 1)).read w rest with
        | (w, .returned rest) =>
            have := ((funcs (index - 1)).reaches (congrArg Prod.snd ended)).size_le
            if loop then menu length funcs loop w rest else (w, .returned rest)
        | (w, .waiting) => (w, .waiting)
        | (w, .exited) => (w, .exited)
termination_by src.size s

variable {src atof} {func : V → W → W} {again : Bool} {w : W} {s rest : S} {buffer : List Char}

theorem query2_none (nothing : src.next s = none) :
    query2 src atof func again w s = (w, .waiting) := by
  rw [query2]
  split
  · rfl
  · next read => rw [nothing] at read; cases read

theorem query2_some (read : src.next s = some (buffer, rest)) :
    query2 src atof func again w s =
      if buffer.any isEscape then (w, .returned rest)
      else if again then query2 src atof func again (func (atof buffer) w) rest
      else (func (atof buffer) w, .returned rest) := by
  rw [query2]
  split
  · next nothing => rw [read] at nothing; cases nothing
  · next other =>
    rw [read] at other
    cases other
    rfl

/-- What becomes of the menu once an option's function ended. -/
def menuThen (src : Source S (List Char)) (length : ℤ) (funcs : ℤ → Reader src W) (loop : Bool) :
    W × Ended S → W × Ended S
  | (w, .returned rest) => if loop then menu src length funcs loop w rest else (w, .returned rest)
  | (w, .waiting) => (w, .waiting)
  | (w, .exited) => (w, .exited)

variable {length : ℤ} {funcs : ℤ → Reader src W} {loop : Bool}

theorem menu_none (nothing : src.next s = none) :
    menu src length funcs loop w s = (w, .waiting) := by
  rw [menu]
  split
  · rfl
  · next read => rw [nothing] at read; cases read

theorem menu_some (read : src.next s = some (buffer, rest)) :
    menu src length funcs loop w s =
      match select length buffer.dropLast with
      | .back => (w, .returned rest)
      | .clear => menu src length funcs loop w rest
      | .exit => (w, .exited)
      | .invalid => menu src length funcs loop w rest
      | .option index => menuThen src length funcs loop ((funcs (index - 1)).read w rest) := by
  rw [menu]
  split
  · next nothing => rw [read] at nothing; cases nothing
  · next other =>
    rw [read] at other
    cases other
    dsimp only
    cases select length buffer.dropLast with
    | option index =>
      dsimp only
      split
      all_goals
        next ended =>
          rw [ended]
          rfl
    | _ => rfl

end
end Steamworks.Bdc
