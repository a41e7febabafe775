/-!
# Splitting and joining at a separator

`splitOn` cuts a text at every occurrence of a separator and keeps the empty
pieces; `joinWith` puts the separator back. Main statements: joining the pieces
gives the text back (`joinWith_splitOn`), no piece holds the separator
(`not_mem_of_mem_splitOn`), and splitting recovers pieces that do not hold it
(`splitOn_joinWith`).
-/

set_option autoImplicit false

namespace ModuleResolution.Text

/-- The pieces of a text between the separators, empty ones included. -/
def splitOn (sep : Char) : List Char → List (List Char)
  | [] => [[]]
  | c :: cs =>
    if c = sep then [] :: splitOn sep cs
    else match splitOn sep cs with
      | [] => [[c]]
      | piece :: pieces => (c :: piece) :: pieces

/-- The pieces in order with one separator between neighbours. -/
def joinWith (sep : Char) : List (List Char) → List Char
  | [] => []
  | [piece] => piece
  | piece :: pieces => piece ++ sep :: joinWith sep pieces

theorem splitOn_ne_nil (sep : Char) (cs : List Char) : splitOn sep cs ≠ [] := by
  cases cs with
  | nil => simp [splitOn]
  | cons c cs =>
    simp only [splitOn]
    split
    · simp
    · split <;> simp

theorem joinWith_cons {sep : Char} {piece : List Char} {pieces : List (List Char)}
    (h : pieces ≠ []) :
    joinWith sep (piece :: pieces) = piece ++ sep :: joinWith sep pieces := by
  cases pieces with
  | nil => exact absurd rfl h
  | cons _ _ => rfl

/-- A leading character belongs to the first piece. -/
theorem joinWith_cons_head (sep c : Char) (piece : List Char) (pieces : List (List Char)) :
    joinWith sep ((c :: piece) :: pieces) = c :: joinWith sep (piece :: pieces) := by
  cases pieces <;> rfl

theorem joinWith_splitOn (sep : Char) (cs : List Char) :
    joinWith sep (splitOn sep cs) = cs := by
  induction cs with
  | nil => rfl
  | cons c cs ih =>
    simp only [splitOn]
    split
    · rename_i h
      rw [joinWith_cons (splitOn_ne_nil sep cs), ih, h]
      rfl
    · split
      · rename_i h
        exact absurd h (splitOn_ne_nil sep cs)
      · rename_i piece pieces h
        rw [joinWith_cons_head, ← h, ih]

theorem not_mem_of_mem_splitOn {sep : Char} {cs piece : List Char}
    (h : piece ∈ splitOn sep cs) : sep ∉ piece := by
  induction cs generalizing piece with
  | nil => simp_all [splitOn]
  | cons c cs ih =>
    simp only [splitOn] at h
    split at h
    · rcases List.mem_cons.1 h with rfl | h
      · simp
      · exact ih h
    · rename_i hc
      split at h
      · simp only [List.mem_singleton] at h
        subst h
        simpa using Ne.symm hc
      · rename_i first rest hs
        rcases List.mem_cons.1 h with rfl | h
        · have : sep ∉ first := ih (by rw [hs]; simp)
          simp [Ne.symm hc, this]
        · exact ih (by rw [hs]; simp [h])

theorem splitOn_of_not_mem {sep : Char} {cs : List Char} (h : sep ∉ cs) :
    splitOn sep cs = [cs] := by
  induction cs with
  | nil => rfl
  | cons c cs ih =>
    simp only [List.mem_cons, not_or] at h
    simp [splitOn, Ne.symm h.1, ih h.2]

theorem splitOn_append_sep {sep : Char} {cs : List Char} (h : sep ∉ cs) (rest : List Char) :
    splitOn sep (cs ++ sep :: rest) = cs :: splitOn sep rest := by
  induction cs with
  | nil => simp [splitOn]
  | cons c cs ih =>
    simp only [List.mem_cons, not_or] at h
    simp [splitOn, Ne.symm h.1, ih h.2]

/-- A text without the separator belongs to the first piece of what follows it. -/
theorem splitOn_plain_append {sep : Char} {cs rest piece : List Char} {pieces : List (List Char)}
    (h : sep ∉ cs) (split : splitOn sep rest = piece :: pieces) :
    splitOn sep (cs ++ rest) = (cs ++ piece) :: pieces := by
  induction cs with
  | nil => exact split
  | cons c cs ih =>
    simp only [List.mem_cons, not_or] at h
    simp [splitOn, Ne.symm h.1, ih h.2]

theorem splitOn_append (sep : Char) (cs rest : List Char) :
    splitOn sep (cs ++ sep :: rest) = splitOn sep cs ++ splitOn sep rest := by
  induction cs with
  | nil => simp [splitOn]
  | cons c cs ih =>
    by_cases h : c = sep
    · simp [splitOn, h, ih]
    · cases split : splitOn sep cs with
      | nil => exact absurd split (splitOn_ne_nil sep cs)
      | cons piece pieces => simp [splitOn, h, ih, split]

theorem splitOn_joinWith {sep : Char} {pieces : List (List Char)} (hne : pieces ≠ [])
    (h : ∀ piece ∈ pieces, sep ∉ piece) : splitOn sep (joinWith sep pieces) = pieces := by
  induction pieces with
  | nil => exact absurd rfl hne
  | cons piece pieces ih =>
    cases pieces with
    | nil => exact splitOn_of_not_mem (h piece (by simp))
    | cons next rest =>
      rw [joinWith_cons (by simp), splitOn_append_sep (h piece (by simp)),
        ih (by simp) fun p hp => h p (List.mem_cons_of_mem _ hp)]

end ModuleResolution.Text
